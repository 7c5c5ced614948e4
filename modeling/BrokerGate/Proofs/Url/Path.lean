import BrokerGate.Proofs.Text.Ascii
import BrokerGate.Proofs.Text.Split
import BrokerGate.Proofs.Url.Percent
import BrokerGate.Url.Path
import Mathlib.Data.List.Induction

/-! Segments that reading leaves as they are, and paths made of them. A path that has been read
consists of such segments, and a path that consists of them is read as itself. -/
namespace BrokerGate.Url
open Text

/-- Nothing to escape, no separator, and no dot to resolve. -/
structure SettledSegment (s : Segment) : Prop where
  spared : ∀ c ∈ s, EscapeSet.path.escapes c = false
  noSlash : '/' ∉ s
  noBackslash : '\\' ∉ s
  notDot : isDotSegment s = false

theorem settledSegment_nil : SettledSegment [] where
  spared := by simp
  noSlash := by simp
  noBackslash := by simp
  notDot := by decide +kernel

theorem pathText_eq_cons {ps : List Segment} (h : ps ≠ []) :
    pathText ps = '/' :: joinWith ['/'] ps := by
  induction ps with
  | nil => exact absurd rfl h
  | cons p ps ih =>
    by_cases hps : ps = []
    · subst hps
      simp [pathText]
    · rw [joinWith_cons _ _ hps, List.append_assoc, List.singleton_append, ← ih hps]
      rfl

theorem pathText_append (ps qs : List Segment) :
    pathText (ps ++ qs) = pathText ps ++ pathText qs := by
  simp [pathText]

theorem pieces_pathText {ps : List Segment} (h : ∀ p ∈ ps, '/' ∉ p) :
    pieces '/' (pathText ps) = [] :: ps := by
  by_cases hps : ps = []
  · subst hps
    rfl
  · rw [pathText_eq_cons hps]
    change pieces '/' ([] ++ '/' :: joinWith ['/'] ps) = _
    rw [pieces_append_cons, pieces_joinWith hps h]
    rfl

theorem pathText_inj {ps qs : List Segment} (hp : ∀ p ∈ ps, '/' ∉ p) (hq : ∀ q ∈ qs, '/' ∉ q)
    (h : pathText ps = pathText qs) : ps = qs := by
  have hpieces := pieces_pathText hp
  rw [h, pieces_pathText hq] at hpieces
  exact (List.cons.inj hpieces).2.symm

theorem mem_pathText {ps : List Segment} {c : Char} (h : c ∈ pathText ps) :
    c = '/' ∨ ∃ p ∈ ps, c ∈ p := by
  obtain ⟨p, hp, hc⟩ := List.mem_flatMap.mp h
  exact (List.mem_cons.mp hc).imp_right fun hc => ⟨p, hp, hc⟩

/-- A text behind a slash is the path of its pieces. -/
theorem pathText_pieces (cs : List Char) : pathText (pieces '/' cs) = '/' :: cs := by
  rw [pathText_eq_cons (pieces_ne_nil '/' cs), joinWith_pieces]

section Root

/-- Every path is one that does not end with an empty segment and empty segments behind it. -/
theorem exists_root (ps : List Segment) : ∃ (root : List Segment) (n : Nat),
    ps = root ++ List.replicate n [] ∧ ∀ s ∈ root.getLast?, s ≠ [] := by
  induction ps using List.reverseRecOn with
  | nil => exact ⟨[], 0, rfl, by simp⟩
  | append_singleton ps s ih =>
    by_cases hs : s = []
    · obtain ⟨root, n, rfl, hroot⟩ := ih
      refine ⟨root, n + 1, ?_, hroot⟩
      rw [hs, List.replicate_succ', List.append_assoc]
    · exact ⟨ps ++ [s], 0, by simp, by simpa using hs⟩

theorem pathText_replicate (n : Nat) : pathText (List.replicate n []) = List.replicate n '/' := by
  induction n with
  | zero => rfl
  | succ n ih =>
    rw [List.replicate_succ, List.replicate_succ, ← ih]
    rfl

theorem getLast?_pathText {root : List Segment} (hslash : ∀ s ∈ root, '/' ∉ s)
    (hlast : ∀ s ∈ root.getLast?, s ≠ []) : ∀ c ∈ (pathText root).getLast?, c ≠ '/' := by
  rcases List.eq_nil_or_concat root with rfl | ⟨ps, s, rfl⟩
  · simp [pathText]
  · have hne : s ≠ [] := hlast s (by simp)
    have hmem : '/' ∉ s := hslash s (by simp)
    have hlast : (pathText (ps.concat s)).getLast? = s.getLast? := by
      obtain ⟨t, d, rfl⟩ := (List.eq_nil_or_concat s).resolve_left hne
      have hsegment : pathText [t ++ [d]] = ('/' :: t) ++ [d] := by simp [pathText]
      rw [List.concat_eq_append, List.concat_eq_append, pathText_append, hsegment,
        ← List.append_assoc, List.getLast?_concat, List.getLast?_concat]
    rw [hlast]
    rintro c hc rfl
    exact hmem (List.mem_of_mem_getLast? hc)

end Root

section Dots

/-- A dot and its escape, in lower case. -/
def dotTexts : List Segment := [['.'], ['%', '2', 'e']]

/-- One dot or two, each as it stands or escaped with a letter of either case. -/
def IsDots (s : Segment) : Prop :=
  s.map Char.toLower ∈ dotTexts ∨ ∃ a ∈ dotTexts, ∃ b ∈ dotTexts, s.map Char.toLower = a ++ b

instance (s : Segment) : Decidable (IsDots s) := inferInstanceAs (Decidable (_ ∨ _))

theorem eq_of_toLower {c d : Char} (h : c.toLower = d) (hd : d ∈ ['.', '%', '2', 'e']) :
    c = d ∨ c = 'E' ∧ d = 'e' := by
  have hall : ∀ d ∈ ['.', '%', '2', 'e'], d.toNat < 128 := by simp
  have hlt := toNat_lt_of_toLower (h ▸ hall d hd)
  subst h
  revert hd
  exact forall_ascii (p := fun c => c.toLower ∈ ['.', '%', '2', 'e'] →
    c = c.toLower ∨ c = 'E' ∧ c.toLower = 'e') (by decide +kernel) hlt

theorem mem_dotSpellings {s : Segment} (h : s.map Char.toLower ∈ dotTexts) :
    s ∈ dotSpellings := by
  rcases List.mem_cons.mp h with h | h
  · obtain ⟨c, cs, rfl, hc, hcs⟩ := List.map_eq_cons_iff.mp h
    obtain rfl : c = '.' := by simpa using eq_of_toLower hc (by decide)
    obtain rfl := List.map_eq_nil_iff.mp hcs
    decide +kernel
  · obtain ⟨c, cs, rfl, hc, hcs⟩ := List.map_eq_cons_iff.mp (List.mem_singleton.mp h)
    obtain ⟨d, ds, rfl, hd, hds⟩ := List.map_eq_cons_iff.mp hcs
    obtain ⟨x, xs, rfl, hx, hxs⟩ := List.map_eq_cons_iff.mp hds
    obtain rfl := List.map_eq_nil_iff.mp hxs
    obtain rfl : c = '%' := by simpa using eq_of_toLower hc (by decide)
    obtain rfl : d = '2' := by simpa using eq_of_toLower hd (by decide)
    obtain rfl | ⟨rfl, -⟩ := eq_of_toLower hx (by decide) <;> decide +kernel

/-- The segments that reading resolves are the spellings of one dot or two. -/
theorem isDotSegment_iff {s : Segment} : isDotSegment s = true ↔ IsDots s := by
  simp only [isDotSegment, isSingleDot, isDoubleDot, Bool.or_eq_true, List.contains_iff_mem,
    List.any_eq_true, decide_eq_true_eq]
  constructor
  · have hall : ∀ a ∈ dotSpellings, IsDots a ∧ ∀ b ∈ dotSpellings, IsDots (a ++ b) := by
      decide +kernel
    rintro (h | ⟨a, ha, b, hb, rfl⟩)
    · exact (hall s h).1
    · exact (hall a ha).2 b hb
  · rintro (h | ⟨a, ha, b, hb, h⟩)
    · exact .inl (mem_dotSpellings h)
    · obtain ⟨s₁, s₂, rfl, rfl, rfl⟩ := List.map_eq_append_iff.mp h
      exact .inr ⟨s₁, mem_dotSpellings ha, s₂, mem_dotSpellings hb, rfl⟩
end Dots

section Resolve
variable {parents ps : List Segment}

theorem isDotSegment_eq_false_iff {s : Segment} :
    isDotSegment s = false ↔ isSingleDot s = false ∧ isDoubleDot s = false := by
  simp [isDotSegment]

/-- Without dot segments nothing is resolved. -/
theorem resolve_of_no_dots (h : ∀ s ∈ ps, isDotSegment s = false) :
    resolve parents ps = parents.reverse ++ ps := by
  fun_induction resolve parents ps with
  | case1 => simp
  | case2 | case3 | case5 | case6 => simp_all [isDotSegment_eq_false_iff]
  | case4 => simp
  | case7 parents s t rest _ _ ih =>
    rw [ih fun x hx => h x (List.mem_cons_of_mem _ hx)]
    simp

theorem mem_of_mem_dropParent {s : Segment} (h : s ∈ dropParent parents) : s ∈ parents := by
  cases parents with
  | nil => exact h
  | cons p rest =>
    rw [dropParent] at h
    split at h
    · exact h
    · exact List.mem_cons_of_mem _ h

/-- What is left is empty, stood there before, or is a segment of the text that is no dot. -/
theorem mem_resolve {s : Segment} (h : s ∈ resolve parents ps) :
    s = [] ∨ s ∈ parents ∨ (s ∈ ps ∧ isDotSegment s = false) := by
  fun_induction resolve parents ps with
  | case1 => exact .inr (.inl (List.mem_reverse.mp h))
  | case2 parents t =>
    rcases List.mem_cons.mp (List.mem_reverse.mp h) with rfl | h
    · exact .inl rfl
    · exact .inr (.inl (mem_of_mem_dropParent h))
  | case3 parents t =>
    rcases List.mem_cons.mp (List.mem_reverse.mp h) with rfl | h
    · exact .inl rfl
    · exact .inr (.inl h)
  | case4 parents t hd hs =>
    rcases List.mem_cons.mp (List.mem_reverse.mp h) with rfl | h
    · exact .inr (.inr ⟨List.mem_singleton_self _, by simp_all [isDotSegment]⟩)
    · exact .inr (.inl h)
  | case5 parents t u rest _ ih =>
    rcases ih h with rfl | h | h
    · exact .inl rfl
    · exact .inr (.inl (mem_of_mem_dropParent h))
    · exact .inr (.inr ⟨List.mem_cons_of_mem _ h.1, h.2⟩)
  | case6 parents t u rest _ _ ih =>
    rcases ih h with rfl | h | h
    · exact .inl rfl
    · exact .inr (.inl h)
    · exact .inr (.inr ⟨List.mem_cons_of_mem _ h.1, h.2⟩)
  | case7 parents t u rest hd hs ih =>
    rcases ih h with rfl | h | h
    · exact .inl rfl
    · rcases List.mem_cons.mp h with rfl | h
      · exact .inr (.inr ⟨List.mem_cons_self .., by simp_all [isDotSegment]⟩)
      · exact .inr (.inl h)
    · exact .inr (.inr ⟨List.mem_cons_of_mem _ h.1, h.2⟩)

theorem resolve_ne_nil (h : ps ≠ []) : resolve parents ps ≠ [] := by
  fun_induction resolve parents ps with
  | case1 => exact absurd rfl h
  | case2 | case3 | case4 => simp
  | case5 _ _ _ _ _ ih | case6 _ _ _ _ _ _ ih | case7 _ _ _ _ _ _ ih => exact ih (by simp)

end Resolve

theorem readSegments_ne_nil (special : Bool) (cs : List Char) : readSegments special cs ≠ [] := by
  apply resolve_ne_nil
  simp [rawSegments]

/-- In a web URL the segments that are read stand for themselves. -/
theorem settledSegment_of_mem_readSegments {cs : List Char} {s : Segment}
    (h : s ∈ readSegments true cs) : SettledSegment s := by
  rcases mem_resolve h with rfl | h | ⟨h, hdot⟩
  · exact settledSegment_nil
  · cases h
  · obtain ⟨t, ht, rfl⟩ := List.mem_map.mp h
    have hslash : '/' ∉ t := notMem_of_mem_pieces ht
    have hback : '\\' ∉ t := by
      intro hb
      obtain ⟨c, _, hc⟩ := List.mem_map.mp (mem_of_mem_pieces ht hb)
      split at hc <;> simp_all
    refine ⟨fun c hc => path_sparesEscapes.escapes_eq_false hc, fun hc => ?_, fun hc => ?_, hdot⟩
    · rcases mem_escape hc with hc | hc
      · exact hslash hc.1
      · revert hc; decide +kernel
    · rcases mem_escape hc with hc | hc
      · exact hback hc.1
      · revert hc; decide +kernel

/-- Settled segments are read back from the text that they make. -/
theorem readSegments_joinWith {ps : List Segment} (hne : ps ≠ [])
    (h : ∀ p ∈ ps, SettledSegment p) : readSegments true (joinWith ['/'] ps) = ps := by
  have hback : '\\' ∉ joinWith ['/'] ps := by
    intro hb
    have hmem : '\\' ∈ pathText ps := by
      rw [pathText_eq_cons hne]
      exact List.mem_cons_of_mem _ hb
    rcases mem_pathText hmem with hc | ⟨p, hp, hc⟩
    · cases hc
    · exact (h p hp).noBackslash hc
  have hmap : (joinWith ['/'] ps).map (fun c => if c = '\\' then '/' else c) =
      joinWith ['/'] ps := by
    refine (List.map_congr_left fun c hc => ?_).trans (List.map_id _)
    rw [if_neg (by rintro rfl; exact hback hc), id]
  have hesc : ps.map (escape .path) = ps :=
    (List.map_congr_left fun p hp => escape_eq_self (h p hp).spared).trans (List.map_id _)
  rw [readSegments, rawSegments, if_pos rfl, hmap, pieces_joinWith hne fun p hp => (h p hp).noSlash,
    hesc, resolve_of_no_dots fun p hp => (h p hp).notDot]
  rfl

end BrokerGate.Url
