import BrokerGate.Idna.Name
import BrokerGate.Proofs.Idna.Punycode

/-! The ASCII form of a host name stands for itself: it is cut into the labels that it was written
from, so that converting it once more changes nothing. -/
namespace BrokerGate.Idna
open Text

section MapM
variable {α β : Type} {f : α → Option β} {xs : List α} {ys : List β}

theorem mapM_some_map {g : α → β} (h : ∀ x ∈ xs, f x = some (g x)) :
    xs.mapM f = some (xs.map g) := by
  induction xs with
  | nil => rfl
  | cons x xs ih =>
    rw [List.forall_mem_cons] at h
    rw [List.mapM_cons, h.1, ih h.2]
    rfl

theorem mapM_map_eq_some {g : β → α} (h : ∀ y ∈ ys, f (g y) = some y) :
    (ys.map g).mapM f = some ys := by
  induction ys with
  | nil => rfl
  | cons y ys ih =>
    rw [List.forall_mem_cons] at h
    rw [List.map_cons, List.mapM_cons, h.1, ih h.2]
    rfl

theorem ne_nil_of_mapM (h : xs.mapM f = some ys) (hne : xs ≠ []) : ys ≠ [] := by
  cases xs with
  | nil => exact absurd rfl hne
  | cons x xs =>
    rw [List.mapM_cons] at h
    obtain ⟨first, -, h⟩ := Option.bind_eq_some_iff.mp h
    obtain ⟨more, -, h⟩ := Option.bind_eq_some_iff.mp h
    cases h
    exact List.cons_ne_nil first more

theorem exists_of_mem_mapM (h : xs.mapM f = some ys) {y : β} (hy : y ∈ ys) :
    ∃ x ∈ xs, f x = some y := by
  induction xs generalizing ys with
  | nil =>
    cases h
    cases hy
  | cons x xs ih =>
    rw [List.mapM_cons] at h
    obtain ⟨first, hfirst, h⟩ := Option.bind_eq_some_iff.mp h
    obtain ⟨more, hmore, h⟩ := Option.bind_eq_some_iff.mp h
    cases h
    rcases List.mem_cons.mp hy with rfl | hy
    · exact ⟨x, List.mem_cons_self, hfirst⟩
    · obtain ⟨x', hx', hy'⟩ := ih hmore hy
      exact ⟨x', List.mem_cons_of_mem _ hx', hy'⟩

end MapM

/-- ASCII that stands for itself. -/
def IsPlain (c : Char) : Prop := c.toNat < 0x80 ∧ image? c = some [c]

section Plain
variable {cs l : List Char}

theorem isPlain_of_toLower {c : Char} (h : c.toNat < 0x80) (hlower : c.toLower = c) :
    IsPlain c := by
  refine ⟨h, ?_⟩
  rw [image?, if_pos h, hlower]

theorem isPlain_of_isDigit {c : Char} (h : Punycode.IsDigit c) : IsPlain c ∧ c ≠ '.' := by
  obtain ⟨n, hn, rfl⟩ := h
  have hall : ∀ m : Fin 36, (Punycode.digitOf m).toNat < 0x80 ∧
      (Punycode.digitOf m).toLower = Punycode.digitOf m ∧ Punycode.digitOf m ≠ '.' := by
    decide +kernel
  obtain ⟨hascii, hlower, hdot⟩ := hall ⟨n, hn⟩
  exact ⟨isPlain_of_toLower hascii hlower, hdot⟩

theorem labels?_of_isPlain (h : ∀ c ∈ cs, IsPlain c) :
    labels? cs = (pieces '.' cs).mapM unicodeLabel? := by
  have himages : cs.mapM image? = some (cs.map fun c => [c]) :=
    mapM_some_map fun c hc => (h c hc).2
  have hcompose : compose cs = cs := by
    rw [compose, if_pos]
    exact List.all_eq_true.mpr fun c hc => decide_eq_true (h c hc).1
  have hflat : (cs.map fun c => [c]).flatten = cs := List.flatMap_singleton' cs
  rw [labels?, himages, Option.bind_eq_bind, Option.bind_some, hflat, hcompose]

theorem joinersFit_of_ascii {before : List Char} (h : ∀ c ∈ l, c.toNat < 0x80) :
    joinersFit before l = true := by
  induction l generalizing before with
  | nil => rfl
  | cons c l ih =>
    rw [List.forall_mem_cons] at h
    have hjoiner : ¬ (decide (c = nonJoiner) || decide (c = joiner)) = true := by
      rw [Bool.or_eq_true, decide_eq_true_eq, decide_eq_true_eq]
      rintro (rfl | rfl)
      · exact absurd h.1 (by decide +kernel)
      · exact absurd h.1 (by decide +kernel)
    rw [joinersFit, if_neg hjoiner, Bool.true_and]
    exact ih h.2

theorem isStable_of_isPlain (h : ∀ c ∈ l, IsPlain c) : isStable l = true := by
  have hcompose : compose l = l := by
    rw [compose, if_pos]
    exact List.all_eq_true.mpr fun c hc => decide_eq_true (h c hc).1
  have hmark : (!l.head?.any isMark) = true := by
    rw [Bool.not_eq_true', Option.any_eq_false]
    intro c hc
    have hlow : ¬ 0x80 ≤ c.toNat := Nat.not_le_of_lt (h c (List.mem_of_mem_head? hc)).1
    rw [isMark, decide_eq_false hlow, Bool.false_and]
  have himage : l.all (fun c => decide (image? c = some [c])) = true :=
    List.all_eq_true.mpr fun c hc => decide_eq_true (h c hc).2
  rw [isStable, hcompose, hmark, himage, joinersFit_of_ascii fun c hc => (h c hc).1,
    decide_eq_true rfl]
  rfl

/-- Lower case ASCII without a marked label is its own ASCII form. -/
theorem toAscii?_of_isPlain (h : ∀ c ∈ cs, IsPlain c)
    (hallowed : ∀ c ∈ cs, isForbidden c = false)
    (hunmarked : ∀ l ∈ pieces '.' cs, dropWord? marker l = none) : toAscii? cs = some cs := by
  have hplain {l : List Char} (hl : l ∈ pieces '.' cs) : ∀ c ∈ l, IsPlain c := fun c hc =>
    h c (mem_of_mem_pieces hl hc)
  have hascii {l : List Char} (hl : l ∈ pieces '.' cs) : isAscii l = true :=
    List.all_eq_true.mpr fun c hc => decide_eq_true (hplain hl c hc).1
  have hlabels : labels? cs = some (pieces '.' cs) := by
    rw [labels?_of_isPlain h, mapM_some_map (g := id) fun l hl => ?_, List.map_id]
    rw [unicodeLabel?, hunmarked l hl, id]
  have htext : asciiText (pieces '.' cs) = cs := by
    have hsame : (pieces '.' cs).map asciiLabel = (pieces '.' cs).map id :=
      List.map_congr_left fun l hl => by rw [asciiLabel, if_pos (hascii hl), id]
    rw [asciiText, hsame, List.map_id, joinWith_pieces]
  have hleft : (pieces '.' cs).any (·.any isRightToLeft) = false := by
    simp only [List.any_eq_false]
    intro l hl
    rw [Bool.not_eq_true, List.any_eq_false]
    intro c hc
    have hlow : ¬ 0x80 ≤ c.toNat := Nat.not_le_of_lt (hplain hl c hc).1
    rw [Bool.not_eq_true, isRightToLeft, decide_eq_false hlow, Bool.false_and]
  have hvalid : areValid (pieces '.' cs) = true := by
    rw [areValid, hleft, Bool.not_false, Bool.true_or, Bool.and_true, List.all_eq_true]
    intro l hl
    rw [isStable_of_isPlain (hplain hl), isWritable, hascii hl, Bool.true_or, Bool.true_and]
  have hany : cs.any isForbidden = false := by
    rw [List.any_eq_false]
    exact fun c hc => by simp [hallowed c hc]
  rw [toAscii?, hlabels, Option.bind_eq_bind, Option.bind_some, htext, hvalid, hany]
  exact if_pos (by rw [Bool.not_false, Bool.true_and])

end Plain

section Label
variable {piece l : List Char}

/-- A code is read as the label that it was written for. -/
theorem unicodeLabel?_marked (hl : isAscii l = false)
    (hdecode : Punycode.decode? (Punycode.encode l) = some l)
    (hcode : isAscii (marker ++ Punycode.encode l) = true) :
    unicodeLabel? (marker ++ Punycode.encode l) = some l := by
  rw [unicodeLabel?, dropWord?_append]
  dsimp only
  rw [if_pos hcode, hdecode]
  simp [hl]

/-- What a label that is not ASCII was read from. -/
theorem code_of_unicodeLabel? (h : unicodeLabel? piece = some l) :
    l = piece ∨ isAscii l = false ∧ piece = marker ++ Punycode.encode l ∧
      Punycode.decode? (Punycode.encode l) = some l := by
  rw [unicodeLabel?] at h
  split at h
  · exact .inl (Option.some.inj h).symm
  · next code hcode =>
    rw [eq_append_of_dropWord? hcode]
    split at h
    · split at h
      · next decoded hdecoded =>
        split at h
        · cases h
        · next hkept =>
          cases h
          rw [Bool.or_eq_true, not_or, decide_eq_true_eq, Decidable.not_not] at hkept
          obtain ⟨hascii, rfl⟩ := hkept
          exact .inr ⟨Bool.eq_false_iff.mpr hascii, rfl, hdecoded⟩
      · cases h
    · cases h

theorem isPlain_of_mem_asciiLabel (h : isStable l = true) {c : Char} (hc : c ∈ asciiLabel l) :
    IsPlain c := by
  have hself {d : Char} (hd : d ∈ l) (hascii : d.toNat < 0x80) : IsPlain d := by
    simp only [isStable, Bool.and_eq_true, List.all_eq_true, decide_eq_true_eq] at h
    exact ⟨hascii, h.1.1.1 d hd⟩
  have hsigns : ('-' :: marker).all (fun d => d.toNat < 0x80 && d.toLower = d) = true := by
    decide +kernel
  have hsign {d : Char} (hd : d ∈ '-' :: marker) : IsPlain d := by
    have h := List.all_eq_true.mp hsigns d hd
    rw [Bool.and_eq_true, decide_eq_true_eq, decide_eq_true_eq] at h
    exact isPlain_of_toLower h.1 h.2
  rw [asciiLabel] at hc
  split at hc
  · next hascii => exact hself hc (of_decide_eq_true (List.all_eq_true.mp hascii c hc))
  · rcases List.mem_append.mp hc with hc | hc
    · exact hsign (List.mem_cons_of_mem _ hc)
    · rcases Punycode.mem_encode hc with ⟨hmem, hlow⟩ | rfl | hdigit
      · exact hself hmem hlow
      · exact hsign List.mem_cons_self
      · exact (isPlain_of_isDigit hdigit).1

theorem dot_notMem_asciiLabel (hread : unicodeLabel? piece = some l) (hdot : '.' ∉ piece) :
    '.' ∉ asciiLabel l := by
  rcases code_of_unicodeLabel? hread with rfl | ⟨hl, rfl, -⟩
  · rw [asciiLabel]
    split
    · exact hdot
    · intro hmem
      rcases List.mem_append.mp hmem with hmem | hmem
      · exact absurd hmem (by decide +kernel)
      · rcases Punycode.mem_encode hmem with ⟨hmem, -⟩ | hsign | hdigit
        · exact hdot hmem
        · exact absurd hsign (by decide)
        · exact (isPlain_of_isDigit hdigit).2 rfl
  · rwa [asciiLabel, hl, if_neg (by decide)]

/-- A label is read back from its ASCII form. -/
theorem unicodeLabel?_asciiLabel (hread : unicodeLabel? piece = some l)
    (hstable : isStable l = true) (hwritable : isWritable l = true) :
    unicodeLabel? (asciiLabel l) = some l := by
  have hascii : isAscii (asciiLabel l) = true :=
    List.all_eq_true.mpr fun c hc => decide_eq_true (isPlain_of_mem_asciiLabel hstable hc).1
  cases hl : isAscii l with
  | true =>
    have hself : asciiLabel l = l := by rw [asciiLabel, if_pos hl]
    rcases code_of_unicodeLabel? hread with rfl | ⟨hl', -⟩
    · rw [hself, hread]
    · rw [hl] at hl'
      cases hl'
  | false =>
    have hmarked : asciiLabel l = marker ++ Punycode.encode l := by
      rw [asciiLabel, hl, if_neg (by decide)]
    have hshort : l.length ≤ Punycode.longest := by
      rwa [isWritable, hl, Bool.false_or, decide_eq_true_eq] at hwritable
    rw [hmarked] at hascii ⊢
    exact unicodeLabel?_marked hl (Punycode.decode?_encode hshort) hascii

end Label

section Name
variable {name ascii : List Char} {ls : List (List Char)}

/-- The ASCII form of a name is cut into the labels that it was written from. -/
theorem labels?_asciiText (h : labels? name = some ls) (hvalid : areValid ls = true) :
    labels? (asciiText ls) = some ls := by
  rw [labels?] at h
  obtain ⟨images, -, h⟩ := Option.bind_eq_some_iff.mp h
  have hvalid : ∀ l ∈ ls, isStable l = true ∧ isWritable l = true := by
    rw [areValid, Bool.and_eq_true, List.all_eq_true] at hvalid
    exact fun l hl => Bool.and_eq_true_iff.mp (hvalid.1 l hl)
  have hpieces : pieces '.' (asciiText ls) = ls.map asciiLabel := by
    have hne : ls.map asciiLabel ≠ [] := fun hnil =>
      ne_nil_of_mapM h (pieces_ne_nil _ _) (List.map_eq_nil_iff.mp hnil)
    refine pieces_joinWith hne fun p hp => ?_
    obtain ⟨l, hl, rfl⟩ := List.mem_map.mp hp
    obtain ⟨piece, hpiece, hread⟩ := exists_of_mem_mapM h hl
    exact dot_notMem_asciiLabel hread (notMem_of_mem_pieces hpiece)
  have hplain : ∀ c ∈ asciiText ls, IsPlain c := by
    intro c hc
    rcases mem_joinWith hc with hc | ⟨p, hp, hc⟩
    · rw [List.mem_singleton.mp hc]
      exact isPlain_of_toLower (by decide) (by decide)
    · obtain ⟨l, hl, rfl⟩ := List.mem_map.mp hp
      exact isPlain_of_mem_asciiLabel (hvalid l hl).1 hc
  rw [labels?_of_isPlain hplain, hpieces]
  refine mapM_map_eq_some fun l hl => ?_
  obtain ⟨piece, -, hread⟩ := exists_of_mem_mapM h hl
  exact unicodeLabel?_asciiLabel hread (hvalid l hl).1 (hvalid l hl).2

theorem exists_labels (h : toAscii? name = some ascii) : ∃ ls, labels? name = some ls ∧
    areValid ls = true ∧ ascii = asciiText ls ∧ ∀ c ∈ ascii, isForbidden c = false := by
  rw [toAscii?] at h
  obtain ⟨ls, hls, h⟩ := Option.bind_eq_some_iff.mp h
  split at h
  · next hok =>
    cases h
    rw [Bool.and_eq_true, Bool.not_eq_true', List.any_eq_false] at hok
    exact ⟨ls, hls, hok.1, rfl, fun c hc => Bool.eq_false_iff.mpr (hok.2 c hc)⟩
  · cases h

theorem isForbidden_of_toAscii? (h : toAscii? name = some ascii) :
    ∀ c ∈ ascii, isForbidden c = false := by
  obtain ⟨-, -, -, -, hallowed⟩ := exists_labels h
  exact hallowed

/-- The ASCII form of a name is its own ASCII form. -/
theorem toAscii?_fixed (h : toAscii? name = some ascii) : toAscii? ascii = some ascii := by
  obtain ⟨ls, hls, hvalid, rfl, hallowed⟩ := exists_labels h
  have hany : (asciiText ls).any isForbidden = false :=
    List.any_eq_false.mpr fun c hc => Bool.eq_false_iff.mp (hallowed c hc)
  rw [toAscii?, labels?_asciiText hls hvalid, Option.bind_eq_bind, Option.bind_some, hvalid, hany]
  exact if_pos rfl

end Name

end BrokerGate.Idna
