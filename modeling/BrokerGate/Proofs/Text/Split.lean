import BrokerGate.Text.Split

/-! Cutting a text and putting it together again: each cut of a joined text gives back the parts
that were joined, as long as no separator stands inside them. -/
namespace BrokerGate.Text

section First
variable {sep : Char}

theorem cutFirst_append {a : List Char} (h : sep ∉ a) (b : List Char) :
    cutFirst sep (a ++ sep :: b) = some (a, b) := by
  induction a with
  | nil => simp [cutFirst]
  | cons c a ih =>
    rw [List.mem_cons, not_or] at h
    simp only [List.cons_append, cutFirst, if_neg (Ne.symm h.1), ih h.2, Option.map_some]

theorem cutFirst_eq_none_iff {cs : List Char} : cutFirst sep cs = none ↔ sep ∉ cs := by
  induction cs with
  | nil => simp [cutFirst]
  | cons c cs ih =>
    rw [cutFirst, List.mem_cons, not_or]
    split
    · simp_all
    · simp only [Option.map_eq_none_iff, ih]
      exact (and_iff_right fun h => by simp_all).symm

theorem cutFirst_eq_some {cs a b : List Char} (h : cutFirst sep cs = some (a, b)) :
    sep ∉ a ∧ cs = a ++ sep :: b := by
  induction cs generalizing a with
  | nil => cases h
  | cons c cs ih =>
    rw [cutFirst] at h
    split at h
    · cases h
      simp_all
    · obtain ⟨⟨a', b'⟩, hcut, heq⟩ := Option.map_eq_some_iff.mp h
      cases heq
      obtain ⟨hn, rfl⟩ := ih hcut
      refine ⟨?_, rfl⟩
      simp_all [eq_comm]

end First

section Last
variable {sep : Char}

theorem cutLast_eq_none_iff {cs : List Char} : cutLast sep cs = none ↔ sep ∉ cs := by
  induction cs with
  | nil => simp [cutLast]
  | cons c cs ih =>
    rw [cutLast, List.mem_cons, not_or]
    cases h : cutLast sep cs with
    | some p =>
      rw [h] at ih
      simpa using fun _ => ih
    | none =>
      rw [h] at ih
      have hs := ih.mp rfl
      by_cases hc : c = sep
      · simp [hc]
      · simp [hc, hs, Ne.symm hc]

theorem cutLast_append (a : List Char) {b : List Char} (h : sep ∉ b) :
    cutLast sep (a ++ sep :: b) = some (a, b) := by
  induction a with
  | nil => simp [cutLast, cutLast_eq_none_iff.mpr h]
  | cons c a ih => simp [cutLast, ih]

end Last

section Pieces
variable {sep : Char}

theorem pieces_of_notMem {cs : List Char} (h : sep ∉ cs) : pieces sep cs = [cs] := by
  induction cs with
  | nil => rfl
  | cons c cs ih =>
    rw [List.mem_cons, not_or] at h
    simp only [pieces, if_neg (Ne.symm h.1), ih h.2]

theorem pieces_append_cons (a b : List Char) :
    pieces sep (a ++ sep :: b) = pieces sep a ++ pieces sep b := by
  induction a with
  | nil => simp [pieces]
  | cons c a ih =>
    simp only [List.cons_append, pieces, ih]
    split
    · rfl
    · cases h : pieces sep a with
      | nil => exact absurd h (pieces_ne_nil sep a)
      | cons p ps => rfl

theorem notMem_of_mem_pieces {cs p : List Char} (h : p ∈ pieces sep cs) : sep ∉ p := by
  induction cs generalizing p with
  | nil => simp_all [pieces]
  | cons c cs ih =>
    rw [pieces] at h
    split at h
    · rcases List.mem_cons.mp h with rfl | h
      · simp
      · exact ih h
    · rename_i hc
      cases hp : pieces sep cs with
      | nil => exact absurd hp (pieces_ne_nil sep cs)
      | cons q qs =>
        rw [hp] at h ih
        rcases List.mem_cons.mp h with rfl | h
        · have hq := ih (List.mem_cons_self ..)
          simp_all [eq_comm]
        · exact ih (List.mem_cons_of_mem _ h)

theorem mem_of_mem_pieces {cs p : List Char} (h : p ∈ pieces sep cs) {c : Char} (hc : c ∈ p) :
    c ∈ cs := by
  induction cs generalizing p with
  | nil => simp_all [pieces]
  | cons d cs ih =>
    rw [pieces] at h
    split at h
    · rcases List.mem_cons.mp h with rfl | h
      · cases hc
      · exact List.mem_cons_of_mem _ (ih h hc)
    · cases hp : pieces sep cs with
      | nil => exact absurd hp (pieces_ne_nil sep cs)
      | cons q qs =>
        rw [hp] at h ih
        rcases List.mem_cons.mp h with rfl | h
        · rcases List.mem_cons.mp hc with rfl | hc
          · exact List.mem_cons_self ..
          · exact List.mem_cons_of_mem _ (ih (List.mem_cons_self ..) hc)
        · exact List.mem_cons_of_mem _ (ih (List.mem_cons_of_mem _ h) hc)

theorem joinWith_cons (s : List Char) (p : List Char) {ps : List (List Char)} (h : ps ≠ []) :
    joinWith s (p :: ps) = p ++ s ++ joinWith s ps := List.intercalate_cons_of_ne_nil h

@[simp] theorem joinWith_singleton (s p : List Char) : joinWith s [p] = p :=
  List.intercalate_singleton

theorem mem_joinWith {s : List Char} {ps : List (List Char)} {c : Char}
    (h : c ∈ joinWith s ps) : c ∈ s ∨ ∃ p ∈ ps, c ∈ p := by
  induction ps with
  | nil => cases h
  | cons p ps ih =>
    rcases Decidable.em (ps = []) with rfl | hne
    · exact .inr ⟨p, List.mem_singleton_self p, by rwa [joinWith_singleton] at h⟩
    · rw [joinWith_cons s p hne, List.append_assoc, List.mem_append, List.mem_append] at h
      rcases h with h | h | h
      · exact .inr ⟨p, List.mem_cons_self, h⟩
      · exact .inl h
      · exact (ih h).imp_right fun ⟨q, hq, hc⟩ => ⟨q, List.mem_cons_of_mem p hq, hc⟩

/-- Parts without separators are what a joined text is cut into. -/
theorem pieces_joinWith {ps : List (List Char)} (hne : ps ≠ []) (h : ∀ p ∈ ps, sep ∉ p) :
    pieces sep (joinWith [sep] ps) = ps := by
  induction ps with
  | nil => exact absurd rfl hne
  | cons p ps ih =>
    have hp := h p (List.mem_cons_self ..)
    by_cases hps : ps = []
    · subst hps
      rw [joinWith_singleton, pieces_of_notMem hp]
    · rw [joinWith_cons _ _ hps, List.append_assoc, List.singleton_append, pieces_append_cons,
        pieces_of_notMem hp, ih hps fun q hq => h q (List.mem_cons_of_mem _ hq),
        List.singleton_append]

theorem joinWith_pieces (cs : List Char) : joinWith [sep] (pieces sep cs) = cs := by
  induction cs with
  | nil => rfl
  | cons c cs ih =>
    rw [pieces]
    split
    · rename_i hc
      rw [joinWith_cons _ _ (pieces_ne_nil sep cs), ih, hc]
      rfl
    · cases hp : pieces sep cs with
      | nil => exact absurd hp (pieces_ne_nil sep cs)
      | cons q qs =>
        rw [hp] at ih
        by_cases hqs : qs = []
        · subst hqs
          simp_all
        · rw [joinWith_cons _ _ hqs] at ih ⊢
          rw [← ih]
          rfl

theorem joinWith_append_cons (s : List Char) (xs : List (List Char)) (p : List Char)
    (ys : List (List Char)) :
    joinWith s (xs ++ p :: ys) = xs.flatMap (· ++ s) ++ p ++ ys.flatMap (s ++ ·) := by
  induction xs with
  | nil =>
    induction ys generalizing p with
    | nil => simp
    | cons y ys ih =>
      have hstep : joinWith s (y :: ys) = y ++ ys.flatMap (s ++ ·) := by simpa using ih y
      rw [List.nil_append, joinWith_cons _ _ (by simp), hstep]
      simp
  | cons x xs ih => rw [List.cons_append, joinWith_cons _ _ (by simp), ih]; simp

/-- A piece is a stretch without separators between two of them or the ends of the text. -/
theorem mem_pieces_iff {cs p : List Char} : p ∈ pieces sep cs ↔ sep ∉ p ∧
    ∃ a b, cs = a ++ p ++ b ∧ (∀ c ∈ a.getLast?, c = sep) ∧ ∀ c ∈ b.head?, c = sep := by
  constructor
  · intro h
    refine ⟨notMem_of_mem_pieces h, ?_⟩
    obtain ⟨xs, ys, hsplit⟩ := List.append_of_mem h
    refine ⟨xs.flatMap (· ++ [sep]), ys.flatMap ([sep] ++ ·), ?_, ?_, ?_⟩
    · rw [← joinWith_append_cons, ← hsplit, joinWith_pieces]
    · rcases List.eq_nil_or_concat xs with rfl | ⟨xs, x, rfl⟩
      · simp
      · intro c hc
        simpa [eq_comm] using hc
    · cases ys with
      | nil => simp
      | cons y ys => simp
  · rintro ⟨hp, a, b, rfl, ha, hb⟩
    have hright : p ∈ pieces sep (p ++ b) := by
      cases b with
      | nil => simp [pieces_of_notMem hp]
      | cons c b =>
        obtain rfl : c = sep := hb c rfl
        simp [pieces_append_cons, pieces_of_notMem hp]
    rw [List.append_assoc]
    rcases List.eq_nil_or_concat a with rfl | ⟨a, c, rfl⟩
    · exact hright
    · obtain rfl : c = sep := ha c (by simp)
      rw [List.concat_eq_append, List.append_assoc, List.singleton_append, pieces_append_cons]
      exact List.mem_append_right _ hright

end Pieces

section Span
variable {p : Char → Bool} {a b : List Char}

/-- A run of a class ends in front of a character that is not of it. -/
theorem span_append (ha : ∀ c ∈ a, p c = true) (hb : ∀ c ∈ b.head?, p c = false) :
    (a ++ b).takeWhile p = a ∧ (a ++ b).dropWhile p = b := by
  rw [List.takeWhile_append_of_pos ha, List.dropWhile_append_of_pos ha]
  cases b with
  | nil => simp
  | cons c b =>
    have hc : ¬ p c = true := by simp [hb c rfl]
    rw [List.takeWhile_cons_of_neg hc, List.dropWhile_cons_of_neg hc, List.append_nil]
    exact ⟨rfl, rfl⟩

theorem head?_dropWhile (p : Char → Bool) (cs : List Char) :
    ∀ c ∈ (cs.dropWhile p).head?, p c = false := by
  intro c hc
  have hfound := List.head?_dropWhile_not p cs
  rw [Option.mem_def] at hc
  rwa [hc] at hfound

/-- A run in front of a text is dropped. -/
theorem exists_dropWhile (p : Char → Bool) (cs : List Char) : ∃ a b, cs = a ++ b ∧
    cs.dropWhile p = b ∧ (∀ c ∈ a, p c = true) ∧ ∀ c ∈ b.head?, p c = false :=
  ⟨cs.takeWhile p, cs.dropWhile p, List.takeWhile_append_dropWhile.symm, rfl,
    List.all_eq_true.mp List.all_takeWhile, head?_dropWhile p cs⟩

theorem exists_span (p : Char → Bool) (cs : List Char) : ∃ a b, cs = a ++ b ∧
    (∀ c ∈ a, p c = true) ∧ ∀ c ∈ b.head?, p c = false := by
  obtain ⟨a, b, hcs, -, ha, hb⟩ := exists_dropWhile p cs
  exact ⟨a, b, hcs, ha, hb⟩

end Span

section Trim
variable {p : Char → Bool}

theorem trimEndBy_append_cons (a b : List Char) {c : Char} (h : p c = false) :
    trimEndBy p (a ++ c :: b) = a ++ c :: trimEndBy p b := by
  simp only [trimEndBy, List.reverse_append, List.reverse_cons, List.append_assoc,
    List.dropWhile_append]
  by_cases hb : (b.reverse.dropWhile p).isEmpty
  · simp [h, List.isEmpty_iff.mp hb]
  · simp [hb]

theorem trimEndBy_eq_self {cs : List Char} (h : ∀ c ∈ cs.getLast?, p c = false) :
    trimEndBy p cs = cs := by
  rcases List.eq_nil_or_concat cs with rfl | ⟨a, c, rfl⟩
  · rfl
  · have hc : p c = false := h c (by simp)
    simpa [trimEndBy] using trimEndBy_append_cons a [] hc

theorem trimEndBy_append_of_pos (a : List Char) {b : List Char} (h : ∀ c ∈ b, p c = true) :
    trimEndBy p (a ++ b) = trimEndBy p a := by
  have hall : ∀ c ∈ b.reverse, p c = true := fun c hc => h c (List.mem_reverse.mp hc)
  rw [trimEndBy, List.reverse_append, List.dropWhile_append_of_pos hall]
  rfl

theorem exists_trimEndBy (p : Char → Bool) (cs : List Char) :
    ∃ r, cs = trimEndBy p cs ++ r ∧ ∀ c ∈ r, p c = true := by
  refine ⟨(cs.reverse.takeWhile p).reverse, ?_, fun c hc => ?_⟩
  · rw [trimEndBy, ← List.reverse_append, List.takeWhile_append_dropWhile, List.reverse_reverse]
  · exact List.all_eq_true.mp List.all_takeWhile c (List.mem_reverse.mp hc)

/-- Trimming takes characters of the class off both ends. -/
theorem exists_trimBy (p : Char → Bool) (cs : List Char) :
    ∃ l r, cs = l ++ trimBy p cs ++ r ∧ ∀ c ∈ l ++ r, p c = true := by
  obtain ⟨r, hr, hpr⟩ := exists_trimEndBy p (trimStartBy p cs)
  refine ⟨cs.takeWhile p, r, ?_, fun c hc => ?_⟩
  · rw [trimBy, List.append_assoc, ← hr, trimStartBy, List.takeWhile_append_dropWhile]
  · exact (List.mem_append.mp hc).elim (List.all_eq_true.mp List.all_takeWhile c) (hpr c)

theorem getLast?_trimEndBy (cs : List Char) : ∀ c ∈ (trimEndBy p cs).getLast?, p c = false := by
  rw [trimEndBy, List.getLast?_reverse]
  exact head?_dropWhile p _

theorem head?_trimBy (cs : List Char) : ∀ c ∈ (trimBy p cs).head?, p c = false := by
  intro c hc
  obtain ⟨r, hr, -⟩ := exists_trimEndBy p (trimStartBy p cs)
  apply head?_dropWhile p cs
  obtain ⟨t, ht⟩ := List.head?_eq_some_iff.mp hc
  rw [trimBy] at ht
  rw [ht] at hr
  rw [trimStartBy] at hr
  rw [hr]
  rfl

theorem trimBy_eq_self {cs : List Char} (hhead : ∀ c ∈ cs.head?, p c = false)
    (hlast : ∀ c ∈ cs.getLast?, p c = false) : trimBy p cs = cs := by
  have hstart : trimStartBy p cs = cs := (span_append (a := []) (by simp) hhead).2
  rw [trimBy, hstart, trimEndBy_eq_self hlast]

theorem getLast?_trimBy (cs : List Char) : ∀ c ∈ (trimBy p cs).getLast?, p c = false :=
  getLast?_trimEndBy _

/-- Trimming stops at characters that are not of the class. -/
theorem trimBy_framed {l m r : List Char} (hl : ∀ c ∈ l, p c = true) (hr : ∀ c ∈ r, p c = true)
    (hhead : ∀ c ∈ m.head?, p c = false) (hlast : ∀ c ∈ m.getLast?, p c = false) (hne : m ≠ []) :
    trimBy p (l ++ m ++ r) = m := by
  obtain ⟨c, t, rfl⟩ := List.exists_cons_of_ne_nil hne
  have hc : p c = false := hhead c rfl
  rw [trimBy, trimStartBy, List.append_assoc, List.dropWhile_append_of_pos hl, List.cons_append,
    List.dropWhile_cons_of_neg (by simp [hc]), ← List.cons_append, trimEndBy_append_of_pos _ hr,
    trimEndBy_eq_self hlast]

theorem trimBy_append {l m r : List Char} (hl : ∀ c ∈ l, p c = true) (hr : ∀ c ∈ r, p c = true)
    (hm : ∀ c ∈ m, p c = false) (hne : m ≠ []) : trimBy p (l ++ m ++ r) = m :=
  trimBy_framed hl hr (fun c hc => hm c (List.mem_of_mem_head? hc))
    (fun c hc => hm c (List.mem_of_mem_getLast? hc)) hne

theorem trimBy_eq_nil_iff {cs : List Char} : trimBy p cs = [] ↔ ∀ c ∈ cs, p c = true := by
  constructor
  · intro h
    obtain ⟨l, r, hcs, hall⟩ := exists_trimBy p cs
    rw [h, List.append_nil] at hcs
    rwa [hcs]
  · intro h
    have hstart : trimStartBy p cs = [] := by
      rw [trimStartBy, ← List.append_nil cs, List.dropWhile_append_of_pos h]
      rfl
    rw [trimBy, hstart]
    rfl

/-- More of the class at the ends makes no difference. -/
theorem trimBy_padded {l r : List Char} (hl : ∀ c ∈ l, p c = true) (hr : ∀ c ∈ r, p c = true)
    (cs : List Char) : trimBy p (l ++ cs ++ r) = trimBy p cs := by
  by_cases hall : ∀ c ∈ cs, p c = true
  · rw [trimBy_eq_nil_iff.mpr hall, trimBy_eq_nil_iff]
    simp only [List.forall_mem_append]
    exact ⟨⟨hl, hall⟩, hr⟩
  · have hne : trimBy p cs ≠ [] := fun h => hall (trimBy_eq_nil_iff.mp h)
    obtain ⟨a, b, hcs, hab⟩ := exists_trimBy p cs
    obtain ⟨ha, hb⟩ := List.forall_mem_append.mp hab
    have hwhole : l ++ cs ++ r = (l ++ a) ++ trimBy p cs ++ (b ++ r) := by
      have happend := congrArg (fun x => l ++ x ++ r) hcs
      simpa only [List.append_assoc] using happend
    rw [hwhole]
    exact trimBy_framed (List.forall_mem_append.mpr ⟨hl, ha⟩) (List.forall_mem_append.mpr ⟨hb, hr⟩)
      (head?_trimBy cs) (getLast?_trimBy cs) hne

/-- A text holds a pattern if the pattern is a stretch of it. -/
theorem hasInfix_iff {pattern cs : List Char} : hasInfix pattern cs = true ↔ pattern <:+: cs := by
  induction cs with
  | nil => rw [hasInfix, List.isEmpty_iff, List.infix_nil]
  | cons c cs ih =>
    rw [hasInfix, Bool.or_eq_true, List.isPrefixOf_iff_prefix, ih, List.infix_cons_iff]

theorem dropWord?_append (word cs : List Char) : dropWord? word (word ++ cs) = some cs := by
  simp [dropWord?]

theorem eq_append_of_dropWord? {word cs rest : List Char} (h : dropWord? word cs = some rest) :
    cs = word ++ rest := by
  rw [dropWord?] at h
  split at h
  · next hword =>
    obtain ⟨t, rfl⟩ := List.isPrefixOf_iff_prefix.mp hword
    cases h
    rw [List.drop_left]
  · cases h

theorem dropSuffix?_append (a b : List Char) : dropSuffix? b (a ++ b) = some a := by
  simp [dropSuffix?]

end Trim

end BrokerGate.Text
