import BrokerGate.Idna.Punycode
import BrokerGate.Proofs.Text.Ascii
import BrokerGate.Proofs.Text.Split

/-! Punycode is read back. While the codes of a label are written in ascending order, a reader of
what is written so far has inserted just the characters that are handled, and the number in the
making is the way from its last insertion to the place where the writer stands. -/
namespace BrokerGate.Idna.Punycode
open Text

section Number

theorem digitValue?_digitOf {n : Nat} (h : n < base) : digitValue? (digitOf n) = some n := by
  have hall : ∀ m : Fin 36, digitValue? (digitOf m) = some m.val := by decide +kernel
  exact hall ⟨n, h⟩

/-- Letters of lower case and digits. -/
def IsDigit (c : Char) : Prop := ∃ n < base, c = digitOf n

theorem isDigit_of_mem_writeNumber {bias k q : Nat} {c : Char} (h : c ∈ writeNumber bias k q) :
    IsDigit c := by
  fun_induction writeNumber bias k q with
  | case1 k q t hlt =>
    have ht : t ≤ 26 := threshold_le k bias
    exact ⟨q, by unfold base; omega, List.mem_singleton.mp h⟩
  | case2 k q t hge ih =>
    have ht : t ≤ 26 := threshold_le k bias
    rcases List.mem_cons.mp h with rfl | h
    · have hmod : (q - t) % (base - t) < base - t := Nat.mod_lt _ (by unfold base; omega)
      exact ⟨_, by omega, rfl⟩
    · exact ih h

/-- A number is read as it was written, whatever follows it. -/
theorem readNumber_writeNumber {bias k q value weight : Nat} (rest : List Char)
    (h : value + q * weight < limit) :
    readNumber bias k value weight (writeNumber bias k q ++ rest) =
      some (value + q * weight, rest) := by
  induction q using Nat.strongRecOn generalizing k value weight with
  | ind q ih =>
    have hone := one_le_threshold k bias
    have hle := threshold_le k bias
    rw [writeNumber]
    generalize ht : threshold k bias = t at hone hle
    split
    · next hlt =>
      have hdigit := digitValue?_digitOf (n := q) (by unfold base; omega)
      rw [List.singleton_append, readNumber, hdigit]
      dsimp only
      rw [ht, if_neg (Nat.not_le_of_lt h), if_pos hlt]
    · next hge =>
      have hpos : 0 < base - t := by unfold base; omega
      have hmod : (q - t) % (base - t) < base - t := Nat.mod_lt _ hpos
      have hdigit := digitValue?_digitOf (n := t + (q - t) % (base - t)) (by omega)
      -- the digit and the rest of the number make up `q`
      have hsum : value + (t + (q - t) % (base - t)) * weight +
          (q - t) / (base - t) * (weight * (base - t)) = value + q * weight := by
        rw [Nat.mul_comm weight, ← Nat.mul_assoc, Nat.add_assoc, ← Nat.add_mul, Nat.add_assoc,
          Nat.mod_add_div', Nat.add_sub_cancel' (Nat.le_of_not_lt hge)]
      have hless : (q - t) / (base - t) < q := Nat.lt_of_le_of_lt (Nat.div_le_self _ _) (by omega)
      rw [List.cons_append, readNumber, hdigit]
      dsimp only
      rw [ht, if_neg (by omega), if_neg (by omega), ih _ hless (hsum ▸ h), hsum]

end Number

/-- A reader of what is written so far holds the characters `text`. The number in the making leads
it from its last insertion to a place in the pass for the code `m`. -/
structure Follows (basic : List Char) (m place : Nat) (text : List Char) (s : Progress)
    (r : Insertion) : Prop where
  read : ∀ rest, (Insertion.start basic).read? (s.output ++ rest) = r.read? rest
  text_eq : r.text = text
  handled : s.handled = text.length
  bias : r.bias = s.bias
  basic_le : basic.length ≤ s.handled
  first : r.first = decide (s.handled = basic.length)
  way : r.code * (text.length + 1) + (r.place + s.delta) = m * (text.length + 1) + place

section Insertion
variable {r r' : Insertion} {delta m place : Nat}

theorem read?_nil (r : Insertion) : r.read? [] = some r.text := by
  rw [Insertion.read?, if_pos List.isEmpty_nil]

theorem read?_eq_of_insert? {cs rest : List Char}
    (hread : readNumber r.bias base 0 1 cs = some (delta, rest))
    (hinsert : r.insert? delta = some r') : r.read? cs = r'.read? rest := by
  cases cs with
  | nil => cases hread
  | cons c cs =>
    rw [Insertion.read?, if_neg (by simp)]
    split
    · next hnone => rw [hread] at hnone; cases hnone
    · next delta' rest' hsome =>
      rw [hread] at hsome
      cases hsome
      rw [hinsert]

/-- A number is the way from one insertion to the next. -/
theorem insert?_of_way {c : Char} (hplace : place ≤ r.text.length)
    (hway : r.code * (r.text.length + 1) + (r.place + delta) =
      c.toNat * (r.text.length + 1) + place) :
    r.insert? delta = some ⟨c.toNat, place + 1, adapt delta (r.text.length + 1) r.first, false,
      r.text.take place ++ c :: r.text.drop place⟩ := by
  have hcode : r.code + (r.place + delta) / (r.text.length + 1) = c.toNat := by
    rw [← Nat.mul_add_div (Nat.succ_pos _), Nat.mul_comm, hway, Nat.mul_comm c.toNat,
      Nat.mul_add_div (Nat.succ_pos _), Nat.div_eq_of_lt (Nat.lt_succ_of_le hplace), Nat.add_zero]
  have hrest : (r.place + delta) % (r.text.length + 1) = place := by
    rw [← Nat.mul_add_mod_self_right r.code, hway, Nat.mul_add_mod_self_right,
      Nat.mod_eq_of_lt (Nat.lt_succ_of_le hplace)]
  have hchar : ¬ (decide (c.toNat > 0x10FFFF) ||
      decide (0xD800 ≤ c.toNat) && decide (c.toNat ≤ 0xDFFF)) = true := by
    have hvalid : c.toNat.isValidChar := c.valid
    unfold Nat.isValidChar at hvalid
    simp only [Bool.or_eq_true, Bool.and_eq_true, decide_eq_true_eq]
    omega
  rw [Insertion.insert?, hcode, hrest, if_neg hchar, Char.ofNat_toNat]

end Insertion

/-- What is handled when the pass for the code `m` stands between two parts of a label. -/
def handledPart (m : Nat) (front back : List Char) : List Char :=
  front.filter (·.toNat ≤ m) ++ back.filter (·.toNat < m)

section Pass
variable {basic front back label : List Char} {m n : Nat} {s : Progress}

theorem length_handledPart_le : (handledPart m front back).length ≤ (front ++ back).length := by
  rw [handledPart, List.length_append, List.length_append]
  exact Nat.add_le_add (List.length_filter_le ..) (List.length_filter_le ..)

/-- The numbers of a label that is not too long can be read. -/
theorem delta_lt_limit {r : Insertion} {c : Char} {place : Nat} {text : List Char}
    (h : Follows basic c.toNat place text s r) (hplace : place ≤ text.length)
    (htext : text.length ≤ longest) : s.delta < limit := by
  have hcode : c.toNat ≤ 0x10FFFF := by
    have hvalid : c.toNat.isValidChar := c.valid
    unfold Nat.isValidChar at hvalid
    omega
  have hmul : c.toNat * (text.length + 1) ≤ 0x10FFFF * (longest + 1) :=
    Nat.mul_le_mul hcode (Nat.succ_le_succ htext)
  have hway := h.way
  unfold longest at htext hmul
  unfold limit
  omega

/-- One character in the pass for the code `m`. -/
theorem exists_follows_look {c : Char} (hlength : (front ++ c :: back).length ≤ longest)
    (h : ∃ r, Follows basic m (front.filter (·.toNat ≤ m)).length (handledPart m front (c :: back))
      s r) :
    ∃ r, Follows basic m ((front ++ [c]).filter (·.toNat ≤ m)).length
      (handledPart m (front ++ [c]) back) (s.look basic.length m c) r := by
  obtain ⟨r, hr⟩ := h
  have ⟨hread, htext, hhandled, hbias, hbasic, hfirst, hway⟩ := hr
  rcases Nat.lt_trichotomy c.toNat m with hlt | rfl | hgt
  · -- already handled: one more place to pass
    have hpart : handledPart m (front ++ [c]) back = handledPart m front (c :: back) := by
      simp [handledPart, hlt, Nat.le_of_lt hlt]
    have hplace : ((front ++ [c]).filter (·.toNat ≤ m)).length =
        (front.filter (·.toNat ≤ m)).length + 1 := by
      simp [Nat.le_of_lt hlt]
    rw [Progress.look, if_pos hlt, hpart, hplace]
    exact ⟨r, hread, htext, hhandled, hbias, hbasic, hfirst, by dsimp only; omega⟩
  · -- its number is written, and read where it is to be inserted
    have hpart : handledPart c.toNat front (c :: back) =
        front.filter (·.toNat ≤ c.toNat) ++ back.filter (·.toNat < c.toNat) := by
      simp [handledPart]
    have hnew : handledPart c.toNat (front ++ [c]) back =
        front.filter (·.toNat ≤ c.toNat) ++ c :: back.filter (·.toNat < c.toNat) := by
      simp [handledPart]
    have hplace : ((front ++ [c]).filter (·.toNat ≤ c.toNat)).length =
        (front.filter (·.toNat ≤ c.toNat)).length + 1 := by
      simp
    have hinside : (front.filter (·.toNat ≤ c.toNat)).length ≤ r.text.length := by
      rw [htext, hpart, List.length_append]
      exact Nat.le_add_right _ _
    have hdelta : s.delta < limit :=
      delta_lt_limit hr (htext ▸ hinside) (Nat.le_trans length_handledPart_le hlength)
    have hnumber (rest : List Char) : readNumber r.bias base 0 1
        (writeNumber s.bias base s.delta ++ rest) = some (s.delta, rest) := by
      rw [hbias, readNumber_writeNumber rest (by omega), Nat.zero_add, Nat.mul_one]
    have hinsert := insert?_of_way hinside (htext ▸ hway)
    rw [htext, hpart, List.take_left, List.drop_left, ← hnew, ← hpart] at hinsert
    rw [Progress.look, if_neg (Nat.lt_irrefl _), if_pos rfl, hplace]
    refine ⟨⟨c.toNat, (front.filter (·.toNat ≤ c.toNat)).length + 1,
      adapt s.delta ((handledPart c.toNat front (c :: back)).length + 1) r.first, false,
      handledPart c.toNat (front ++ [c]) back⟩, ?_, rfl, ?_, ?_, ?_, ?_, rfl⟩
    · intro rest
      rw [List.append_assoc, hread, read?_eq_of_insert? (hnumber rest) hinsert]
    · rw [hnew, List.length_append, List.length_cons, ← Nat.add_assoc, ← List.length_append,
        ← hpart, ← hhandled]
    · rw [hfirst, hhandled]
    · exact Nat.le_succ_of_le hbasic
    · exact (decide_eq_false (Nat.ne_of_gt (Nat.lt_succ_of_le hbasic))).symm
  · -- not its turn
    have hpart : handledPart m (front ++ [c]) back = handledPart m front (c :: back) := by
      simp [handledPart, Nat.not_le_of_lt hgt, Nat.lt_asymm hgt]
    have hplace : ((front ++ [c]).filter (·.toNat ≤ m)).length =
        (front.filter (·.toNat ≤ m)).length := by
      simp [Nat.not_le_of_lt hgt]
    rw [Progress.look, if_neg (Nat.lt_asymm hgt), if_neg (Nat.ne_of_gt hgt), hpart, hplace]
    exact ⟨r, hread, htext, hhandled, hbias, hbasic, hfirst, hway⟩

theorem exists_follows_pass (front : List Char) (hlength : (front ++ back).length ≤ longest)
    (h : ∃ r, Follows basic m (front.filter (·.toNat ≤ m)).length (handledPart m front back) s r) :
    ∃ r, Follows basic m ((front ++ back).filter (·.toNat ≤ m)).length
      ((front ++ back).filter (·.toNat ≤ m)) (s.pass back basic.length m) r := by
  induction back generalizing front s with
  | nil => simpa [handledPart, Progress.pass] using h
  | cons c back ih =>
    have hstep := exists_follows_look hlength h
    rw [List.append_cons] at hlength ⊢
    exact ih (front ++ [c]) hlength hstep

/-- The way to a later code, if no character has a code in between. -/
theorem Follows.skip {text : List Char} {r : Insertion} (h : Follows basic n 0 text s r)
    (hle : n ≤ m) :
    Follows basic m 0 text { s with delta := s.delta + (m - n) * (s.handled + 1) } r := by
  have ⟨hread, htext, hhandled, hbias, hbasic, hfirst, hway⟩ := h
  have hway' : n * (text.length + 1) + (m - n) * (text.length + 1) = m * (text.length + 1) := by
    rw [← Nat.add_mul, Nat.add_sub_cancel' hle]
  refine ⟨hread, htext, hhandled, hbias, hbasic, hfirst, ?_⟩
  dsimp only
  rw [hhandled]
  omega

/-- Behind the last place of one code is the first place of the next. -/
theorem Follows.turn {text : List Char} {r : Insertion} (h : Follows basic m text.length text s r) :
    Follows basic (m + 1) 0 text { s with delta := s.delta + 1 } r := by
  have ⟨hread, htext, hhandled, hbias, hbasic, hfirst, hway⟩ := h
  refine ⟨hread, htext, hhandled, hbias, hbasic, hfirst, ?_⟩
  dsimp only
  rw [Nat.add_mul, Nat.one_mul]
  omega

theorem mem_pending {c : Char} (hc : c ∈ label) (h : n ≤ c.toNat) : c.toNat ∈ pending label n :=
  List.mem_filter.mpr ⟨List.mem_map_of_mem hc, decide_eq_true h⟩

theorem exists_follows_writeFrom (hlength : label.length ≤ longest)
    (h : ∃ r, Follows basic n 0 (label.filter (·.toNat < n)) s r) :
    ∃ m r, Follows basic m 0 label (writeFrom label basic.length n s) r := by
  fun_induction writeFrom label basic.length n s with
  | case1 n s hnone =>
    have hall : label.filter (·.toNat < n) = label := by
      rw [List.filter_eq_self]
      intro c hc
      refine decide_eq_true (Nat.lt_of_not_le fun hge => ?_)
      have hmem := mem_pending hc hge
      rw [List.min?_eq_none_iff.mp hnone] at hmem
      cases hmem
    rw [hall] at h
    exact ⟨n, h⟩
  | case2 n s m hmin passed ih =>
    obtain ⟨r, hr⟩ := h
    have hmem : m ∈ pending label n := List.min?_mem hmin
    have hle : n ≤ m := of_decide_eq_true (List.mem_filter.mp hmem).2
    have hgap : label.filter (·.toNat < n) = label.filter (·.toNat < m) := by
      refine List.filter_congr fun c hc => ?_
      rw [decide_eq_decide]
      refine ⟨fun hlt => Nat.lt_of_lt_of_le hlt hle, fun hlt => Nat.lt_of_not_le fun hge => ?_⟩
      exact absurd ((List.le_min?_iff hmin).mp (Nat.le_refl m) _ (mem_pending hc hge)) (by omega)
    rw [hgap] at hr
    -- before the pass those with smaller codes are handled, and after it those with this code too
    have hstart : handledPart m [] label = label.filter (·.toNat < m) := by simp [handledPart]
    rw [← hstart] at hr
    obtain ⟨r', hr'⟩ := exists_follows_pass [] hlength ⟨r, hr.skip hle⟩
    apply ih
    refine ⟨r', ?_⟩
    simp only [Nat.lt_succ_iff]
    exact hr'.turn

end Pass

section Code
variable {label : List Char}

/-- Every character of the numbers is a digit. -/
theorem isDigit_of_mem_writeFrom {basic n : Nat} {s : Progress}
    (h : ∀ c ∈ s.output, IsDigit c) : ∀ c ∈ (writeFrom label basic n s).output, IsDigit c := by
  have hlook (m : Nat) (s : Progress) (c : Char) (hs : ∀ c ∈ s.output, IsDigit c) :
      ∀ d ∈ (s.look basic m c).output, IsDigit d := by
    rw [Progress.look]
    split
    · exact hs
    · split
      · intro d hd
        rcases List.mem_append.mp hd with hd | hd
        · exact hs d hd
        · exact isDigit_of_mem_writeNumber hd
      · exact hs
  have hpass (m : Nat) (cs : List Char) : ∀ s : Progress, (∀ c ∈ s.output, IsDigit c) →
      ∀ c ∈ (s.pass cs basic m).output, IsDigit c := by
    induction cs with
    | nil => exact fun s hs => hs
    | cons c cs ih => exact fun s hs => ih _ (hlook m s c hs)
  fun_induction writeFrom label basic n s with
  | case1 n s hnone => exact h
  | case2 n s m hmin passed ih => exact ih (hpass m label _ h)

theorem isDigit_of_mem_numbers {c : Char} (h : c ∈ numbers label) : IsDigit c :=
  isDigit_of_mem_writeFrom (by simp) c h

theorem ne_hyphen_of_isDigit {c : Char} (h : IsDigit c) : c ≠ '-' := by
  obtain ⟨n, hn, rfl⟩ := h
  have hall : ∀ m : Fin 36, digitOf m ≠ '-' := by decide +kernel
  exact hall ⟨n, hn⟩

theorem cutLast_encode : (cutLast '-' (encode label)).getD ([], encode label) =
    (label.filter isBasic, numbers label) := by
  have hdigits : '-' ∉ numbers label := fun h =>
    ne_hyphen_of_isDigit (isDigit_of_mem_numbers h) rfl
  rw [encode]
  cases hbasic : label.filter isBasic with
  | nil =>
    rw [List.isEmpty_nil, if_pos rfl, List.nil_append, cutLast_eq_none_iff.mpr hdigits]
    rfl
  | cons c cs =>
    rw [List.isEmpty_cons, if_neg Bool.false_ne_true, List.append_assoc, List.singleton_append,
      cutLast_append _ hdigits]
    rfl

/-- A label that is not too long is read back from its code. -/
theorem decode?_encode (h : label.length ≤ longest) : decode? (encode label) = some label := by
  have hstart : Follows (label.filter isBasic) 128 0 (label.filter (·.toNat < 128))
      ⟨0, 72, (label.filter isBasic).length, []⟩ (Insertion.start (label.filter isBasic)) :=
    ⟨fun rest => rfl, rfl, rfl, rfl, Nat.le_refl _, (decide_eq_true rfl).symm, rfl⟩
  obtain ⟨m, r, hr⟩ := exists_follows_writeFrom h ⟨_, hstart⟩
  have hread := hr.read []
  rw [List.append_nil, read?_nil, hr.text_eq] at hread
  have hbasic : (label.filter isBasic).all isBasic = true :=
    List.all_eq_true.mpr fun c hc => (List.mem_filter.mp hc).2
  rw [decode?, cutLast_encode]
  dsimp only
  rw [if_pos hbasic]
  exact hread

/-- A code is made of basic characters of its label, hyphens and digits. -/
theorem mem_encode {c : Char} (h : c ∈ encode label) :
    c ∈ label ∧ c.toNat < 128 ∨ c = '-' ∨ IsDigit c := by
  rw [encode] at h
  rcases List.mem_append.mp h with h | h
  · split at h
    · cases h
    · rcases List.mem_append.mp h with h | h
      · obtain ⟨hmem, hbasic⟩ := List.mem_filter.mp h
        exact .inl ⟨hmem, of_decide_eq_true hbasic⟩
      · exact .inr (.inl (List.mem_singleton.mp h))
  · exact .inr (.inr (isDigit_of_mem_numbers h))

end Code

end BrokerGate.Idna.Punycode
