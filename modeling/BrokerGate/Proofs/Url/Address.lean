import BrokerGate.Proofs.Text.Split
import BrokerGate.Url.Address

/-! Numeric hosts are read back from their written form: digits from numbers, four octets, and
eight pieces with the run of zeros that `::` stands for. -/
namespace BrokerGate.Url
open Text

section Digits

theorem hexDigit?_digitChar {d : Nat} (h : d < 16) : hexDigit? (Nat.digitChar d) = some d := by
  have : ∀ d : Fin 16, hexDigit? (Nat.digitChar d) = some d.val := by decide +kernel
  exact this ⟨d, h⟩

theorem digitsValue_append (base : Nat) (cs : List Char) (c : Char) :
    digitsValue base (cs ++ [c]) = digitsValue base cs * base + (hexDigit? c).getD 0 := by
  simp [digitsValue]

theorem digitsValue_toDigits {base : Nat} (hl : 1 < base) (hh : base ≤ 16) (n : Nat) :
    digitsValue base (Nat.toDigits base n) = n := by
  induction n using Nat.strongRecOn with
  | _ n ih =>
    rw [Nat.toDigits_eq_if hl]
    split
    · rw [← List.nil_append [_], digitsValue_append, hexDigit?_digitChar (by omega)]
      simp [digitsValue]
    · have hd : n / base < n := Nat.div_lt_self (by omega) hl
      have hm : n % base < base := Nat.mod_lt n (by omega)
      rw [digitsValue_append, ih _ hd, hexDigit?_digitChar (by omega), Option.getD_some,
        Nat.mul_comm, Nat.div_add_mod]

/-- Every digit of a base up to sixteen is a hexadecimal one. -/
theorem isHexDigit_of_mem_toDigits {base n : Nat} (hl : 1 < base) (hh : base ≤ 16) {c : Char}
    (h : c ∈ Nat.toDigits base n) : isHexDigit c = true := by
  induction n using Nat.strongRecOn with
  | _ n ih =>
    rw [Nat.toDigits_eq_if hl] at h
    split at h
    · rw [List.mem_singleton] at h
      rw [h, isHexDigit, hexDigit?_digitChar (by omega), Option.isSome_some]
    · have hm : n % base < base := Nat.mod_lt n (by omega)
      rcases List.mem_append.mp h with h | h
      · exact ih _ (Nat.div_lt_self (by omega) hl) h
      · rw [List.mem_singleton] at h
        rw [h, isHexDigit, hexDigit?_digitChar (by omega), Option.isSome_some]

theorem isDigit_of_mem_decimalText {n : Nat} {c : Char} (h : c ∈ decimalText n) :
    c.isDigit = true := Nat.isDigit_of_mem_toDigits (by decide) (by decide) h

theorem decimalText_ne_nil (n : Nat) : decimalText n ≠ [] := Nat.toDigits_ne_nil

theorem hexText_ne_nil (n : Nat) : hexText n ≠ [] := Nat.toDigits_ne_nil

theorem digitsValue_decimalText (n : Nat) : digitsValue 10 (decimalText n) = n :=
  digitsValue_toDigits (by decide) (by decide) n

theorem digitsValue_hexText (n : Nat) : digitsValue 16 (hexText n) = n :=
  digitsValue_toDigits (by decide) (by decide) n

/-- No number but zero starts with a zero. -/
theorem head?_decimalText {n : Nat} (h : n ≠ 0) : (decimalText n).head? ≠ some '0' := by
  induction n using Nat.strongRecOn with
  | _ n ih =>
    rw [decimalText, Nat.toDigits_eq_if (by decide)]
    split
    · have : ∀ d : Fin 10, d.val ≠ 0 → Nat.digitChar d.val ≠ '0' := by decide +kernel
      simpa using this ⟨n, by omega⟩ h
    · have hr := ih (n / 10) (by omega) (by omega)
      cases hd : Nat.toDigits 10 (n / 10) with
      | nil => exact absurd hd Nat.toDigits_ne_nil
      | cons c cs =>
        rw [decimalText, hd] at hr
        exact hr

end Digits

namespace Ipv4

theorem number?_decimalText (n : Nat) : number? (decimalText n) = some n := by
  by_cases hn : n = 0
  · subst hn
    decide +kernel
  · have hz := head?_decimalText hn
    have hall : (decimalText n).all Char.isDigit = true :=
      List.all_eq_true.mpr fun _ hc => isDigit_of_mem_decimalText hc
    have hval := digitsValue_decimalText n
    cases hd : decimalText n with
    | nil => exact absurd hd (decimalText_ne_nil n)
    | cons c cs =>
      rw [hd] at hz hall hval
      have hc : c ≠ '0' := by simpa using hz
      rw [number?.eq_5 _ (by simp) (by simp [hc]) (by simp [hc]) (by simp [hc])]
      simp [hall, hval]

/-- The four octets, highest first. -/
def octets (a : Ipv4) : List Nat :=
  [a.value / 0x1000000, a.value / 0x10000 % 256, a.value / 256 % 256, a.value % 256]

theorem text_eq_joinWith (a : Ipv4) : a.text = joinWith ['.'] (a.octets.map decimalText) := by
  simp [text, octets, joinWith]

theorem parts_text (a : Ipv4) : parts a.text = a.octets.map decimalText := by
  have hp : pieces '.' a.text = a.octets.map decimalText := by
    rw [text_eq_joinWith, pieces_joinWith (by simp [octets])]
    intro p hp hdot
    obtain ⟨n, _, rfl⟩ := List.mem_map.mp hp
    have := isDigit_of_mem_decimalText hdot
    revert this; decide
  simp [parts, hp, octets, decimalText_ne_nil]

theorem endsInNumber_text (a : Ipv4) : endsInNumber a.text = true := by
  simp [endsInNumber, parts_text, octets, number?_decimalText]

theorem parse?_text (a : Ipv4) : parse? a.text = some a := by
  obtain ⟨v, hv⟩ := a
  have hm : (parts (text ⟨v, hv⟩)).mapM number? = some (octets ⟨v, hv⟩) := by
    simp [parts_text, octets, number?_decimalText]
  have hhigh : (octets ⟨v, hv⟩).dropLast.zipIdx.foldl (fun n p => n + p.1 * Nat.pow 256 (3 - p.2)) 0
      + v % 256 = v := by
    simp [octets]
    omega
  have hlead : (octets ⟨v, hv⟩).dropLast.all (· < 256) = true := by
    simp [octets]
    omega
  have hlast : (octets ⟨v, hv⟩).getLast? = some (v % 256) := rfl
  simp only [parse?, hm, hlast, hlead, hhigh]
  rw [if_pos (by simp [octets]; omega), dif_pos hv]

/-- Only digits and dots. -/
theorem mem_text {a : Ipv4} {c : Char} (h : c ∈ a.text) : c = '.' ∨ c.isDigit = true := by
  simp only [text, List.append_assoc, List.cons_append, List.mem_append, List.mem_cons] at h
  rcases h with h | h | h | h | h | h | h
  · exact .inr (isDigit_of_mem_decimalText h)
  · exact .inl h
  · exact .inr (isDigit_of_mem_decimalText h)
  · exact .inl h
  · exact .inr (isDigit_of_mem_decimalText h)
  · exact .inl h
  · exact .inr (isDigit_of_mem_decimalText h)

end Ipv4

namespace Ipv6

section Groups
variable {gs : List Nat}

theorem group?_hexText {g : Nat} (h : g < 65536) : group? (hexText g) = some g := by
  have hlen : (hexText g).length ≤ 4 :=
    (Nat.length_toDigits_le_iff (by decide) (by decide)).mpr (by omega)
  have hpos : 1 ≤ (hexText g).length := Nat.length_toDigits_pos
  have hall : (hexText g).all isHexDigit = true :=
    List.all_eq_true.mpr fun _ hc => isHexDigit_of_mem_toDigits (by decide) (by decide) hc
  simp [group?, hlen, hpos, hall, digitsValue_hexText]

theorem mapM_group?_hexText (h : ∀ g ∈ gs, g < 65536) :
    (gs.map hexText).mapM group? = some gs := by
  induction gs with
  | nil => rfl
  | cons g gs ih =>
    rw [List.forall_mem_cons] at h
    rw [List.map_cons, List.mapM_cons, group?_hexText h.1, ih h.2]
    rfl

theorem colon_notMem_hexText (g : Nat) : ':' ∉ hexText g := fun h =>
  absurd (isHexDigit_of_mem_toDigits (by decide) (by decide) h) (by decide)

theorem pieces_groupsText (hne : gs ≠ []) : pieces ':' (groupsText gs) = gs.map hexText := by
  refine pieces_joinWith (by simpa using hne) fun p hp => ?_
  obtain ⟨g, _, rfl⟩ := List.mem_map.mp hp
  exact colon_notMem_hexText g

theorem groupsText_cons (g : Nat) (hne : gs ≠ []) :
    groupsText (g :: gs) = hexText g ++ ':' :: groupsText gs := by
  rw [groupsText, List.map_cons, joinWith_cons _ _ (by simpa using hne), List.append_assoc]
  rfl

theorem groupsText_singleton (g : Nat) : groupsText [g] = hexText g := by simp [groupsText]

/-- Pieces start with a digit. -/
theorem head?_groupsText (t : List Char) (hne : gs ≠ []) :
    (groupsText gs ++ t).head? ≠ some ':' := by
  obtain ⟨g, gs, rfl⟩ := List.exists_cons_of_ne_nil hne
  obtain ⟨c, cs, hc⟩ := List.exists_cons_of_ne_nil (hexText_ne_nil g)
  have hcolon : c ≠ ':' := by
    rintro rfl
    exact colon_notMem_hexText g (by simp [hc])
  by_cases hgs : gs = []
  · subst hgs
    simp [groupsText_singleton, hc, hcolon]
  · simp [groupsText_cons g hgs, hc, hcolon]

theorem mem_groupsText {c : Char} (h : c ∈ groupsText gs) : c = ':' ∨ isHexDigit c = true := by
  induction gs with
  | nil => cases h
  | cons g gs ih =>
    have hg (hc : c ∈ hexText g) : isHexDigit c = true :=
      isHexDigit_of_mem_toDigits (by decide) (by decide) hc
    by_cases hgs : gs = []
    · subst hgs
      exact .inr (hg (by simpa [groupsText_singleton] using h))
    · rw [groupsText_cons g hgs, List.mem_append, List.mem_cons] at h
      rcases h with h | h | h
      · exact .inr (hg h)
      · exact .inl h
      · exact ih h

theorem groups?_groupsText (h : ∀ g ∈ gs, g < 65536) : groups? (groupsText gs) = some gs := by
  by_cases hgs : gs = []
  · subst hgs
    rfl
  · have hne : groupsText gs ≠ [] := by
      intro he
      have := pieces_groupsText hgs
      rw [he] at this
      obtain ⟨g, gs, rfl⟩ := List.exists_cons_of_ne_nil hgs
      rw [List.map_cons] at this
      exact hexText_ne_nil g (List.cons.inj this).1.symm
    rw [groups?, if_neg (by simpa using hne), pieces_groupsText hgs, mapM_group?_hexText h]

theorem tailGroups?_groupsText (h : ∀ g ∈ gs, g < 65536) :
    tailGroups? (groupsText gs) = some gs := by
  have hdot : '.' ∉ groupsText gs := fun hd =>
    (mem_groupsText hd).elim (by decide) (absurd · (by decide))
  rw [tailGroups?, if_neg (by simpa using hdot), groups?_groupsText h]

end Groups

section Double

theorem cutDouble_digits_append {d : List Char} (h : ':' ∉ d) (r : List Char) :
    cutDouble (d ++ r) = (cutDouble r).map fun p => (d ++ p.1, p.2) := by
  induction d with
  | nil => simp
  | cons c d ih =>
    rw [List.mem_cons, not_or] at h
    rw [List.cons_append, cutDouble.eq_3 _ _ (by rintro _ rfl; exact absurd rfl h.1), ih h.2,
      Option.map_map]
    rfl

theorem cutDouble_colon {r : List Char} (h : r.head? ≠ some ':') :
    cutDouble (':' :: r) = (cutDouble r).map fun p => (':' :: p.1, p.2) :=
  cutDouble.eq_3 _ _ (by rintro _ _ rfl; exact h rfl)

/-- Pieces are parted by single colons; one more at the end makes no double one. -/
theorem cutDouble_groupsText (gs : List Nat) {t : List Char} (ht : t = [] ∨ t = [':']) :
    cutDouble (groupsText gs ++ t) = none := by
  have h0 : cutDouble t = none := by rcases ht with rfl | rfl <;> rfl
  induction gs with
  | nil => exact h0
  | cons g gs ih =>
    by_cases hgs : gs = []
    · subst hgs
      rw [groupsText_singleton, cutDouble_digits_append (colon_notMem_hexText g), h0]
      rfl
    · rw [groupsText_cons g hgs, List.append_assoc,
        cutDouble_digits_append (colon_notMem_hexText g), List.cons_append,
        cutDouble_colon (head?_groupsText t hgs), ih]
      rfl

theorem cutDouble_append {a : List Char} (h : cutDouble (a ++ [':']) = none) (b : List Char) :
    cutDouble (a ++ ':' :: ':' :: b) = some (a, b) := by
  induction a with
  | nil => rfl
  | cons c a ih =>
    by_cases hc : c = ':'
    · subst hc
      have hhead : (a ++ [':']).head? ≠ some ':' := by
        intro hh
        obtain ⟨r, hr⟩ := List.head?_eq_some_iff.mp hh
        rw [List.cons_append, hr] at h
        cases h
      have hhead' : (a ++ ':' :: ':' :: b).head? ≠ some ':' := by
        rwa [List.head?_append] at hhead ⊢
      rw [List.cons_append, cutDouble_colon hhead, Option.map_eq_none_iff] at h
      rw [List.cons_append, cutDouble_colon hhead', ih h]
      rfl
    · have hd : ':' ∉ [c] := by simpa using Ne.symm hc
      rw [List.cons_append, ← List.singleton_append, cutDouble_digits_append hd,
        Option.map_eq_none_iff] at h
      rw [List.cons_append, ← List.singleton_append, cutDouble_digits_append hd, ih h]
      rfl

end Double

section ZeroRun
variable {gs : List Nat}

theorem zeroRun_invariant {i n : Nat} (h : zeroRun gs = some (i, n)) :
    n = zerosAt gs i ∧ 2 ≤ n := by
  have hfold (is : List Nat) (best : Option (Nat × Nat))
      (hb : ∀ p, best = some p → p.2 = zerosAt gs p.1 ∧ 2 ≤ p.2) :
      ∀ p, is.foldl (fun best i =>
        let n := zerosAt gs i
        if n ≥ 2 && n > (best.map (·.2)).getD 0 then some (i, n) else best) best = some p →
        p.2 = zerosAt gs p.1 ∧ 2 ≤ p.2 := by
    induction is generalizing best with
    | nil => exact hb
    | cons j is ih =>
      refine ih _ fun p hp => ?_
      dsimp only at hp
      split at hp
      · rename_i hj
        cases hp
        exact ⟨rfl, by simp_all⟩
      · exact hb p hp
  exact hfold _ none (by simp) (i, n) h

theorem takeWhile_zero (gs : List Nat) :
    gs.takeWhile (· = 0) = List.replicate (gs.takeWhile (· = 0)).length 0 := by
  rw [List.eq_replicate_iff]
  exact ⟨rfl, fun g hg => by simpa using List.all_eq_true.mp List.all_takeWhile g hg⟩

/-- What `::` stands for. -/
theorem zeroRun_split {i n : Nat} (h : zeroRun gs = some (i, n)) :
    gs.take i ++ List.replicate n 0 ++ gs.drop (i + n) = gs ∧ 2 ≤ n := by
  obtain ⟨hn, h2⟩ := zeroRun_invariant h
  refine ⟨?_, h2⟩
  have hz : (gs.drop i).take n = List.replicate n 0 := by
    rw [hn, zerosAt, ← takeWhile_zero]
    exact List.prefix_iff_eq_take.mp (List.takeWhile_prefix _) |>.symm
  rw [← hz, List.append_assoc, ← List.drop_drop, List.take_append_drop, List.take_append_drop]

end ZeroRun

theorem ofGroups?_groups (a : Ipv6) : ofGroups? a.groups = some a := by
  rw [ofGroups?, dif_pos ⟨a.size, a.small⟩]

theorem parse?_text (a : Ipv6) : parse? a.text = some a := by
  rw [text]
  split
  · have hcut := cutDouble_groupsText a.groups (.inl rfl)
    rw [List.append_nil] at hcut
    rw [parse?, hcut, tailGroups?_groupsText a.small]
    exact ofGroups?_groups a
  · rename_i i n hrun
    obtain ⟨hsplit, h2⟩ := zeroRun_split hrun
    have hlen := congrArg List.length hsplit
    simp only [List.length_append, List.length_replicate, a.size] at hlen
    have hfront : ∀ g ∈ a.groups.take i, g < 65536 :=
      fun g hg => a.small g (List.mem_of_mem_take hg)
    have hback : ∀ g ∈ a.groups.drop (i + n), g < 65536 := fun g hg =>
      a.small g (List.mem_of_mem_drop hg)
    have hn : 8 - (a.groups.take i).length - (a.groups.drop (i + n)).length = n := by omega
    rw [parse?, cutDouble_append (cutDouble_groupsText _ (.inr rfl))]
    simp only [groups?_groupsText hfront, tailGroups?_groupsText hback, hn, hsplit]
    rw [if_pos (by omega)]
    exact ofGroups?_groups a

/-- Only hexadecimal digits and colons. -/
theorem mem_text {a : Ipv6} {c : Char} (h : c ∈ a.text) : c = ':' ∨ isHexDigit c = true := by
  rw [text] at h
  split at h
  · exact mem_groupsText h
  · rw [List.mem_append, List.mem_cons, List.mem_cons] at h
    rcases h with h | h | h | h
    · exact mem_groupsText h
    · exact .inl h
    · exact .inl h
    · exact mem_groupsText h

end Ipv6

end BrokerGate.Url
