import BrokerGate.Text.Utf8
import Mathlib.Tactic.SplitIfs

/-! Reading gives back every text from its bytes. -/
namespace BrokerGate.Text.Utf8

private theorem start_ascii {n : Nat} (h : n < 0x80) :
    start (UInt8.ofNat n) = ([some (Char.ofNat n)], .nothing) := by
  have hn : n % 256 = n := by omega
  simp [start, UInt8.lt_iff_toNat_lt, hn, h]

private theorem start_two {n : Nat} (hl : 0xC2 ≤ n) (hh : n ≤ 0xDF) :
    start (UInt8.ofNat n) = ([], .lacks 0 0x80 0xBF (n % 32)) := by
  have hn : n % 256 = n := by omega
  have h1 : ¬ n < 0x80 := by omega
  simp [start, UInt8.lt_iff_toNat_lt, UInt8.le_iff_toNat_le, hn, h1, hl, hh]

/-- The range of the second byte depends on the lead: overlong forms and surrogates are left
out. -/
private theorem start_three {n : Nat} (hl : 0xE0 ≤ n) (hh : n ≤ 0xEF) :
    start (UInt8.ofNat n) = ([], .lacks 1 (if n = 0xE0 then 0xA0 else 0x80)
      (if n = 0xED then 0x9F else 0xBF) (n % 16)) := by
  have hn : n % 256 = n := by omega
  have h1 : ¬ n < 0x80 := by omega
  have h2 : ¬ n ≤ 0xDF := by omega
  by_cases h3 : n = 0xE0
  · subst h3; rfl
  by_cases h4 : n = 0xED
  · subst h4; rfl
  have h5 : 0xE1 ≤ n := by omega
  simp [start, UInt8.lt_iff_toNat_lt, UInt8.le_iff_toNat_le, ← UInt8.toNat_inj, hn, h1, h2, h3, h4,
    h5, hh]

private theorem start_four {n : Nat} (hl : 0xF0 ≤ n) (hh : n ≤ 0xF4) :
    start (UInt8.ofNat n) = ([], .lacks 2 (if n = 0xF0 then 0x90 else 0x80)
      (if n = 0xF4 then 0x8F else 0xBF) (n % 8)) := by
  obtain rfl | rfl | rfl | rfl | rfl : n = 0xF0 ∨ n = 0xF1 ∨ n = 0xF2 ∨ n = 0xF3 ∨ n = 0xF4 := by
    omega
  all_goals rfl

/-- A byte in the expected range adds its six bits. -/
private theorem advance_within {low high : UInt8} {more bits n : Nat} (hn : n < 256)
    (hl : low.toNat ≤ n) (hh : n ≤ high.toNat) :
    advance (UInt8.ofNat n) (.lacks (more + 1) low high bits) =
      ([], .lacks more 0x80 0xBF (bits * 64 + n % 64)) := by
  have hm : n % 256 = n := by omega
  simp [advance, UInt8.le_iff_toNat_le, hm, hl, hh]

private theorem advance_last {low high : UInt8} {bits n : Nat} (hn : n < 256)
    (hl : low.toNat ≤ n) (hh : n ≤ high.toNat) :
    advance (UInt8.ofNat n) (.lacks 0 low high bits) =
      ([some (Char.ofNat (bits * 64 + n % 64))], .nothing) := by
  have hm : n % 256 = n := by omega
  simp [advance, UInt8.le_iff_toNat_le, hm, hl, hh]

private theorem scalar_bounds (c : Char) :
    c.val.toNat < 0xD800 ∨ (0xDFFF < c.val.toNat ∧ c.val.toNat < 0x110000) := by
  have h := c.valid
  simpa [UInt32.isValidChar, Nat.isValidChar] using h

/-- The bytes of a character are read as that character, whatever follows. -/
theorem scan_encodeChar_append (c : Char) (bs : Bytes) :
    scan .nothing (String.utf8EncodeChar c ++ bs) = some c :: scan .nothing bs := by
  have hv : Char.ofNat c.val.toNat = c := Char.ofNat_toNat c
  have hb := scalar_bounds c
  rw [String.utf8EncodeChar]
  generalize c.val.toNat = v at hv hb
  split_ifs with h1 h2 h3
  · simp only [List.singleton_append, scan, advance, start_ascii (show v < 0x80 by omega), hv]
  · simp only [List.cons_append, List.nil_append, scan]
    rw [advance, start_two (by omega) (by omega)]
    rw [List.nil_append]
    rw [advance_last (by omega) (by simp) (by simp; omega)]
    have : (v / 64 % 0x20 + 0xC0) % 32 * 64 + (v % 0x40 + 0x80) % 64 = v := by omega
    simp only [this, hv, List.singleton_append]
  · simp only [List.cons_append, List.nil_append, scan]
    rw [advance, start_three (by omega) (by omega)]
    rw [List.nil_append]
    rw [advance_within (by omega) (by split_ifs <;> simp; omega)
      (by split_ifs <;> simp <;> omega)]
    rw [List.nil_append]
    rw [advance_last (by omega) (by simp) (by simp; omega)]
    have : ((v / 4096 % 0x10 + 0xE0) % 16 * 64 + (v / 64 % 0x40 + 0x80) % 64) * 64 +
        (v % 0x40 + 0x80) % 64 = v := by omega
    simp only [this, hv, List.singleton_append]
  · simp only [List.cons_append, List.nil_append, scan]
    rw [advance, start_four (by omega) (by omega)]
    rw [List.nil_append]
    rw [advance_within (by omega) (by split_ifs <;> simp; omega)
      (by split_ifs <;> simp <;> omega)]
    rw [List.nil_append]
    rw [advance_within (by omega) (by simp) (by simp; omega)]
    rw [List.nil_append]
    rw [advance_last (by omega) (by simp) (by simp; omega)]
    have : (((v / 262144 % 8 + 0xF0) % 8 * 64 + (v / 4096 % 0x40 + 0x80) % 64) * 64 +
        (v / 64 % 0x40 + 0x80) % 64) * 64 + (v % 0x40 + 0x80) % 64 = v := by omega
    simp only [this, hv, List.singleton_append]

@[simp] theorem scan_encode (cs : List Char) : scan .nothing (encode cs) = cs.map some := by
  induction cs with
  | nil => rfl
  | cons c cs ih =>
    change scan .nothing (String.utf8EncodeChar c ++ encode cs) = _
    rw [scan_encodeChar_append, ih, List.map_cons]

@[simp] theorem decode?_encode (cs : List Char) : decode? (encode cs) = some cs := by
  rw [decode?, scan_encode, List.mapM_map]
  induction cs with
  | nil => rfl
  | cons c cs ih => rw [List.mapM_cons, ih]; rfl

@[simp] theorem decodeLossy_encode (cs : List Char) : decodeLossy (encode cs) = cs := by
  have hid : (fun o : Option Char => o.getD (Char.ofNat 0xFFFD)) ∘ some = id := rfl
  rw [decodeLossy, scan_encode, List.map_map, hid, List.map_id]

/-! Conversely, bytes that are read without a malformed part are those of the text that was read. -/

private theorem start_other {n : Nat} (hl : 0x80 ≤ n) (hn : n < 256)
    (h : n < 0xC2 ∨ 0xF4 < n) : start (UInt8.ofNat n) = ([none], .nothing) := by
  have hmod : n % 256 = n := by omega
  have h1 : ¬ n < 0x80 := by omega
  have h2 : ¬ (0xC2 ≤ n ∧ n ≤ 0xDF) := by omega
  have h3 : n ≠ 0xE0 ∧ n ≠ 0xED ∧ n ≠ 0xF0 ∧ n ≠ 0xF4 := by omega
  have h4 : ¬ (0xE1 ≤ n ∧ n ≤ 0xEF) := by omega
  have h5 : ¬ (0xF1 ≤ n ∧ n ≤ 0xF3) := by omega
  simp [start, UInt8.lt_iff_toNat_lt, UInt8.le_iff_toNat_le, ← UInt8.toNat_inj, hmod, h1, h2, h3,
    h4, h5]

/-- A begun character that is read goes on with a byte of the range that it expects. -/
private theorem exists_of_lacks {more bits : Nat} {low high : UInt8} {bs : Bytes} {cs : List Char}
    (h : (scan (.lacks more low high bits) bs).mapM id = some cs) :
    ∃ n rest, bs = UInt8.ofNat n :: rest ∧ low.toNat ≤ n ∧ n ≤ high.toNat ∧
      match more with
      | 0 => ∃ cs', cs = Char.ofNat (bits * 64 + n % 64) :: cs' ∧ decode? rest = some cs'
      | more + 1 =>
        (scan (.lacks more 0x80 0xBF (bits * 64 + n % 64)) rest).mapM id = some cs := by
  cases bs with
  | nil => cases h
  | cons b rest =>
    rw [scan, advance] at h
    split at h
    · next hrange =>
      simp only [Bool.and_eq_true, decide_eq_true_eq, UInt8.le_iff_toNat_le] at hrange
      refine ⟨b.toNat, rest, by rw [UInt8.ofNat_toNat], hrange.1, hrange.2, ?_⟩
      cases more with
      | zero =>
        rw [List.singleton_append, List.mapM_cons] at h
        obtain ⟨c, hc, h⟩ := Option.bind_eq_some_iff.mp h
        obtain ⟨cs', hcs, h⟩ := Option.bind_eq_some_iff.mp h
        cases hc
        cases h
        exact ⟨cs', rfl, hcs⟩
      | succ more => exact h
    · dsimp only at h
      rw [List.cons_append, List.mapM_cons] at h
      cases h

private theorem toNat_ofNat_scalar {n : Nat}
    (h : n < 0xD800 ∨ (0xDFFF < n ∧ n < 0x110000)) : (Char.ofNat n).val.toNat = n := by
  rw [Char.ofNat, dif_pos h]
  rfl

section Char
variable {a b c d v : Nat}

private theorem encodeChar_one (ha : a < 0x80) :
    String.utf8EncodeChar (Char.ofNat a) = [UInt8.ofNat a] := by
  rw [String.utf8EncodeChar, toNat_ofNat_scalar (by omega), if_pos (by omega)]

private theorem encodeChar_two (ha : 0xC2 ≤ a ∧ a ≤ 0xDF) (hb : 0x80 ≤ b ∧ b ≤ 0xBF)
    (hv : v = a % 32 * 64 + b % 64) :
    String.utf8EncodeChar (Char.ofNat v) = [UInt8.ofNat a, UInt8.ofNat b] := by
  have h1 : v / 64 % 32 + 192 = a := by omega
  have h2 : v % 64 + 128 = b := by omega
  rw [String.utf8EncodeChar, toNat_ofNat_scalar (by omega)]
  simp only [show ¬ v ≤ 127 by omega, show v ≤ 2047 by omega, if_false, if_true, h1, h2]

private theorem encodeChar_three (ha : 0xE0 ≤ a ∧ a ≤ 0xEF)
    (hb : (if a = 0xE0 then 0xA0 else 0x80) ≤ b ∧ b ≤ (if a = 0xED then 0x9F else 0xBF))
    (hc : 0x80 ≤ c ∧ c ≤ 0xBF) (hv : v = (a % 16 * 64 + b % 64) * 64 + c % 64) :
    String.utf8EncodeChar (Char.ofNat v) = [UInt8.ofNat a, UInt8.ofNat b, UInt8.ofNat c] := by
  have hrange : 0x80 ≤ b ∧ b ≤ 0xBF := by split_ifs at hb <;> omega
  -- the second byte keeps the number above two bytes and out of the surrogates
  have hlow : 2047 < v := by split_ifs at hb <;> omega
  have hscalar : v < 0xD800 ∨ (0xDFFF < v ∧ v < 0x110000) := by split_ifs at hb <;> omega
  have h1 : v / 4096 % 16 + 224 = a := by omega
  have h2 : v / 64 % 64 + 128 = b := by omega
  have h3 : v % 64 + 128 = c := by omega
  rw [String.utf8EncodeChar, toNat_ofNat_scalar hscalar]
  simp only [show ¬ v ≤ 127 by omega, show ¬ v ≤ 2047 by omega, show v ≤ 65535 by omega, if_false,
    if_true, h1, h2, h3]

private theorem encodeChar_four (ha : 0xF0 ≤ a ∧ a ≤ 0xF4)
    (hb : (if a = 0xF0 then 0x90 else 0x80) ≤ b ∧ b ≤ (if a = 0xF4 then 0x8F else 0xBF))
    (hc : 0x80 ≤ c ∧ c ≤ 0xBF) (hd : 0x80 ≤ d ∧ d ≤ 0xBF)
    (hv : v = ((a % 8 * 64 + b % 64) * 64 + c % 64) * 64 + d % 64) :
    String.utf8EncodeChar (Char.ofNat v) =
      [UInt8.ofNat a, UInt8.ofNat b, UInt8.ofNat c, UInt8.ofNat d] := by
  have hrange : 0x80 ≤ b ∧ b ≤ 0xBF := by split_ifs at hb <;> omega
  have hlow : 65535 < v := by split_ifs at hb <;> omega
  have hhigh : v < 0x110000 := by split_ifs at hb <;> omega
  have h1 : v / 262144 % 8 + 240 = a := by omega
  have h2 : v / 4096 % 64 + 128 = b := by omega
  have h3 : v / 64 % 64 + 128 = c := by omega
  have h4 : v % 64 + 128 = d := by omega
  rw [String.utf8EncodeChar, toNat_ofNat_scalar (by omega)]
  simp only [show ¬ v ≤ 127 by omega, show ¬ v ≤ 2047 by omega, show ¬ v ≤ 65535 by omega,
    if_false, h1, h2, h3, h4]

end Char

/-- What is read begins with the bytes of its first character. -/
private theorem exists_of_decode?_cons {b : UInt8} {bs : Bytes} {cs : List Char}
    (h : decode? (b :: bs) = some cs) : ∃ c rest cs', b :: bs = String.utf8EncodeChar c ++ rest ∧
      cs = c :: cs' ∧ decode? rest = some cs' := by
  obtain ⟨a, ha, rfl⟩ : ∃ a, a < 256 ∧ b = UInt8.ofNat a :=
    ⟨b.toNat, b.toNat_lt, by rw [UInt8.ofNat_toNat]⟩
  rw [decode?, scan, advance] at h
  by_cases h1 : a < 0x80
  · rw [start_ascii h1, List.singleton_append, List.mapM_cons] at h
    obtain ⟨c, hc, h⟩ := Option.bind_eq_some_iff.mp h
    obtain ⟨cs', hcs, h⟩ := Option.bind_eq_some_iff.mp h
    cases hc
    cases h
    exact ⟨_, bs, cs', by rw [encodeChar_one h1]; rfl, rfl, hcs⟩
  by_cases h2 : a < 0xC2 ∨ 0xF4 < a
  · rw [start_other (by omega) ha h2, List.singleton_append, List.mapM_cons] at h
    cases h
  by_cases h3 : a ≤ 0xDF
  · rw [start_two (by omega) h3, List.nil_append] at h
    obtain ⟨b, rest, rfl, hbl, hbh, cs', rfl, hrest⟩ := exists_of_lacks h
    refine ⟨_, rest, cs', ?_, rfl, hrest⟩
    rw [encodeChar_two ⟨by omega, h3⟩ ⟨hbl, hbh⟩ rfl]
    rfl
  by_cases h4 : a ≤ 0xEF
  · rw [start_three (by omega) h4, List.nil_append] at h
    obtain ⟨b, _, rfl, hbl, hbh, h⟩ := exists_of_lacks h
    obtain ⟨c, rest, rfl, hcl, hch, cs', rfl, hrest⟩ := exists_of_lacks h
    refine ⟨_, rest, cs', ?_, rfl, hrest⟩
    rw [encodeChar_three ⟨by omega, h4⟩ ⟨?_, ?_⟩ ⟨hcl, hch⟩ rfl]
    · rfl
    · split_ifs at hbl ⊢ <;> exact hbl
    · split_ifs at hbh ⊢ <;> exact hbh
  · rw [start_four (by omega) (by omega), List.nil_append] at h
    obtain ⟨b, _, rfl, hbl, hbh, h⟩ := exists_of_lacks h
    obtain ⟨c, _, rfl, hcl, hch, h⟩ := exists_of_lacks h
    obtain ⟨d, rest, rfl, hdl, hdh, cs', rfl, hrest⟩ := exists_of_lacks h
    refine ⟨_, rest, cs', ?_, rfl, hrest⟩
    rw [encodeChar_four ⟨by omega, by omega⟩ ⟨?_, ?_⟩ ⟨hcl, hch⟩ ⟨hdl, hdh⟩ rfl]
    · rfl
    · split_ifs at hbl ⊢ <;> exact hbl
    · split_ifs at hbh ⊢ <;> exact hbh

/-- Strict reading succeeds exactly on the bytes of texts. -/
theorem decode?_eq_some_iff {bs : Bytes} {cs : List Char} :
    decode? bs = some cs ↔ bs = encode cs := by
  refine ⟨fun h => ?_, fun h => h ▸ decode?_encode cs⟩
  induction cs generalizing bs with
  | nil =>
    cases bs with
    | nil => rfl
    | cons b bs =>
      obtain ⟨_, _, _, -, hcs, -⟩ := exists_of_decode?_cons h
      cases hcs
  | cons c cs ih =>
    cases bs with
    | nil => cases h
    | cons b bs =>
      obtain ⟨_, rest, _, hbs, hcs, hrest⟩ := exists_of_decode?_cons h
      cases hcs
      rw [hbs, ih hrest]
      rfl

theorem decode?_ofString (text : String) : decode? (ofString text) = some text.toList :=
  decode?_encode _

theorem toString?_ofString (text : String) : toString? (ofString text) = some text := by
  rw [toString?, decode?_ofString, Option.map_some, String.ofList_toList]

theorem ofString_append (a b : String) : ofString (a ++ b) = ofString a ++ ofString b := by
  rw [ofString, String.toList_append, encode, List.flatMap_append]
  rfl

theorem decode?_eq_none_iff {bs : Bytes} : decode? bs = none ↔ ¬ ∃ text, bs = ofString text := by
  rw [← Option.not_isSome_iff_eq_none, Option.isSome_iff_exists]
  refine not_congr ⟨?_, ?_⟩
  · rintro ⟨cs, hcs⟩
    exact ⟨String.ofList cs, by rw [ofString, String.toList_ofList, decode?_eq_some_iff.mp hcs]⟩
  · rintro ⟨text, rfl⟩
    exact ⟨text.toList, decode?_ofString text⟩

end BrokerGate.Text.Utf8
