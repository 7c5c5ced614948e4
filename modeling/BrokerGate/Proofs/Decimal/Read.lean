import BrokerGate.Decimal.Read
import BrokerGate.Proofs.Text.Split

/-! Which texts are read as numbers: whole ones as digits behind a sign, decimals as digits around a
point with an exponent behind them. -/
namespace BrokerGate.Decimal
open Text

/-- A number in base ten without sign. -/
def Digits (cs : List Char) : Prop := cs ≠ [] ∧ ∀ c ∈ cs, c.isDigit = true

/-- The number that digits stand for. -/
def wholeNumber (ds : List Char) : Nat := ds.foldl (fun n d => n * 10 + (d.toNat - 48)) 0

def signs : List (List Char) := [[], ['+'], ['-']]

/-- Nothing, or a letter, a sign and digits. -/
inductive Exponent : List Char → Prop
  | none : Exponent []
  | some {m : Char} {sign ds : List Char} (hm : m = 'e' ∨ m = 'E') (hsign : sign ∈ signs)
    (hds : Digits ds) : Exponent (m :: (sign ++ ds))

/-- Digits around a point, at least one of them, with a sign and an exponent. -/
inductive Pointed : List Char → Prop
  | intro {sign whole fraction e : List Char} (hsign : sign ∈ signs)
    (hds : Digits (whole ++ fraction)) (he : Exponent e) :
    Pointed (sign ++ (whole ++ '.' :: (fraction ++ e)))

section Whole
variable {cs : List Char} {n : Nat}

theorem digitIn?_ten (c : Char) :
    digitIn? 10 c = if c.isDigit then some (c.toNat - 48) else none := by
  have hzero : '0'.toNat = 48 := rfl
  have hnine : '9'.toNat = 57 := rfl
  by_cases hc : 48 ≤ c.toNat ∧ c.toNat ≤ 57
  · have hdigit : c.isDigit = true := Char.isDigit_iff_toNat.mpr hc
    have hlt : c.toNat - 48 < 10 := by omega
    simp [digitIn?, hdigit, hc, hlt]
  · have hdigit : ¬ c.isDigit = true := fun h => hc (Char.isDigit_iff_toNat.mp h)
    rw [if_neg hdigit]
    simp only [digitIn?, Bool.and_eq_true, decide_eq_true_eq, if_neg hc]
    -- the letters stand for ten and more
    apply if_neg
    split
    · omega
    · split <;> omega

theorem valueFrom?_ten (cs : List Char) (acc : Nat) : valueFrom? 10 acc cs =
    if cs.all Char.isDigit then some (cs.foldl (fun n d => n * 10 + (d.toNat - 48)) acc)
    else none := by
  induction cs generalizing acc with
  | nil => rfl
  | cons c cs ih =>
    rw [valueFrom?, digitIn?_ten, List.all_cons]
    cases hc : c.isDigit with
    | true =>
      simp only [if_true, Option.bind_some, Bool.true_and]
      exact ih _
    | false => rfl

theorem natural?_eq_some_iff : natural? 10 cs = some n ↔ Digits cs ∧ wholeNumber cs = n := by
  rw [natural?, Digits, valueFrom?_ten, wholeNumber]
  cases cs with
  | nil => simp
  | cons c cs => simp

theorem natural?_isSome_iff : (natural? 10 cs).isSome = true ↔ Digits cs := by
  rw [Option.isSome_iff_exists]
  constructor
  · rintro ⟨n, hn⟩
    exact (natural?_eq_some_iff.mp hn).1
  · exact fun h => ⟨_, natural?_eq_some_iff.mpr ⟨h, rfl⟩⟩

theorem not_digits_cons {c : Char} (hc : c.isDigit = false) : ¬ Digits (c :: cs) := fun h => by
  have hdigit := h.2 c List.mem_cons_self
  rw [hc] at hdigit
  cases hdigit

theorem unsigned?_plus (cs : List Char) : unsigned? 10 ('+' :: cs) = natural? 10 cs := rfl

theorem unsigned?_of_digits (h : Digits cs) : unsigned? 10 cs = some (wholeNumber cs) := by
  rw [unsigned?.eq_def]
  split
  · exact absurd h (not_digits_cons rfl)
  · exact natural?_eq_some_iff.mpr ⟨h, rfl⟩

theorem unsigned?_eq_some_iff : unsigned? 10 cs = some n ↔
    ∃ ds, Digits ds ∧ wholeNumber ds = n ∧ (cs = ds ∨ cs = '+' :: ds) := by
  constructor
  · intro h
    rw [unsigned?.eq_def] at h
    split at h
    · obtain ⟨hds, hn⟩ := natural?_eq_some_iff.mp h
      exact ⟨_, hds, hn, .inr rfl⟩
    · obtain ⟨hds, hn⟩ := natural?_eq_some_iff.mp h
      exact ⟨_, hds, hn, .inl rfl⟩
  · rintro ⟨ds, hds, rfl, rfl | rfl⟩
    · exact unsigned?_of_digits hds
    · exact natural?_eq_some_iff.mpr ⟨hds, rfl⟩

theorem integer?_minus (cs : List Char) :
    integer? 10 ('-' :: cs) = (natural? 10 cs).map fun n : Nat => -(n : Int) := by
  rw [integer?]
  cases natural? 10 cs <;> rfl

theorem integer?_of_head (h : cs.head? ≠ some '-') :
    integer? 10 cs = (unsigned? 10 cs).map Int.ofNat := by
  rw [integer?.eq_def]
  split
  · exact absurd rfl h
  · rfl

theorem integer?_isSome_iff : (integer? 10 cs).isSome = true ↔
    ∃ sign ds, sign ∈ signs ∧ Digits ds ∧ cs = sign ++ ds := by
  by_cases hminus : cs.head? = some '-'
  · obtain ⟨cs, rfl⟩ := List.head?_eq_some_iff.mp hminus
    rw [integer?_minus, Option.isSome_map, natural?_isSome_iff]
    constructor
    · exact fun h => ⟨['-'], cs, by simp [signs], h, rfl⟩
    · rintro ⟨sign, ds, hsign, hds, heq⟩
      simp only [signs, List.mem_cons, List.not_mem_nil, or_false] at hsign
      rcases hsign with rfl | rfl | rfl
      · rw [List.nil_append] at heq
        exact absurd (heq ▸ hds) (not_digits_cons rfl)
      · cases heq
      · cases heq
        exact hds
  · rw [integer?_of_head hminus, Option.isSome_map, Option.isSome_iff_exists]
    simp only [unsigned?_eq_some_iff]
    constructor
    · rintro ⟨n, ds, hds, -, rfl | rfl⟩
      · exact ⟨[], cs, by simp [signs], hds, rfl⟩
      · exact ⟨['+'], ds, by simp [signs], hds, rfl⟩
    · rintro ⟨sign, ds, hsign, hds, rfl⟩
      simp only [signs, List.mem_cons, List.not_mem_nil, or_false] at hsign
      rcases hsign with rfl | rfl | rfl
      · exact ⟨_, ds, hds, rfl, .inl rfl⟩
      · exact ⟨_, ds, hds, rfl, .inr rfl⟩
      · exact absurd rfl hminus

end Whole

section Point
variable {cs whole fraction e : List Char}

theorem exponent?_isSome_iff : (exponent? e).isSome = true ↔ Exponent e := by
  rw [exponent?.eq_def]
  constructor
  · intro h
    split at h
    · exact .none
    · split at h
      · rename_i m cs hm
        obtain ⟨sign, ds, hsign, hds, rfl⟩ := integer?_isSome_iff.mp h
        exact .some (by simpa using hm) hsign hds
      · cases h
  · intro h
    cases h with
    | none => rfl
    | @some m sign ds hm hsign hds =>
      have hletter : (m = 'e' || m = 'E') = true := by simpa using hm
      simp only [hletter, if_true]
      exact integer?_isSome_iff.mpr ⟨sign, ds, hsign, hds, rfl⟩

theorem mem_signs_iff {sign : List Char} :
    sign ∈ signs ↔ sign = [] ∨ ∃ c ∈ ['+', '-'], sign = [c] := by
  simp [signs]

theorem ne_point_of_sign {sign : List Char} (h : sign ∈ signs) :
    ∀ c ∈ sign, c ≠ '.' := by
  obtain rfl | ⟨c, hc, rfl⟩ := mem_signs_iff.mp h
  · nofun
  · refine List.forall_mem_singleton.mpr ?_
    rintro rfl
    exact absurd hc (by decide)

theorem point_notMem_exponent (h : Exponent e) : '.' ∉ e := by
  cases h with
  | none => exact List.not_mem_nil
  | @some m sign ds hm hsign hds =>
    intro hmem
    rcases List.mem_cons.mp hmem with rfl | hmem
    · rcases hm with hm | hm <;> exact absurd hm (by decide)
    · rcases List.mem_append.mp hmem with hmem | hmem
      · exact ne_point_of_sign hsign _ hmem rfl
      · exact absurd (hds.2 _ hmem) (by decide)

theorem head_exponent (h : Exponent e) : ∀ c ∈ e.head?, c.isDigit = false := by
  cases h with
  | none => exact fun c hc => nomatch hc
  | some hm =>
    rintro c ⟨⟩
    rcases hm with rfl | rfl <;> decide

/-- Words that stand for numbers have no point. -/
theorem lower_ne (word : String) (h : '.' ∈ cs) (hword : '.' ∉ word.toList) :
    lower cs ≠ word := by
  rintro rfl
  rw [lower, String.toList_ofList] at hword
  exact hword (List.mem_map.mpr ⟨'.', h, by decide⟩)

theorem magnitude?_pointed (hwhole : ∀ c ∈ whole, c.isDigit = true)
    (hfraction : ∀ c ∈ fraction, c.isDigit = true) (he : ∀ c ∈ e.head?, c.isDigit = false) :
    (magnitude? (whole ++ '.' :: (fraction ++ e))).isSome = true ↔
      Digits (whole ++ fraction) ∧ Exponent e := by
  have hpoint : '.' ∈ whole ++ '.' :: (fraction ++ e) := by simp
  have hinf := lower_ne "inf" hpoint (by decide)
  have hinfinity := lower_ne "infinity" hpoint (by decide)
  have hnan := lower_ne "nan" hpoint (by decide)
  have hstop : ∀ c ∈ ('.' :: (fraction ++ e)).head?, c.isDigit = false := by
    rintro c ⟨⟩
    decide
  obtain ⟨htake, -⟩ := span_append hwhole hstop
  obtain ⟨htake', hdrop'⟩ := span_append hfraction he
  rw [magnitude?.eq_def, ← natural?_isSome_iff, ← exponent?_isSome_iff]
  split
  case h_4 =>
    simp only [htake, List.drop_left, htake', hdrop']
    cases natural? 10 (whole ++ fraction) with
    | none => simp
    | some n => cases exponent? e <;> simp
  all_goals contradiction

theorem magnitude?_of_no_point_behind {rest : List Char} (hpoint : '.' ∈ rest)
    (hwhole : ∀ c ∈ whole, c.isDigit = true) (hrest : ∀ c ∈ rest.head?, c.isDigit = false)
    (hhead : rest.head? ≠ some '.') : (magnitude? (whole ++ rest)).isSome = false := by
  have hmem : '.' ∈ whole ++ rest := List.mem_append_right _ hpoint
  have hinf := lower_ne "inf" hmem (by decide)
  have hinfinity := lower_ne "infinity" hmem (by decide)
  have hnan := lower_ne "nan" hmem (by decide)
  obtain ⟨htake, -⟩ := span_append hwhole hrest
  have hexponent : exponent? rest = none := by
    rw [← Option.not_isSome_iff_eq_none, exponent?_isSome_iff]
    exact fun h => point_notMem_exponent h hpoint
  rw [magnitude?.eq_def]
  split
  case h_4 =>
    simp only [htake, List.drop_left]
    split
    · next he =>
      split at he
      · exact absurd rfl hhead
      · rw [hexponent] at he
        cases he
    · rfl
  all_goals contradiction

theorem magnitude?_isSome_iff (h : '.' ∈ cs) : (magnitude? cs).isSome = true ↔
    ∃ whole fraction e, Digits (whole ++ fraction) ∧ Exponent e ∧
      cs = whole ++ '.' :: (fraction ++ e) := by
  constructor
  · intro hsome
    obtain ⟨whole, rest, rfl, hwhole, hrest⟩ := exists_span Char.isDigit cs
    have hpoint : '.' ∈ rest := (List.mem_append.mp h).resolve_left fun hmem =>
      absurd (hwhole _ hmem) (by decide)
    by_cases hhead : rest.head? = some '.'
    · obtain ⟨r, rfl⟩ := List.head?_eq_some_iff.mp hhead
      obtain ⟨fraction, e, rfl, hfraction, he⟩ := exists_span Char.isDigit r
      obtain ⟨hds, hexponent⟩ := (magnitude?_pointed hwhole hfraction he).mp hsome
      exact ⟨whole, fraction, e, hds, hexponent, rfl⟩
    · rw [magnitude?_of_no_point_behind hpoint hwhole hrest hhead] at hsome
      cases hsome
  · rintro ⟨whole, fraction, e, hds, he, rfl⟩
    have hwhole : ∀ c ∈ whole, c.isDigit = true := fun c hc => hds.2 c (by simp [hc])
    have hfraction : ∀ c ∈ fraction, c.isDigit = true := fun c hc => hds.2 c (by simp [hc])
    exact (magnitude?_pointed hwhole hfraction (head_exponent he)).mpr ⟨hds, he⟩

/-- A text with a point is a decimal exactly if there are digits around the point. -/
theorem double?_isSome_iff (h : '.' ∈ cs) : (double? cs).isSome = true ↔ Pointed cs := by
  rw [double?.eq_def]
  constructor
  · intro hsome
    split at hsome
    · rw [Option.isSome_map, magnitude?_isSome_iff (by simpa using h)] at hsome
      obtain ⟨whole, fraction, e, hds, he, rfl⟩ := hsome
      exact .intro (by simp [signs] : ['-'] ∈ signs) hds he
    · rw [Option.isSome_map, magnitude?_isSome_iff (by simpa using h)] at hsome
      obtain ⟨whole, fraction, e, hds, he, rfl⟩ := hsome
      exact .intro (by simp [signs] : ['+'] ∈ signs) hds he
    · rw [Option.isSome_map, magnitude?_isSome_iff h] at hsome
      obtain ⟨whole, fraction, e, hds, he, rfl⟩ := hsome
      exact .intro (by simp [signs] : [] ∈ signs) hds he
  · rintro ⟨hsign, hds, he⟩
    rename_i sign whole fraction e
    have hmagnitude : (magnitude? (whole ++ '.' :: (fraction ++ e))).isSome = true :=
      (magnitude?_isSome_iff (by simp)).mpr ⟨whole, fraction, e, hds, he, rfl⟩
    simp only [signs, List.mem_cons, List.not_mem_nil, or_false] at hsign
    have hhead : ∀ c ∈ (whole ++ '.' :: (fraction ++ e)).head?, c ≠ '-' ∧ c ≠ '+' := by
      cases whole with
      | nil =>
        rintro c ⟨⟩
        decide
      | cons d whole =>
        rintro c ⟨⟩
        have hdigit := hds.2 d (by simp)
        constructor <;> (rintro rfl; cases hdigit)
    rcases hsign with rfl | rfl | rfl
    · rw [List.nil_append]
      split
      · next hcs => exact absurd rfl (hhead '-' (by rw [hcs]; rfl)).1
      · next hcs => exact absurd rfl (hhead '+' (by rw [hcs]; rfl)).2
      · rwa [Option.isSome_map]
    · simpa using hmagnitude
    · simpa using hmagnitude

end Point

end BrokerGate.Decimal
