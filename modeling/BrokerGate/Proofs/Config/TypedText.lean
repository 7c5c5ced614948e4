import BrokerGate.Config.Variable
import BrokerGate.Proofs.Decimal.Read
import BrokerGate.Proofs.Text.Ascii

/-! The forms of texts of variables that do not stand for themselves: the two flags, numbers, a
character or a text between quotes, lists and tables. -/
namespace BrokerGate.Config
open Text Decimal

/-- A whole number that fits 64 bits, or a decimal. -/
inductive NumberText : List Char → Prop
  | natural {ds : List Char} (hds : Digits ds) (hmax : wholeNumber ds < 0x10000000000000000) : NumberText ds
  | positive {ds : List Char} (hds : Digits ds) (hmax : wholeNumber ds < 0x10000000000000000) :
    NumberText ('+' :: ds)
  | negative {ds : List Char} (hds : Digits ds) (hmin : wholeNumber ds ≤ 0x8000000000000000) :
    NumberText ('-' :: ds)
  | decimal {cs : List Char} (h : Pointed cs) : NumberText cs

/-- What may stand between double quotes, and the text that it stands for. -/
inductive QuotedText : List Char → List Char → Prop
  | nil : QuotedText [] []
  | plain {c : Char} {cs u : List Char} (hquote : c ≠ '"') (hslash : c ≠ '\\')
    (hplain : isPlainInQuotes c = true) (h : QuotedText cs u) : QuotedText (c :: cs) (c :: u)
  | simple {e c : Char} {cs u : List Char} (he : simpleEscape? e = some c) (h : QuotedText cs u) :
    QuotedText ('\\' :: e :: cs) (c :: u)
  | short {c : Char} {ds cs u : List Char} (hlength : ds.length = 4) (hds : hexChar? ds = some c)
    (h : QuotedText cs u) : QuotedText ('\\' :: 'u' :: (ds ++ cs)) (c :: u)
  | long {c : Char} {ds cs u : List Char} (hlength : ds.length = 8) (hds : hexChar? ds = some c)
    (h : QuotedText cs u) : QuotedText ('\\' :: 'U' :: (ds ++ cs)) (c :: u)

/-- Spaces and tabs. -/
def Gaps (cs : List Char) : Prop := ∀ c ∈ cs, isGap c = true

/-- A text without separators that does not begin as something else does. -/
structure Bare (cs : List Char) : Prop where
  plain : ∀ c ∈ cs, isSeparator c = false
  start : ∀ c ∈ cs.head?, isGap c = false ∧ c ≠ '"' ∧ c ≠ '\''
  notYes : ¬ "true".toList <+: cs
  notNo : ¬ "false".toList <+: cs

/-- The key of an entry, up to the sign behind it. -/
inductive KeyText : List Char → Prop
  | plain {lead name trail : List Char} (hlead : Gaps lead) (htrail : Gaps trail) (hne : name ≠ [])
    (hname : ∀ c ∈ name, isKeyChar c = true) : KeyText (lead ++ (name ++ trail))
  | quoted {lead cs u trail : List Char} (hlead : Gaps lead) (htrail : Gaps trail)
    (h : QuotedText cs u) : KeyText (lead ++ ('"' :: (cs ++ '"' :: trail)))

/-- Parts of a text: one that its first characters mark, a value in a list or a table, and what
follows the bracket that opens a list or a table. -/
inductive Part
  | marked
  | value
  | items
  | entries

inductive Fits : Part → List Char → Prop
  | yes : Fits .marked "true".toList
  | no : Fits .marked "false".toList
  | char (c : Char) : Fits .marked ['\'', c, '\'']
  | quoted {cs u : List Char} (h : QuotedText cs u) : Fits .marked ('"' :: (cs ++ ['"']))
  | list {cs : List Char} (h : Fits .items cs) : Fits .marked ('[' :: cs)
  | table {cs : List Char} (h : Fits .entries cs) : Fits .marked ('\x7b' :: cs)
  | framed {lead cs trail : List Char} (hlead : Gaps lead) (htrail : Gaps trail)
    (h : Fits .marked cs) : Fits .value (lead ++ (cs ++ trail))
  | bare {lead cs : List Char} (hlead : Gaps lead) (h : Bare cs) : Fits .value (lead ++ cs)
  | noItem : Fits .items [']']
  | lastItem {cs : List Char} (h : Fits .value cs) : Fits .items (cs ++ [']'])
  | item {cs more : List Char} (h : Fits .value cs) (hmore : Fits .items more) :
    Fits .items (cs ++ ',' :: more)
  | noEntry : Fits .entries ['\x7d']
  | lastEntry {key cs : List Char} (hkey : KeyText key) (h : Fits .value cs) :
    Fits .entries (key ++ '=' :: (cs ++ ['\x7d']))
  | entry {key cs more : List Char} (hkey : KeyText key) (h : Fits .value cs)
    (hmore : Fits .entries more) : Fits .entries (key ++ '=' :: (cs ++ ',' :: more))

/-- A text that does not stand for itself. -/
def TypedText (cs : List Char) : Prop := Fits .marked cs ∨ NumberText cs

section Number
variable {cs ds : List Char} {n : Nat}

theorem point_notMem_signed (sign : List Char) (hsign : sign ∈ signs) (hds : Digits ds) :
    '.' ∉ sign ++ ds := by
  intro hmem
  rcases List.mem_append.mp hmem with hmem | hmem
  · exact ne_point_of_sign hsign _ hmem rfl
  · exact absurd (hds.2 _ hmem) (by decide)

theorem integer?_of_point (h : '.' ∈ cs) : integer? 10 cs = none := by
  rw [← Option.not_isSome_iff_eq_none, integer?_isSome_iff]
  rintro ⟨sign, ds, hsign, hds, rfl⟩
  exact point_notMem_signed sign hsign hds h

theorem unsigned?_of_point (h : '.' ∈ cs) : unsigned? 10 cs = none := by
  rw [Option.eq_none_iff_forall_ne_some]
  intro n hn
  obtain ⟨ds, hds, -, heq⟩ := unsigned?_eq_some_iff.mp hn
  rcases heq with rfl | rfl
  · exact point_notMem_signed [] (by decide) hds h
  · exact point_notMem_signed ['+'] (by decide) hds h

theorem numberText_of_point (h : '.' ∈ cs) : NumberText cs ↔ Pointed cs := by
  constructor
  · intro hn
    cases hn with
    | natural hds => exact absurd h (point_notMem_signed [] (by decide) hds)
    | positive hds => exact absurd h (point_notMem_signed ['+'] (by decide) hds)
    | negative hds => exact absurd h (point_notMem_signed ['-'] (by decide) hds)
    | decimal hpoint => exact hpoint
  · exact .decimal

theorem point_mem_of_pointed (h : Pointed cs) : '.' ∈ cs := by
  cases h
  simp

theorem unsigned?_minus (cs : List Char) : unsigned? 10 ('-' :: cs) = none := by
  rw [Option.eq_none_iff_forall_ne_some]
  intro n hn
  obtain ⟨ds, hds, -, heq⟩ := unsigned?_eq_some_iff.mp hn
  rcases heq with rfl | heq
  · exact not_digits_cons rfl hds
  · cases heq

theorem numberText_of_unsigned (h : unsigned? 10 cs = some n) (hpoint : '.' ∉ cs) :
    NumberText cs ↔ n < 0x10000000000000000 := by
  constructor
  · intro hn
    cases hn with
    | natural hds hmax =>
      rw [unsigned?_of_digits hds] at h
      cases h
      exact hmax
    | positive hds hmax =>
      rw [unsigned?_plus, natural?_eq_some_iff] at h
      exact h.2 ▸ hmax
    | negative hds =>
      rw [unsigned?_minus] at h
      cases h
    | decimal hp => exact absurd (point_mem_of_pointed hp) hpoint
  · intro hmax
    obtain ⟨ds, hds, rfl, rfl | rfl⟩ := unsigned?_eq_some_iff.mp h
    · exact .natural hds hmax
    · exact .positive hds hmax

theorem numberText_minus (hpoint : '.' ∉ ds) :
    NumberText ('-' :: ds) ↔ ∃ n, natural? 10 ds = some n ∧ n ≤ 0x8000000000000000 := by
  constructor
  · intro hn
    cases hn with
    | natural hds => exact absurd hds (not_digits_cons rfl)
    | negative hds hmin => exact ⟨_, natural?_eq_some_iff.mpr ⟨hds, rfl⟩, hmin⟩
    | decimal hp => exact absurd (point_mem_of_pointed hp) (by simpa using hpoint)
  · rintro ⟨n, hn, hmin⟩
    obtain ⟨hds, rfl⟩ := natural?_eq_some_iff.mp hn
    exact .negative hds hmin

theorem not_numberText (h : unsigned? 10 cs = none) (hminus : cs.head? ≠ some '-')
    (hpoint : '.' ∉ cs) : ¬ NumberText cs := by
  intro hn
  cases hn with
  | natural hds =>
    rw [unsigned?_of_digits hds] at h
    cases h
  | positive hds =>
    rw [unsigned?_plus, natural?_eq_some_iff.mpr ⟨hds, rfl⟩] at h
    cases h
  | negative => exact hminus rfl
  | decimal hp => exact hpoint (point_mem_of_pointed hp)

/-- A bare text stands for itself unless it is a number. -/
theorem bareScalar_eq_text_iff :
    bareScalar cs = .text (String.ofList cs) ↔ ¬ NumberText cs := by
  by_cases hpoint : '.' ∈ cs
  · rw [numberText_of_point hpoint, ← double?_isSome_iff hpoint, bareScalar]
    have hcontains : cs.contains '.' = true := by simpa using hpoint
    simp only [hcontains, if_true, unsigned?_of_point hpoint, integer?_of_point hpoint]
    cases double? cs with
    | none => simp
    | some d => simp
  · have hcontains : cs.contains '.' = false := by simpa using hpoint
    simp only [bareScalar, hcontains, Bool.false_eq_true, if_false]
    cases hn : unsigned? 10 cs with
    | some n =>
      rw [numberText_of_unsigned hn hpoint]
      by_cases hmax : n < 0x10000000000000000
      · simp only [hmax, if_true, not_true_eq_false, reduceCtorEq]
      · simp only [hmax, if_false, not_false_eq_true]
    | none =>
      by_cases hminus : cs.head? = some '-'
      · obtain ⟨ds, rfl⟩ := List.head?_eq_some_iff.mp hminus
        rw [numberText_minus (by simpa using hpoint), integer?_minus]
        cases natural? 10 ds with
        | none => simp
        | some n =>
          by_cases hmin : n ≤ 0x8000000000000000
          · have hwithin : -0x8000000000000000 ≤ -(n : Int) ∧
                -(n : Int) ≤ 0x7FFFFFFFFFFFFFFF := by omega
            simp only [within, Option.map_some, Option.bind_some, Bool.and_eq_true,
              decide_eq_true_eq, hwithin, and_self, if_true, reduceCtorEq, false_iff]
            exact fun hnone => hnone ⟨n, rfl, hmin⟩
          · have hwithin : ¬ (-0x8000000000000000 ≤ -(n : Int) ∧
                -(n : Int) ≤ 0x7FFFFFFFFFFFFFFF) := by omega
            simp only [within, Option.map_some, Option.bind_some, Bool.and_eq_true,
              decide_eq_true_eq, hwithin, if_false, true_iff]
            rintro ⟨m, ⟨⟩, hm⟩
            exact hmin hm
      · rw [integer?_of_head hminus, hn]
        simpa using not_numberText hn hminus hpoint

/-- Digits, signs, a point and the letter of an exponent. -/
def IsNumberChar (c : Char) : Prop := c.isDigit = true ∨ c ∈ ['+', '-', '.', 'e', 'E']

theorem isNumberChar_sign {sign : List Char} (h : sign ∈ signs) : ∀ c ∈ sign, IsNumberChar c := by
  obtain rfl | ⟨c, hc, rfl⟩ := mem_signs_iff.mp h
  · nofun
  · exact List.forall_mem_singleton.mpr (.inr (List.mem_append_left ['.', 'e', 'E'] hc))

theorem isNumberChar_pointed (h : Pointed cs) : ∀ c ∈ cs, IsNumberChar c := by
  obtain ⟨hsign, hds, he⟩ := h
  simp only [List.forall_mem_append, List.forall_mem_cons]
  have hdigits := List.forall_mem_append.mp fun c hc => hds.2 c hc
  refine ⟨isNumberChar_sign hsign, fun c hc => .inl (hdigits.1 c hc), .inr (by decide),
    fun c hc => .inl (hdigits.2 c hc), ?_⟩
  cases he with
  | none => exact fun c hc => nomatch hc
  | some hm hsign hds =>
    simp only [List.forall_mem_append, List.forall_mem_cons]
    refine ⟨.inr ?_, isNumberChar_sign hsign, fun c hc => .inl (hds.2 c hc)⟩
    rcases hm with rfl | rfl <;> decide

theorem isNumberChar_of_numberText (h : NumberText cs) : ∀ c ∈ cs, IsNumberChar c := by
  cases h with
  | natural hds => exact fun c hc => .inl (hds.2 c hc)
  | positive hds =>
    exact List.forall_mem_cons.mpr ⟨.inr (by decide), fun c hc => .inl (hds.2 c hc)⟩
  | negative hds =>
    exact List.forall_mem_cons.mpr ⟨.inr (by decide), fun c hc => .inl (hds.2 c hc)⟩
  | decimal h => exact isNumberChar_pointed h

theorem IsNumberChar.bare {c : Char} (h : IsNumberChar c) : isSeparator c = false ∧
    (isGap c = false ∧ c ≠ '"' ∧ c ≠ '\'') ∧ c ≠ 't' ∧ c ≠ 'f' := by
  have hascii : c.toNat < 128 := by
    rcases h with hdigit | hmark
    · exact toNat_lt_of_isDigit hdigit
    · simp only [List.mem_cons, List.not_mem_nil, or_false] at hmark
      rcases hmark with rfl | rfl | rfl | rfl | rfl <;> decide
  exact forall_ascii (p := fun c => c.isDigit = true ∨ c ∈ ['+', '-', '.', 'e', 'E'] →
    isSeparator c = false ∧ (isGap c = false ∧ c ≠ '"' ∧ c ≠ '\'') ∧ c ≠ 't' ∧ c ≠ 'f')
    (by decide +kernel) hascii h

/-- Numbers are bare texts. -/
theorem bare_of_numberText (h : NumberText cs) : Bare cs where
  plain := fun c hc => (isNumberChar_of_numberText h c hc).bare.1
  start := fun c hc => (isNumberChar_of_numberText h c (List.mem_of_mem_head? hc)).bare.2.1
  notYes := fun hyes =>
    (isNumberChar_of_numberText h 't' (hyes.subset (by decide))).bare.2.2.1 rfl
  notNo := fun hno =>
    (isNumberChar_of_numberText h 'f' (hno.subset (by decide))).bare.2.2.2 rfl

end Number

section Quoted
variable {fuel : Nat} {acc cs out rest u : List Char}

/-- What is read between quotes. -/
theorem quotedText_of_quotedBody (h : quotedBody fuel acc cs = some (out, rest)) :
    ∃ t u, QuotedText t u ∧ cs = t ++ '"' :: rest ∧ out = acc.reverse ++ u := by
  induction fuel generalizing acc cs with
  | zero =>
    rw [quotedBody] at h
    · cases h
    all_goals simp
  | succ fuel ih =>
    -- whatever comes first is one character of the text
    have hstep : ∀ {c : Char} {cs' : List Char}, quotedBody fuel (c :: acc) cs' = some (out, rest) →
        ∃ t u, QuotedText t u ∧ cs' = t ++ '"' :: rest ∧ out = acc.reverse ++ c :: u := by
      intro c cs' h'
      obtain ⟨t, u, hquoted, hcs, hout⟩ := ih h'
      exact ⟨t, u, hquoted, hcs, by rw [hout, List.reverse_cons, List.append_assoc]; rfl⟩
    rw [quotedBody.eq_def] at h
    split at h
    · cases h
      exact ⟨[], [], .nil, rfl, by simp⟩
    · next hfuel =>
      cases hfuel
      obtain ⟨c, hc, h⟩ := Option.bind_eq_some_iff.mp h
      split at h
      · cases h
      · next cs' hlength =>
        obtain ⟨t, u, hquoted, hcs, hout⟩ := hstep h
        refine ⟨_, _, .short (by simp; omega) hc hquoted, ?_, hout⟩
        rw [List.cons_append, List.cons_append, List.append_assoc, ← hcs, List.take_append_drop]
    · next hfuel =>
      cases hfuel
      obtain ⟨c, hc, h⟩ := Option.bind_eq_some_iff.mp h
      split at h
      · cases h
      · next cs' hlength =>
        obtain ⟨t, u, hquoted, hcs, hout⟩ := hstep h
        refine ⟨_, _, .long (by simp; omega) hc hquoted, ?_, hout⟩
        rw [List.cons_append, List.cons_append, List.append_assoc, ← hcs, List.take_append_drop]
    · next hfuel =>
      cases hfuel
      obtain ⟨c, hc, h⟩ := Option.bind_eq_some_iff.mp h
      obtain ⟨t, u, hquoted, hcs, hout⟩ := hstep h
      exact ⟨_, _, .simple hc hquoted, by rw [hcs]; rfl, hout⟩
    · next c cs' hquote _ _ _ hfuel =>
      cases hfuel
      split at h
      · next hplain =>
        rw [Bool.and_eq_true, decide_eq_true_eq] at hplain
        obtain ⟨t, u, hquoted, hcs, hout⟩ := hstep h
        exact ⟨_, _, .plain hquote hplain.1 hplain.2 hquoted, by rw [hcs]; rfl, hout⟩
      · cases h
    · cases h

theorem length_le_of_quotedText (h : QuotedText cs u) : u.length ≤ cs.length := by
  induction h with
  | nil => exact Nat.le_refl _
  | plain _ _ _ _ ih => simpa using ih
  | simple _ _ ih => exact Nat.le_succ_of_le (Nat.succ_le_succ ih)
  | short hlength _ _ ih | long hlength _ _ ih =>
    simp only [List.length_cons, List.length_append]
    omega

theorem quotedBody_plain {c : Char} (hquote : c ≠ '"') (hslash : c ≠ '\\')
    (hplain : isPlainInQuotes c = true) (cs : List Char) :
    quotedBody (fuel + 1) acc (c :: cs) = quotedBody fuel (c :: acc) cs := by
  rw [quotedBody]
  · simp [hslash, hplain]
  · exact hquote
  all_goals
    intros
    contradiction

theorem quotedBody_simple {e c : Char} (he : simpleEscape? e = some c) (cs : List Char) :
    quotedBody (fuel + 1) acc ('\\' :: e :: cs) = quotedBody fuel (c :: acc) cs := by
  rw [quotedBody, he, Option.bind_some]
  all_goals
    rintro rfl
    cases he

theorem quotedBody_short {c : Char} {ds : List Char} (hlength : ds.length = 4)
    (hds : hexChar? ds = some c) (cs : List Char) :
    quotedBody (fuel + 1) acc ('\\' :: 'u' :: (ds ++ cs)) = quotedBody fuel (c :: acc) cs := by
  have htake : (ds ++ cs).take 4 = ds := List.take_left' hlength
  have hdrop : (ds ++ cs).drop 4 = cs := List.drop_left' hlength
  have hlong : ¬ (ds ++ cs).length < 4 := by
    rw [List.length_append]
    omega
  rw [quotedBody, htake, hds, Option.bind_some, if_neg hlong, hdrop]

theorem quotedBody_long {c : Char} {ds : List Char} (hlength : ds.length = 8)
    (hds : hexChar? ds = some c) (cs : List Char) :
    quotedBody (fuel + 1) acc ('\\' :: 'U' :: (ds ++ cs)) = quotedBody fuel (c :: acc) cs := by
  have htake : (ds ++ cs).take 8 = ds := List.take_left' hlength
  have hdrop : (ds ++ cs).drop 8 = cs := List.drop_left' hlength
  have hlong : ¬ (ds ++ cs).length < 8 := by
    rw [List.length_append]
    omega
  rw [quotedBody, htake, hds, Option.bind_some, if_neg hlong, hdrop]

theorem quotedBody_of_quotedText (h : QuotedText cs u) (hfuel : cs.length < fuel) :
    quotedBody fuel acc (cs ++ '"' :: rest) = some (acc.reverse ++ u, rest) := by
  induction h generalizing fuel acc with
  | nil =>
    obtain ⟨fuel, rfl⟩ := Nat.exists_eq_succ_of_ne_zero (Nat.ne_zero_of_lt hfuel)
    simp [quotedBody]
  | plain hquote hslash hplain h ih =>
    obtain ⟨fuel, rfl⟩ := Nat.exists_eq_succ_of_ne_zero (Nat.ne_zero_of_lt hfuel)
    rw [List.cons_append, Nat.succ_eq_add_one, quotedBody_plain hquote hslash hplain,
      ih (by simpa using hfuel), List.reverse_cons, List.append_assoc, List.singleton_append]
  | simple he h ih =>
    obtain ⟨fuel, rfl⟩ := Nat.exists_eq_succ_of_ne_zero (Nat.ne_zero_of_lt hfuel)
    simp only [List.length_cons] at hfuel
    rw [List.cons_append, List.cons_append, Nat.succ_eq_add_one, quotedBody_simple he,
      ih (by omega), List.reverse_cons, List.append_assoc, List.singleton_append]
  | short hlength hds h ih =>
    obtain ⟨fuel, rfl⟩ := Nat.exists_eq_succ_of_ne_zero (Nat.ne_zero_of_lt hfuel)
    simp only [List.length_cons, List.length_append] at hfuel
    rw [List.cons_append, List.cons_append, List.append_assoc, Nat.succ_eq_add_one,
      quotedBody_short hlength hds, ih (by omega), List.reverse_cons, List.append_assoc,
      List.singleton_append]
  | long hlength hds h ih =>
    obtain ⟨fuel, rfl⟩ := Nat.exists_eq_succ_of_ne_zero (Nat.ne_zero_of_lt hfuel)
    simp only [List.length_cons, List.length_append] at hfuel
    rw [List.cons_append, List.cons_append, List.append_assoc, Nat.succ_eq_add_one,
      quotedBody_long hlength hds, ih (by omega), List.reverse_cons, List.append_assoc,
      List.singleton_append]

/-- As many steps as there are characters behind the opening quote are enough. -/
theorem quotedBody_rest (h : QuotedText cs u) (rest : List Char) :
    quotedBody ((cs ++ '"' :: rest).length + 1) [] (cs ++ '"' :: rest) = some (u, rest) :=
  quotedBody_of_quotedText h <| by
    rw [List.length_append]
    omega

/-- A character between quotes: quotes and backslashes are escaped, controls are numbered. -/
def quotedCharacter (c : Char) : List Char :=
  if c = '"' || c = '\\' then ['\\', c]
  else if isPlainInQuotes c then [c]
  else ['\\', 'u', '0', '0', Json.hexLower (c.toNat / 16), Json.hexLower (c.toNat % 16)]

/-- The text in quotes. -/
def quotedVariable (s : String) : String :=
  String.ofList ('"' :: (s.toList.flatMap quotedCharacter ++ ['"']))

theorem hexChar?_control {c : Char} (h : isPlainInQuotes c = false) :
    hexChar? ['0', '0', Json.hexLower (c.toNat / 16), Json.hexLower (c.toNat % 16)] = some c := by
  have hascii : c.toNat < 128 := by
    simp only [isPlainInQuotes, Bool.or_eq_false_iff, Bool.and_eq_false_iff,
      decide_eq_false_iff_not] at h
    omega
  exact forall_ascii (p := fun c => isPlainInQuotes c = false →
    hexChar? ['0', '0', Json.hexLower (c.toNat / 16), Json.hexLower (c.toNat % 16)] = some c)
    (by decide +kernel) hascii h

theorem quotedText_flatMap (cs : List Char) : QuotedText (cs.flatMap quotedCharacter) cs := by
  induction cs with
  | nil => exact .nil
  | cons c cs ih =>
    rw [List.flatMap_cons, quotedCharacter]
    split
    · next hmark =>
      rw [Bool.or_eq_true, decide_eq_true_eq, decide_eq_true_eq] at hmark
      refine .simple ?_ ih
      rcases hmark with rfl | rfl <;> rfl
    · next hmark =>
      rw [Bool.or_eq_true, decide_eq_true_eq, decide_eq_true_eq, not_or] at hmark
      split
      · next hplain => exact .plain hmark.1 hmark.2 hplain ih
      · next hplain =>
        exact .short rfl (hexChar?_control (by simpa using hplain)) ih

end Quoted

end BrokerGate.Config
