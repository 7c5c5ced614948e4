import BrokerGate.Json.Read

/-! Written documents are read back. Reading is bounded by a number of steps; the length of the
text is always enough. -/
namespace BrokerGate.Json
open Text

section Strings

theorem hexDigit?_hexLower {n : Nat} (h : n < 16) : hexDigit? (hexLower n) = some n := by
  have hall : ∀ n : Fin 16, hexDigit? (hexLower n) = some n.val := by decide +kernel
  exact hall ⟨n, h⟩

/-- The number of a control is written with four digits of which the first two are zero. -/
theorem unicodeEscape?_control {n : Nat} (h : n < 0x20) (rest : List Char) :
    unicodeEscape? ('0' :: '0' :: hexLower (n / 16) :: hexLower (n % 16) :: rest) =
      some (Char.ofNat n, rest) := by
  have hzero : hexDigit? '0' = some 0 := by decide
  have hhigh := hexDigit?_hexLower (n := n / 16) (by omega)
  have hlow := hexDigit?_hexLower (n := n % 16) (by omega)
  have hsum : ((0 * 16 + 0) * 16 + n / 16) * 16 + n % 16 = n := by omega
  have hquad : hexQuad? ('0' :: '0' :: hexLower (n / 16) :: hexLower (n % 16) :: rest) =
      some (n, rest) := by
    simp only [hexQuad?, hzero, hhigh, hlow, hsum]
  have hsurrogate : isHigh n = false ∧ isLow n = false := by
    constructor
    · simp [isHigh]; omega
    · simp [isLow]; omega
  rw [unicodeEscape?, hquad]
  simp [hsurrogate]

theorem escapedChar_length_pos (c : Char) : 0 < (escapedChar c).length := by
  rw [escapedChar.eq_def]
  split
  case h_8 => split <;> simp
  all_goals simp

variable {f : Nat} {acc rest : List Char}

/-- One written character is read as itself; an escape takes one step like any other. -/
theorem stringBody_escapedChar (c : Char) :
    stringBody (f + 1) acc (escapedChar c ++ rest) = stringBody f (c :: acc) rest := by
  rw [escapedChar.eq_def]
  split
  case h_8 _ hquote hslash _ _ _ _ _ =>
    split
    · rename_i hcontrol
      have hread := unicodeEscape?_control hcontrol rest
      rw [Char.ofNat_toNat] at hread
      simp only [List.cons_append, List.nil_append]
      rw [stringBody, if_neg (by decide), if_pos rfl, escape?, hread]
    · rename_i hplain
      rw [List.singleton_append, stringBody, if_neg hquote, if_neg hslash, if_neg hplain]
  all_goals rfl

theorem stringBody_escaped (cs : List Char) (hf : (cs.flatMap escapedChar).length < f) :
    stringBody f acc (cs.flatMap escapedChar ++ '"' :: rest) =
      some (String.ofList (acc.reverse ++ cs), rest) := by
  induction cs generalizing f acc with
  | nil =>
    obtain ⟨f, rfl⟩ := Nat.exists_eq_add_one_of_ne_zero (Nat.ne_of_gt (Nat.zero_lt_of_lt hf))
    rw [List.flatMap_nil, List.nil_append, stringBody, if_pos rfl, List.append_nil]
  | cons c cs ih =>
    obtain ⟨f, rfl⟩ := Nat.exists_eq_add_one_of_ne_zero (Nat.ne_of_gt (Nat.zero_lt_of_lt hf))
    have hlen := escapedChar_length_pos c
    rw [List.flatMap_cons, List.length_append] at hf
    rw [List.flatMap_cons, List.append_assoc, stringBody_escapedChar, ih (by omega)]
    simp

/-- A quoted string is read up to its closing quote. -/
theorem stringBody_quote (s : String) (rest : List Char) : ∃ body,
    quote s ++ rest = '"' :: body ∧ stringBody (body.length + 1) [] body = some (s, rest) := by
  refine ⟨s.toList.flatMap escapedChar ++ '"' :: rest, by simp [quote], ?_⟩
  have hlt : (s.toList.flatMap escapedChar).length <
      (s.toList.flatMap escapedChar ++ '"' :: rest).length + 1 := by
    rw [List.length_append]
    omega
  rw [stringBody_escaped _ hlt, List.reverse_nil, List.nil_append, String.ofList_toList]

end Strings

section Documents

mutual

/-- A document without numbers. -/
def Numberless : Json → Prop
  | null | bool _ | string _ => True
  | number _ => False
  | array items => NumberlessItems items
  | object members => NumberlessMembers members

def NumberlessItems : List Json → Prop
  | [] => True
  | j :: rest => Numberless j ∧ NumberlessItems rest

def NumberlessMembers : List (String × Json) → Prop
  | [] => True
  | (_, j) :: rest => Numberless j ∧ NumberlessMembers rest

end

theorem skipBlank_cons {c : Char} (h : isJsonBlank c = false) (cs : List Char) :
    skipBlank (c :: cs) = c :: cs := by
  rw [skipBlank, List.dropWhile_cons_of_neg (by simp [h])]

/-- A value begins with a character that is neither blank nor the end of an array. -/
theorem text_head {j : Json} (h : j.Numberless) :
    ∃ c cs, text j = c :: cs ∧ isJsonBlank c = false ∧ c ≠ ']' := by
  cases j with
  | null => exact ⟨_, _, rfl, by decide, by decide⟩
  | bool b => cases b <;> exact ⟨_, _, rfl, by decide, by decide⟩
  | number t => cases h
  | string s => exact ⟨_, _, rfl, by decide, by decide⟩
  | array items => exact ⟨_, _, rfl, by decide, by decide⟩
  | object members => exact ⟨_, _, rfl, by decide, by decide⟩

theorem itemsText_head {j : Json} (h : j.Numberless) (items : List Json) :
    ∃ c cs, itemsText (j :: items) = c :: cs ∧ isJsonBlank c = false ∧ c ≠ ']' := by
  obtain ⟨c, cs, hc, hblank, hend⟩ := text_head h
  cases items with
  | nil => exact ⟨c, cs, by rw [itemsText, hc], hblank, hend⟩
  | cons k items =>
    exact ⟨c, cs ++ ',' :: itemsText (k :: items), by rw [itemsText, hc]; rfl, hblank, hend⟩

theorem membersText_head (n : String) (j : Json) (members : List (String × Json)) :
    ∃ cs, membersText ((n, j) :: members) = '"' :: cs := by
  cases members <;> exact ⟨_, rfl⟩

theorem quote_visible : isJsonBlank '"' = false := by decide

section Members
variable {f : Nat} {n : String} {j : Json} {cs rest : List Char}

/-- The last member of an object is read with the brace behind its value. -/
theorem readMembers_last (hvalue : readValue f cs = some (j, '\x7d' :: rest)) :
    readMembers (f + 1) (quote n ++ ':' :: cs) = some ([(n, j)], rest) := by
  obtain ⟨body, hquote, hbody⟩ := stringBody_quote n (':' :: cs)
  have hcolon : isJsonBlank ':' = false := by decide
  have hclose : isJsonBlank '\x7d' = false := by decide
  rw [hquote, readMembers, skipBlank_cons quote_visible]
  simp only [hbody, skipBlank_cons hcolon, hvalue, skipBlank_cons hclose]

/-- A member with a comma behind its value is read before the others. -/
theorem readMembers_next (hvalue : readValue f cs = some (j, ',' :: rest)) :
    readMembers (f + 1) (quote n ++ ':' :: cs) =
      (readMembers f rest).map fun p => ((n, j) :: p.1, p.2) := by
  obtain ⟨body, hquote, hbody⟩ := stringBody_quote n (':' :: cs)
  have hcolon : isJsonBlank ':' = false := by decide
  have hcomma : isJsonBlank ',' = false := by decide
  rw [hquote, readMembers, skipBlank_cons quote_visible]
  simp only [hbody, skipBlank_cons hcolon, hvalue, skipBlank_cons hcomma]

end Members

mutual

theorem readValue_text : ∀ {f : Nat} {j : Json} (rest : List Char), j.Numberless →
    (text j).length < f → readValue f (text j ++ rest) = some (j, rest)
  | f + 1, null, rest, _, _ => rfl
  | f + 1, bool true, rest, _, _ => rfl
  | f + 1, bool false, rest, _, _ => rfl
  | f + 1, string s, rest, _, _ => by
    obtain ⟨body, hquote, hbody⟩ := stringBody_quote s rest
    rw [text, hquote, readValue, skipBlank_cons (by decide)]
    simp only [hbody, Option.map_some]
  | f + 1, array [], rest, _, _ => rfl
  | f + 1, array (j :: items), rest, h, hf => by
    rw [Numberless] at h
    rw [text, List.length_append, List.length_cons] at hf
    have hitems := readItems_text (f := f) rest h (by simp at hf ⊢; omega)
    obtain ⟨c, cs, hc, hblank, hend⟩ := itemsText_head h.1 items
    rw [hc] at hitems
    have hopen : isJsonBlank '[' = false := by decide
    rw [text, hc, List.append_assoc, readValue]
    simp only [List.cons_append, List.nil_append, skipBlank_cons hopen, skipBlank_cons hblank]
      at hitems ⊢
    split
    · rename_i hclose
      exact absurd (List.cons.inj hclose).1 hend
    · rw [hitems, Option.map_some]
  | f + 1, object [], rest, _, _ => rfl
  | f + 1, object ((n, j) :: members), rest, h, hf => by
    rw [Numberless] at h
    rw [text, List.length_append, List.length_cons] at hf
    have hmembers := readMembers_text (f := f) rest h (by simp at hf ⊢; omega)
    obtain ⟨cs, hc⟩ := membersText_head n j members
    rw [hc] at hmembers
    have hopen : isJsonBlank '\x7b' = false := by decide
    rw [text, hc, List.append_assoc, readValue]
    simp only [List.cons_append, List.nil_append, skipBlank_cons hopen,
      skipBlank_cons quote_visible] at hmembers ⊢
    split
    · rename_i hclose
      exact absurd (List.cons.inj hclose).1 (by decide)
    · rw [hmembers, Option.map_some]

theorem readItems_text : ∀ {f : Nat} {j : Json} {items : List Json} (rest : List Char),
    NumberlessItems (j :: items) → (itemsText (j :: items)).length + 1 < f →
    readItems f (itemsText (j :: items) ++ ']' :: rest) = some (j :: items, rest)
  | f + 1, j, [], rest, h, hf => by
    rw [itemsText] at hf ⊢
    rw [readItems, readValue_text _ h.1 (by omega)]
    rfl
  | f + 1, j, k :: items, rest, h, hf => by
    rw [itemsText, List.length_append, List.length_cons] at hf
    rw [itemsText, List.append_assoc, readItems, readValue_text _ h.1 (by omega)]
    simp only [List.cons_append, skipBlank_cons (show isJsonBlank ',' = false by decide)]
    rw [readItems_text rest h.2 (by omega)]
    rfl

theorem readMembers_text : ∀ {f : Nat} {n : String} {j : Json} {members : List (String × Json)}
    (rest : List Char), NumberlessMembers ((n, j) :: members) →
    (membersText ((n, j) :: members)).length + 1 < f →
    readMembers f (membersText ((n, j) :: members) ++ '\x7d' :: rest) =
      some ((n, j) :: members, rest)
  | f + 1, n, j, [], rest, h, hf => by
    rw [membersText, List.length_append, List.length_cons] at hf
    rw [membersText, List.append_assoc, List.cons_append,
      readMembers_last (readValue_text _ h.1 (by omega))]
  | f + 1, n, j, (m, k) :: members, rest, h, hf => by
    rw [membersText, List.length_append, List.length_cons, List.length_append,
      List.length_cons] at hf
    rw [membersText, List.append_assoc, List.append_assoc, List.cons_append, List.cons_append,
      readMembers_next (readValue_text _ h.1 (by omega)), readMembers_text rest h.2 (by omega)]
    rfl

end

/-- A document without numbers is read back from its text. -/
theorem parse?_text {j : Json} (h : j.Numberless) : parse? (text j) = some j := by
  have hread := readValue_text [] h (Nat.lt_succ_self _)
  rw [List.append_nil] at hread
  rw [parse?, hread]
  rfl

end Documents

end BrokerGate.Json
