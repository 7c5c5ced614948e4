import BrokerGate.Proofs.Json.Outline

/-! Texts that are read as a string, a number or null. -/
namespace BrokerGate.Json
open Text

/-- A part with blanks around it. -/
def Framed (p : List Char → Prop) (cs : List Char) : Prop :=
  ∃ lead part trail, cs = lead ++ (part ++ trail) ∧ Blanks lead ∧ Blanks trail ∧ p part

/-- A string in quotes. -/
def Quoted (s : String) (cs : List Char) : Prop :=
  ∃ body, cs = '"' :: (body ++ ['"']) ∧ Spells body s.toList

theorem Framed.imp {p q : List Char → Prop} {cs : List Char} (hpq : ∀ part, p part → q part) :
    Framed p cs → Framed q cs := by
  rintro ⟨lead, part, trail, rfl, hlead, htrail, hpart⟩
  exact ⟨lead, part, trail, rfl, hlead, htrail, hpq part hpart⟩

section Read
variable {cs rest : List Char} {fuel : Nat} {j : Json} {s : String} {t : List Char}

/-- What a value that is no array and no object is read from. -/
inductive Leaf : Json → List Char → Prop
  | null : Leaf null "null".toList
  | yes : Leaf (bool true) "true".toList
  | no : Leaf (bool false) "false".toList
  | number {cs : List Char} (h : NumberText cs) : Leaf (number cs) cs
  | string {s : String} {cs : List Char} (h : Quoted s cs) : Leaf (string s) cs

/-- Arrays and objects. -/
def Nested : Json → Prop
  | array _ | object _ => True
  | _ => False

theorem leaf_of_readValue (h : readValue fuel cs = some (j, rest)) (hj : ¬ j.Nested) :
    ∃ lead part, cs = lead ++ (part ++ rest) ∧ Blanks lead ∧ Leaf j part := by
  obtain ⟨lead, body, rfl, hskip, hlead, -⟩ := exists_blanks cs
  cases fuel with
  | zero => cases h
  | succ fuel =>
    suffices hleaf : ∃ part, body = part ++ rest ∧ Leaf j part by
      obtain ⟨part, rfl, hpart⟩ := hleaf
      exact ⟨lead, part, rfl, hlead, hpart⟩
    rw [readValue, hskip] at h
    split at h
    · obtain ⟨⟨s, tail⟩, hs, heq⟩ := Option.map_eq_some_iff.mp h
      cases heq
      obtain ⟨text, u, rfl, hspells, rfl⟩ := spells_of_stringBody hs
      refine ⟨'"' :: (text ++ ['"']), by simp, .string ⟨text, rfl, ?_⟩⟩
      rwa [List.reverse_nil, List.nil_append, String.toList_ofList]
    · split at h
      · cases h
        exact absurd trivial hj
      · obtain ⟨_, -, heq⟩ := Option.map_eq_some_iff.mp h
        cases heq
        exact absurd trivial hj
    · split at h
      · cases h
        exact absurd trivial hj
      · obtain ⟨_, -, heq⟩ := Option.map_eq_some_iff.mp h
        cases heq
        exact absurd trivial hj
    · cases h
      exact ⟨_, rfl, .null⟩
    · cases h
      exact ⟨_, rfl, .yes⟩
    · cases h
      exact ⟨_, rfl, .no⟩
    · obtain ⟨⟨text, tail⟩, htext, heq⟩ := Option.map_eq_some_iff.mp h
      cases heq
      obtain ⟨rfl, hnumber⟩ := numberText_of_number? htext
      exact ⟨text, rfl, .number hnumber⟩

theorem readValue_of_leaf {lead part : List Char} (hlead : Blanks lead) (h : Leaf j part)
    (hrest : EndsValue rest) (fuel : Nat) :
    readValue (fuel + 1) (lead ++ (part ++ rest)) = some (j, rest) := by
  rw [readValue, skipBlank_append hlead]
  cases h with
  | string h =>
    obtain ⟨body, rfl, hspells⟩ := h
    have hread : stringBody ((body ++ '"' :: rest).length + 1) [] (body ++ '"' :: rest) = _ :=
      stringBody_of_spells hspells [] rest (by rw [List.length_append]; omega)
    rw [List.cons_append, List.append_assoc, List.singleton_append, skipBlank_cons quote_visible]
    simp only [hread, Option.map_some, List.reverse_nil, List.nil_append, String.ofList_toList]
  | number h =>
    have hread := number?_of_numberText h hrest
    obtain ⟨c, more, rfl, hblank, -⟩ := head_value (.number h)
    obtain ⟨_, _, ⟨⟩, hne⟩ := head_number h
    rw [List.cons_append, skipBlank_cons hblank]
    split
    case h_7 =>
      rw [← List.cons_append, hread]
      rfl
    all_goals
      next heq => exact absurd (List.cons.inj heq).1 (hne _ (by decide) (by decide))
  | _ => rfl

/-- A document that is no array and no object is one of the leaves with blanks around it. -/
theorem parse?_eq_some_iff (hj : ¬ j.Nested) : parse? cs = some j ↔ Framed (Leaf j) cs := by
  constructor
  · intro h
    rw [parse?] at h
    split at h
    · next found rest hread =>
      split at h
      · next hrest =>
        cases h
        obtain ⟨lead, part, rfl, hlead, hpart⟩ := leaf_of_readValue hread hj
        exact ⟨lead, part, rest, rfl, hlead, List.all_eq_true.mp hrest, hpart⟩
      · cases h
    · cases h
  · rintro ⟨lead, part, trail, rfl, hlead, htrail, hpart⟩
    have hend : EndsValue trail := fun c hc => .inl (htrail c (List.mem_of_mem_head? hc))
    rw [parse?, readValue_of_leaf hlead hpart hend]
    exact if_pos (List.all_eq_true.mpr htrail)

theorem parse?_eq_null_iff : parse? cs = some null ↔ Framed (· = "null".toList) cs := by
  rw [parse?_eq_some_iff (j := null) not_false]
  constructor
  · refine Framed.imp fun part h => ?_
    cases h
    rfl
  · exact Framed.imp fun part h => h ▸ .null

theorem parse?_eq_number_iff :
    parse? cs = some (number t) ↔ Framed (fun part => part = t ∧ NumberText t) cs := by
  rw [parse?_eq_some_iff (j := number t) not_false]
  constructor
  · refine Framed.imp fun part h => ?_
    cases h with
    | number h => exact ⟨rfl, h⟩
  · refine Framed.imp fun part h => ?_
    rw [h.1]
    exact .number h.2

theorem parse?_eq_string_iff : parse? cs = some (string s) ↔ Framed (Quoted s) cs := by
  rw [parse?_eq_some_iff (j := string s) not_false]
  constructor
  · refine Framed.imp fun part h => ?_
    cases h with
    | string h => exact h
  · exact Framed.imp fun part h => .string h

end Read

end BrokerGate.Json
