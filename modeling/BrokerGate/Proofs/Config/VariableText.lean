import BrokerGate.Proofs.Config.VariableSound

/-! Which texts of variables stand for themselves: those of none of the other forms. Reading is
bounded by a number of steps, of which the length of the text is always enough. -/
namespace BrokerGate.Config
open Text Decimal

section Complete
variable {fuel : Nat} {cs lead rest : List Char}

/-- What follows a value of a list or a table, or the end of the text. -/
def EndsValue (rest : List Char) : Prop := ∀ c ∈ rest.head?, c = ',' ∨ c = ']' ∨ c = '\x7d'

theorem EndsValue.isSeparator {rest : List Char} (h : EndsValue rest) :
    ∀ c ∈ rest.head?, isSeparator c = true := by
  intro c hc
  rcases h c hc with rfl | rfl | rfl <;> decide

/-- Enough steps read a part, whatever follows it, and what its first characters mark is not read as
the part's own text. -/
def Accepted : Part → List Char → Prop
  | .marked, cs => ∀ fuel rest, 2 * cs.length < fuel → ∃ v,
    valueAt fuel (cs ++ rest) = some (v, skipGap rest) ∧ v ≠ scalarOf (.text (String.ofList cs))
  | .value, cs => ∀ fuel rest, 2 * cs.length < fuel → EndsValue rest → ∃ v,
    valueAt fuel (cs ++ rest) = some (v, rest)
  | .items, cs => ∀ fuel rest, 2 * cs.length ≤ fuel → ∃ vs,
    itemsAt fuel (cs ++ rest) = some (vs, rest)
  | .entries, cs => ∀ fuel rest, 2 * cs.length ≤ fuel → ∃ es,
    entriesAt fuel (cs ++ rest) = some (es, rest)

theorem skipGap_append (hlead : Gaps lead) (hhead : ∀ c ∈ cs.head?, isGap c = false) :
    skipGap (lead ++ cs) = cs := (span_append hlead hhead).2

theorem skipGap_gaps_append (hlead : Gaps lead) (cs : List Char) :
    skipGap (lead ++ cs) = skipGap cs := List.dropWhile_append_of_pos hlead

theorem skipGap_of_endsValue (h : EndsValue rest) : skipGap rest = rest :=
  skipGap_append gaps_nil fun c hc => not_isGap_of_isSeparator (h.isSeparator c hc)

/-- Gaps in front of a value are passed over. -/
theorem valueAt_gaps_append (hlead : Gaps lead) (cs : List Char) :
    valueAt fuel (lead ++ cs) = valueAt fuel cs := by
  cases fuel with
  | zero => rw [valueAt, valueAt]
  | succ fuel => rw [valueAt, valueAt, skipGap_gaps_append hlead]

theorem valueAt_bare (h : Bare cs) (hrest : EndsValue rest) :
    valueAt (fuel + 1) (cs ++ rest) = some (scalarOf (bareScalar (trimBlank cs)), rest) := by
  have hplain : ∀ c ∈ cs, (!isSeparator c) = true := fun c hc => by simp [h.plain c hc]
  have hstop : ∀ c ∈ rest.head?, (!isSeparator c) = false := fun c hc => by
    simp [hrest.isSeparator c hc]
  have htake := (span_append hplain hstop).1
  have hskip : skipGap (cs ++ rest) = cs ++ rest := by
    cases cs with
    | nil => exact skipGap_of_endsValue hrest
    | cons c cs => exact skipGap_append gaps_nil fun d hd => (h.start d hd).1
  have hfirst : ∀ {c : Char} {t : List Char}, cs ++ rest = c :: t →
      c ∈ cs.head? ∨ c = ',' ∨ c = ']' ∨ c = '\x7d' := by
    intro c t heq
    cases cs with
    | nil => exact .inr (hrest c (by rw [List.nil_append] at heq; rw [heq]; rfl))
    | cons d cs =>
      cases heq
      exact .inl rfl
  have hmark : ∀ {c : Char} {t : List Char}, cs ++ rest = c :: t → isSeparator c = true →
      c = ',' ∨ c = ']' ∨ c = '\x7d' := by
    intro c t heq hc
    refine (hfirst heq).resolve_left fun hhead => ?_
    rw [h.plain c (List.mem_of_mem_head? hhead)] at hc
    cases hc
  rw [valueAt, hskip]
  dsimp only
  split
  · next heq =>
    rw [heq] at htake
    exact absurd ⟨_, htake⟩ h.notYes
  · next heq =>
    rw [heq] at htake
    exact absurd ⟨_, htake⟩ h.notNo
  · next heq => exact absurd (hmark heq (by decide)) (by decide)
  · next heq => exact absurd (hmark heq (by decide)) (by decide)
  · next heq =>
    rcases hfirst heq with hhead | hend
    · exact absurd rfl (h.start _ hhead).2.1
    · exact absurd hend (by decide)
  · next heq =>
    rcases hfirst heq with hhead | hend
    · exact absurd rfl (h.start _ hhead).2.2
    · exact absurd hend (by decide)
  · next heq =>
    rcases hfirst heq with hhead | hend
    · exact absurd rfl (h.start _ hhead).2.2
    · exact absurd hend (by decide)
  · rw [htake, List.drop_left, skipGap_of_endsValue hrest]

theorem valueAt_yes (rest : List Char) : valueAt (fuel + 1) ("true".toList ++ rest) =
    some (scalarOf (.flag true), skipGap rest) := by
  rw [valueAt]
  rfl

theorem valueAt_no (rest : List Char) : valueAt (fuel + 1) ("false".toList ++ rest) =
    some (scalarOf (.flag false), skipGap rest) := by
  rw [valueAt]
  rfl

theorem valueAt_char (c : Char) (rest : List Char) :
    valueAt (fuel + 1) ('\'' :: c :: '\'' :: rest) = some (scalarOf (.char c), skipGap rest) := by
  rw [valueAt]
  rfl

theorem valueAt_list (cs : List Char) : valueAt (fuel + 1) ('[' :: cs) =
    (itemsAt fuel cs).map fun p => (.list .environment p.1, skipGap p.2) := by
  rw [valueAt]
  rfl

theorem valueAt_table (cs : List Char) : valueAt (fuel + 1) ('\x7b' :: cs) =
    (entriesAt fuel cs).map fun p =>
      (.table .environment (Entries.ofList p.1), skipGap p.2) := by
  rw [valueAt]
  rfl

theorem valueAt_quoted {u : List Char} (h : QuotedText cs u) (rest : List Char) :
    valueAt (fuel + 1) ('"' :: (cs ++ '"' :: rest)) =
      some (scalarOf (.text (String.ofList u)), skipGap rest) := by
  have hskip : skipGap ('"' :: (cs ++ '"' :: rest)) = '"' :: (cs ++ '"' :: rest) := rfl
  rw [valueAt, hskip]
  simp only [quotedBody_rest h]

theorem accepted_marked (v : Value) (hne : v ≠ scalarOf (.text (String.ofList cs)))
    (h : ∀ fuel rest, 2 * cs.length ≤ fuel → valueAt (fuel + 1) (cs ++ rest) =
      some (v, skipGap rest)) : Accepted .marked cs := by
  intro fuel rest hfuel
  obtain ⟨fuel, rfl⟩ := Nat.exists_eq_succ_of_ne_zero (Nat.ne_zero_of_lt hfuel)
  exact ⟨v, h fuel rest (Nat.le_of_lt_succ hfuel), hne⟩

theorem accepted_quoted {u : List Char} (h : QuotedText cs u) :
    Accepted .marked ('"' :: (cs ++ ['"'])) := by
  -- what the quotes stand for is shorter than what is written
  have hne : u ≠ '"' :: (cs ++ ['"']) := by
    intro heq
    have hlength := length_le_of_quotedText h
    rw [heq, List.length_cons, List.length_append] at hlength
    omega
  have htext : scalarOf (.text (String.ofList u)) ≠
      scalarOf (.text (String.ofList ('"' :: (cs ++ ['"'])))) := fun heq =>
    hne (String.ofList_inj.mp (Scalar.text.inj (Value.scalar.inj heq).2))
  refine accepted_marked _ htext fun fuel rest _ => ?_
  rw [List.cons_append, List.append_assoc]
  exact valueAt_quoted h rest

theorem accepted_list (h : Accepted .items cs) : Accepted .marked ('[' :: cs) := by
  intro fuel rest hfuel
  obtain ⟨fuel, rfl⟩ := Nat.exists_eq_succ_of_ne_zero (Nat.ne_zero_of_lt hfuel)
  obtain ⟨vs, hvs⟩ := h fuel rest (by simp only [List.length_cons] at hfuel; omega)
  refine ⟨.list .environment vs, ?_, nofun⟩
  rw [List.cons_append, Nat.succ_eq_add_one, valueAt_list, hvs, Option.map_some]

theorem accepted_table (h : Accepted .entries cs) : Accepted .marked ('\x7b' :: cs) := by
  intro fuel rest hfuel
  obtain ⟨fuel, rfl⟩ := Nat.exists_eq_succ_of_ne_zero (Nat.ne_zero_of_lt hfuel)
  obtain ⟨es, hes⟩ := h fuel rest (by simp only [List.length_cons] at hfuel; omega)
  refine ⟨.table .environment (Entries.ofList es), ?_, nofun⟩
  rw [List.cons_append, Nat.succ_eq_add_one, valueAt_table, hes, Option.map_some]

theorem head_of_marked (h : Fits .marked cs) : ∃ c t, cs = c :: t ∧ c ≠ ']' ∧ c ≠ '\x7d' := by
  cases h with
  | yes => exact ⟨'t', _, rfl, by decide, by decide⟩
  | no => exact ⟨'f', _, rfl, by decide, by decide⟩
  | char c => exact ⟨'\'', _, rfl, by decide, by decide⟩
  | quoted h => exact ⟨'"', _, rfl, by decide, by decide⟩
  | list h => exact ⟨'[', _, rfl, by decide, by decide⟩
  | table h => exact ⟨'\x7b', _, rfl, by decide, by decide⟩

theorem head_of_gaps (hlead : Gaps lead) (hcs : ∀ c ∈ cs.head?, c ≠ ']' ∧ c ≠ '\x7d') :
    ∀ c ∈ (lead ++ cs).head?, c ≠ ']' ∧ c ≠ '\x7d' := by
  cases lead with
  | nil => exact hcs
  | cons d lead =>
    rintro c ⟨⟩
    have hgap := hlead d List.mem_cons_self
    constructor <;> (rintro rfl; cases hgap)

/-- A value does not begin as a list or a table ends. -/
theorem head_of_value (h : Fits .value cs) : ∀ c ∈ cs.head?, c ≠ ']' ∧ c ≠ '\x7d' := by
  cases h with
  | framed hlead htrail h =>
    refine head_of_gaps hlead ?_
    obtain ⟨c, t, rfl, hc⟩ := head_of_marked h
    rintro d ⟨⟩
    exact hc
  | bare hlead h =>
    refine head_of_gaps hlead fun c hc => ?_
    have hplain := h.plain c (List.mem_of_mem_head? hc)
    constructor <;> (rintro rfl; cases hplain)

theorem endsValue_cons {c : Char} (h : c = ',' ∨ c = ']' ∨ c = '\x7d') (rest : List Char) :
    EndsValue (c :: rest) := by
  rintro d ⟨⟩
  exact h

section Items
variable {c : Char} {v : Value} {tail : List Char}

theorem itemsAt_more (hopen : cs.head? ≠ some ']') (h : valueAt fuel cs = some (v, ',' :: rest)) :
    itemsAt (fuel + 1) cs = (itemsAt fuel rest).map fun p => (v :: p.1, p.2) := by
  rw [itemsAt]
  · simp only [h]
  · rintro tail rfl
    exact hopen rfl

theorem itemsAt_last (hopen : cs.head? ≠ some ']') (h : valueAt fuel cs = some (v, ']' :: rest)) :
    itemsAt (fuel + 1) cs = some ([v], rest) := by
  rw [itemsAt]
  · simp only [h]
  · rintro tail rfl
    exact hopen rfl

/-- A key and the sign behind it can be read. -/
structure Keyed (cs : List Char) (k : String) (rest : List Char) : Prop where
  notEnd : cs.head? ≠ some '\x7d'
  read : ∃ tail, key? (skipGap cs) = some (k, tail) ∧ skipGap tail = '=' :: rest

theorem entriesAt_more {k : String} (hkey : Keyed cs k tail)
    (h : valueAt fuel tail = some (v, ',' :: rest)) :
    entriesAt (fuel + 1) cs = (entriesAt fuel rest).map fun p => ((k, v) :: p.1, p.2) := by
  obtain ⟨hopen, t, hread, hsign⟩ := hkey
  rw [entriesAt]
  · simp only [hread, hsign, h]
  · rintro tail rfl
    exact hopen rfl

theorem entriesAt_last {k : String} (hkey : Keyed cs k tail)
    (h : valueAt fuel tail = some (v, '\x7d' :: rest)) :
    entriesAt (fuel + 1) cs = some ([(k, v)], rest) := by
  obtain ⟨hopen, t, hread, hsign⟩ := hkey
  rw [entriesAt]
  · simp only [hread, hsign, h]
  · rintro tail rfl
    exact hopen rfl

theorem head?_append_ne (hcs : ∀ d ∈ cs.head?, d ≠ c) (hrest : cs = [] → rest.head? ≠ some c) :
    (cs ++ rest).head? ≠ some c := by
  cases cs with
  | nil => exact hrest rfl
  | cons d cs => simpa using hcs d rfl

end Items

theorem accepted_lastItem (hfits : Fits .value cs) (h : Accepted .value cs) :
    Accepted .items (cs ++ [']']) := by
  intro fuel rest hfuel
  rw [List.length_append, List.length_singleton] at hfuel
  obtain ⟨fuel, rfl⟩ := Nat.exists_eq_succ_of_ne_zero (by omega : fuel ≠ 0)
  rw [List.append_assoc, List.singleton_append, Nat.succ_eq_add_one]
  by_cases hne : cs = []
  · -- an empty value is no item
    subst hne
    exact ⟨[], by rw [List.nil_append, itemsAt]; intro h; cases h⟩
  · obtain ⟨v, hv⟩ := h fuel (']' :: rest) (by omega) (endsValue_cons (by simp) rest)
    have hopen : (cs ++ ']' :: rest).head? ≠ some ']' :=
      head?_append_ne (fun c hc => (head_of_value hfits c hc).1) fun hnil => absurd hnil hne
    exact ⟨[v], itemsAt_last hopen hv⟩

theorem accepted_item {more : List Char} (hfits : Fits .value cs) (h : Accepted .value cs)
    (hmore : Accepted .items more) : Accepted .items (cs ++ ',' :: more) := by
  intro fuel rest hfuel
  rw [List.length_append, List.length_cons] at hfuel
  obtain ⟨fuel, rfl⟩ := Nat.exists_eq_succ_of_ne_zero (by omega : fuel ≠ 0)
  rw [List.append_assoc, List.cons_append, Nat.succ_eq_add_one]
  obtain ⟨v, hv⟩ := h fuel (',' :: (more ++ rest)) (by omega) (endsValue_cons (by simp) _)
  obtain ⟨vs, hvs⟩ := hmore fuel rest (by omega)
  have hopen : (cs ++ ',' :: (more ++ rest)).head? ≠ some ']' :=
    head?_append_ne (fun c hc => (head_of_value hfits c hc).1) fun _ => by simp
  exact ⟨v :: vs, by rw [itemsAt_more hopen hv, hvs, Option.map_some]⟩

theorem ne_end_of_isGap {c : Char} (h : isGap c = true) : c ≠ '\x7d' := by
  rintro rfl
  cases h

theorem isKeyChar_of_isGap {c : Char} (h : isGap c = true) : isKeyChar c = false := by
  simp only [isGap, Bool.or_eq_true, decide_eq_true_eq] at h
  rcases h with rfl | rfl <;> decide

/-- A name is read up to what is no part of names. -/
theorem key?_name {c : Char} {name : List Char} (hname : ∀ d ∈ c :: name, isKeyChar d = true)
    (hrest : ∀ d ∈ rest.head?, isKeyChar d = false) :
    key? (c :: name ++ rest) = some (String.ofList (c :: name), rest) := by
  have htake := (span_append hname hrest).1
  rw [key?.eq_def]
  split
  · next heq =>
    cases heq
    exact absurd (hname '"' List.mem_cons_self) (by decide)
  · dsimp only
    rw [htake, List.drop_left]
    rfl

theorem key?_quoted {u : List Char} (h : QuotedText cs u) (rest : List Char) :
    key? ('"' :: (cs ++ '"' :: rest)) = some (String.ofList u, rest) := by
  rw [key?, quotedBody_rest h]
  rfl

theorem keyed_of_keyText {key : List Char} (h : KeyText key) (rest : List Char) :
    ∃ k, Keyed (key ++ '=' :: rest) k rest := by
  have hsign : ∀ {trail : List Char}, Gaps trail → skipGap (trail ++ '=' :: rest) = '=' :: rest :=
    fun htrail => skipGap_append htrail (by rintro c ⟨⟩; decide)
  have hlead : ∀ {lead : List Char}, Gaps lead → ∀ c ∈ lead.head?, c ≠ '\x7d' :=
    fun hlead c hc => ne_end_of_isGap (hlead c (List.mem_of_mem_head? hc))
  cases h with
  | @plain lead name trail hgaps htrail hne hname =>
    obtain ⟨c, name, rfl⟩ := List.exists_cons_of_ne_nil hne
    have hc := hname c List.mem_cons_self
    have hstop : ∀ d ∈ (trail ++ '=' :: rest).head?, isKeyChar d = false := by
      cases trail with
      | nil =>
        rintro d ⟨⟩
        decide
      | cons e trail =>
        rintro d ⟨⟩
        exact isKeyChar_of_isGap (htrail e List.mem_cons_self)
    have hskip : skipGap (lead ++ (c :: name ++ (trail ++ '=' :: rest))) =
        c :: name ++ (trail ++ '=' :: rest) := by
      refine skipGap_append hgaps ?_
      rintro d ⟨⟩
      rw [Bool.eq_false_iff]
      intro hd
      rw [isKeyChar_of_isGap hd] at hc
      cases hc
    rw [List.append_assoc, List.append_assoc]
    refine ⟨String.ofList (c :: name), ?_, trail ++ '=' :: rest, ?_, hsign htrail⟩
    · refine head?_append_ne (hlead hgaps) fun _ hhead => ?_
      cases hhead
      cases hc
    · rw [hskip, key?_name hname hstop]
  | @quoted lead cs u trail hgaps htrail h =>
    simp only [List.append_assoc, List.cons_append]
    refine ⟨String.ofList u, ?_, trail ++ '=' :: rest, ?_, hsign htrail⟩
    · refine head?_append_ne (hlead hgaps) fun _ hhead => ?_
      cases hhead
    · rw [skipGap_append hgaps (by rintro d ⟨⟩; decide), key?_quoted h]

theorem accepted_lastEntry {key : List Char} (hkey : KeyText key) (h : Accepted .value cs) :
    Accepted .entries (key ++ '=' :: (cs ++ ['\x7d'])) := by
  intro fuel rest hfuel
  simp only [List.length_append, List.length_cons, List.length_nil] at hfuel
  obtain ⟨fuel, rfl⟩ := Nat.exists_eq_succ_of_ne_zero (by omega : fuel ≠ 0)
  rw [List.append_assoc, List.cons_append, List.append_assoc, List.singleton_append,
    Nat.succ_eq_add_one]
  obtain ⟨k, hk⟩ := keyed_of_keyText hkey (cs ++ '\x7d' :: rest)
  obtain ⟨v, hv⟩ := h fuel ('\x7d' :: rest) (by omega) (endsValue_cons (by simp) rest)
  exact ⟨[(k, v)], entriesAt_last hk hv⟩

theorem accepted_entry {key more : List Char} (hkey : KeyText key) (h : Accepted .value cs)
    (hmore : Accepted .entries more) : Accepted .entries (key ++ '=' :: (cs ++ ',' :: more)) := by
  intro fuel rest hfuel
  simp only [List.length_append, List.length_cons] at hfuel
  obtain ⟨fuel, rfl⟩ := Nat.exists_eq_succ_of_ne_zero (by omega : fuel ≠ 0)
  rw [List.append_assoc, List.cons_append, List.append_assoc, List.cons_append,
    Nat.succ_eq_add_one]
  obtain ⟨k, hk⟩ := keyed_of_keyText hkey (cs ++ ',' :: (more ++ rest))
  obtain ⟨v, hv⟩ := h fuel (',' :: (more ++ rest)) (by omega) (endsValue_cons (by simp) _)
  obtain ⟨es, hes⟩ := hmore fuel rest (by omega)
  exact ⟨(k, v) :: es, by rw [entriesAt_more hk hv, hes, Option.map_some]⟩

/-- Every part is read as far as its form goes. -/
theorem accepted_of_fits {part : Part} (h : Fits part cs) : Accepted part cs := by
  induction h with
  | yes => exact accepted_marked (scalarOf (.flag true)) nofun fun _ rest _ => valueAt_yes rest
  | no => exact accepted_marked (scalarOf (.flag false)) nofun fun _ rest _ => valueAt_no rest
  | char c => exact accepted_marked (scalarOf (.char c)) nofun fun _ rest _ => valueAt_char c rest
  | quoted h => exact accepted_quoted h
  | list _ ih => exact accepted_list ih
  | table _ ih => exact accepted_table ih
  | framed hlead htrail _ ih =>
    intro fuel rest hfuel hrest
    simp only [List.length_append] at hfuel
    rw [List.append_assoc, List.append_assoc, valueAt_gaps_append hlead]
    obtain ⟨v, hv, -⟩ := ih fuel (_ ++ rest) (by omega)
    exact ⟨v, by rw [hv, skipGap_gaps_append htrail, skipGap_of_endsValue hrest]⟩
  | bare hlead h =>
    intro fuel rest hfuel hrest
    obtain ⟨fuel, rfl⟩ := Nat.exists_eq_succ_of_ne_zero (Nat.ne_zero_of_lt hfuel)
    rw [List.append_assoc, valueAt_gaps_append hlead]
    exact ⟨_, valueAt_bare h hrest⟩
  | noItem =>
    intro fuel rest hfuel
    obtain ⟨fuel, rfl⟩ := Nat.exists_eq_succ_of_ne_zero (Nat.ne_zero_of_lt hfuel)
    exact ⟨[], by rw [List.singleton_append, itemsAt]; intro h; cases h⟩
  | lastItem h ih => exact accepted_lastItem h ih
  | item h _ ih ihmore => exact accepted_item h ih ihmore
  | noEntry =>
    intro fuel rest hfuel
    obtain ⟨fuel, rfl⟩ := Nat.exists_eq_succ_of_ne_zero (Nat.ne_zero_of_lt hfuel)
    exact ⟨[], by rw [List.singleton_append, entriesAt]; intro h; cases h⟩
  | lastEntry hkey _ ih => exact accepted_lastEntry hkey ih
  | entry hkey _ _ ih ihmore => exact accepted_entry hkey ih ihmore

end Complete

section Variable
variable {cs : List Char} {s : String}

theorem isBlank_of_isGap {c : Char} (h : isGap c = true) : isBlank c = true := by
  simp only [isGap, Bool.or_eq_true, decide_eq_true_eq] at h
  rcases h with rfl | rfl <;> decide

/-- There are no gaps around a text without blanks around it. -/
theorem eq_of_gaps {lead body trail : List Char} (hs : trimBlank cs = cs) (hlead : Gaps lead)
    (htrail : Gaps trail) (hcs : cs = lead ++ (body ++ trail)) : lead = [] ∧ trail = [] := by
  have hhead : ∀ c ∈ cs.head?, isBlank c = false := hs ▸ head?_trimBy cs
  have hlast : ∀ c ∈ cs.getLast?, isBlank c = false := hs ▸ getLast?_trimEndBy _
  constructor
  · cases lead with
    | nil => rfl
    | cons c lead =>
      have hvisible := hhead c (by rw [hcs]; rfl)
      rw [isBlank_of_isGap (hlead c List.mem_cons_self)] at hvisible
      cases hvisible
  · rcases List.eq_nil_or_concat trail with rfl | ⟨trail, c, rfl⟩
    · rfl
    · have hvisible := hlast c (by rw [hcs]; simp)
      rw [isBlank_of_isGap (htrail c (by simp))] at hvisible
      cases hvisible

theorem variableValue_eq {v : Value} (hs : trimBlank s.toList = s.toList)
    (h : valueAt (2 * s.toList.length + 2) s.toList = some (v, [])) : variableValue s = v := by
  simp only [variableValue, hs, h]

theorem variableValue_marked (hs : trimBlank s.toList = s.toList) (h : Fits .marked s.toList) :
    variableValue s ≠ scalarOf (.text s) := by
  obtain ⟨v, hv, hne⟩ := accepted_of_fits h (2 * s.toList.length + 2) [] (by omega)
  rw [List.append_nil] at hv
  rw [String.ofList_toList] at hne
  rwa [variableValue_eq hs hv]

theorem variableValue_bare (hs : trimBlank s.toList = s.toList) (h : Bare s.toList) :
    variableValue s = scalarOf (bareScalar s.toList) := by
  have hv : valueAt (2 * s.toList.length + 1 + 1) (s.toList ++ []) = _ :=
    valueAt_bare h fun _ hc => nomatch hc
  rw [List.append_nil, hs] at hv
  exact variableValue_eq hs hv

/-- A text without blanks around it stands for itself exactly if it is no flag, no number, no list,
no table, and not in quotes. -/
theorem variableValue_eq_text_iff (hs : trimBlank s.toList = s.toList) :
    variableValue s = scalarOf (.text s) ↔ ¬ TypedText s.toList := by
  have hbare : Bare s.toList → ¬ NumberText s.toList →
      variableValue s = scalarOf (.text s) := by
    intro hb hn
    rw [variableValue_bare hs hb, bareScalar_eq_text_iff.mpr hn, String.ofList_toList]
  constructor
  · rintro htext (hmarked | hnumber)
    · exact variableValue_marked hs hmarked htext
    · rw [variableValue_bare hs (bare_of_numberText hnumber)] at htext
      have hscalar := (Value.scalar.inj htext).2
      rw [← String.ofList_toList (s := s)] at hscalar
      exact bareScalar_eq_text_iff.mp (by simpa using hscalar) hnumber
  · intro htyped
    rw [TypedText, not_or] at htyped
    cases hread : valueAt (2 * s.toList.length + 2) s.toList with
    | none => simp only [variableValue, hs, hread, String.ofList_toList]
    | some p =>
      obtain ⟨v, rest⟩ := p
      cases rest with
      | cons c rest => simp only [variableValue, hs, hread, String.ofList_toList]
      | nil =>
        obtain ⟨lead, body, trail, hcs, hlead, htrail, hbody⟩ := (sound _).value _ _ _ hread
        rw [List.append_nil] at hcs
        obtain ⟨rfl, rfl⟩ := eq_of_gaps hs hlead htrail hcs
        rw [List.append_nil, List.nil_append] at hcs
        rw [← hcs] at hbody
        rcases hbody with hmarked | ⟨hb, -, -⟩
        · exact absurd hmarked htyped.1
        · exact hbare hb htyped.2

theorem ne_nil_of_fits {p : Part} (h : Fits p cs) (hp : p = .items ∨ p = .entries) : cs ≠ [] := by
  rcases hp with rfl | rfl <;> cases h <;> simp

theorem two_le_length_of_marked (h : Fits .marked cs) : 2 ≤ cs.length := by
  cases h with
  | list h => exact Nat.succ_le_succ (List.length_pos_iff.mpr (ne_nil_of_fits h (.inl rfl)))
  | table h => exact Nat.succ_le_succ (List.length_pos_iff.mpr (ne_nil_of_fits h (.inr rfl)))
  | _ => simp

theorem bareScalar_ne_char (cs : List Char) (c : Char) : bareScalar cs ≠ .char c := by
  unfold bareScalar
  dsimp only
  repeat' split
  all_goals exact nofun

/-- A text that is read as a character stands in quotes, so it is not that character alone. -/
theorem not_typedText_of_char {c : Char}
    (hs : trimBlank (String.singleton c).toList = (String.singleton c).toList)
    (h : variableValue (String.singleton c) = scalarOf (.char c)) :
    ¬ TypedText (String.singleton c).toList := by
  rintro (hmarked | hnumber)
  · have hlength := two_le_length_of_marked hmarked
    rw [String.toList_singleton] at hlength
    exact absurd hlength (Nat.lt_irrefl 1)
  · rw [variableValue_bare hs (bare_of_numberText hnumber)] at h
    exact bareScalar_ne_char _ _ (Value.scalar.inj h).2

/-- In quotes every text can be written. -/
theorem variableValue_quotedVariable (s : String) :
    variableValue (quotedVariable s) = scalarOf (.text s) := by
  have hs : trimBlank (quotedVariable s).toList = (quotedVariable s).toList := by
    rw [quotedVariable, String.toList_ofList]
    refine trimBy_eq_self ?_ ?_
    · rintro c ⟨⟩
      decide
    · intro c hc
      rw [← List.cons_append, List.getLast?_concat] at hc
      cases hc
      decide
  apply variableValue_eq hs
  rw [quotedVariable, String.toList_ofList]
  refine (valueAt_quoted (quotedText_flatMap s.toList) []).trans ?_
  rw [String.ofList_toList]
  rfl

end Variable

end BrokerGate.Config
