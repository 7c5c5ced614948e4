import BrokerGate.Proofs.Config.TextKey
import BrokerGate.Proofs.Config.VariableText
import BrokerGate.Proofs.Program.Redaction

/-! Settings that are texts, set by a variable. A variable whose text is of none of the typed forms
sets the setting to that text; in quotes every text can be given. -/
namespace BrokerGate.Config
open Text Value

/-- A value as it stands over others: a table may have got more entries. -/
structure StandsOver (v w : Value) : Prop where
  table : w.isTable = v.isTable
  same : v.isTable = false → w = v

section Layer
variable {p : List String} {name text : String} {front back : List (String × String)}
  {v w : Value} {o : Source} {sc : Scalar}

theorem standsOver_overlay (old : Option Value) (v : Value) : StandsOver v (overlay old v) := by
  cases old with
  | none => exact ⟨rfl, fun _ => rfl⟩
  | some w =>
    cases v with
    | table o es => exact ⟨by cases w <;> rfl, fun h => by cases h⟩
    | _ => exact ⟨rfl, fun _ => rfl⟩

theorem StandsOver.trans {u : Value} (h : StandsOver u v) (h' : StandsOver v w) :
    StandsOver u w where
  table := h'.table.trans h.table
  same := fun hu => (h'.same (h.table.trans hu)).trans (h.same hu)

theorem StandsOver.eq_of_scalar (h : StandsOver v (.scalar o sc)) : v = .scalar o sc :=
  (h.same h.table.symm).symm

/-- What stands at the key of a variable that no later one concerns. -/
theorem at?_merged (hname : variablePath? name = some p)
    (hback : ∀ x ∈ back, ∀ q, variablePath? x.1 = some q → Apart q p) (defaults file : Value) :
    ∃ w, (merged defaults file (front ++ (name, text) :: back)).at? p = some w ∧
      StandsOver (variableValue text) w := by
  have hset : ∀ z, setVariable z (name, text) = z.merge (nested p (variableValue text)) :=
    setVariable_of_path (x := (name, text)) hname
  rw [merged, at?_merge _ (sorted_environmentLayer _), cover, environmentLayer_eq,
    List.foldl_append, List.foldl_cons, at?_foldl_of_apart hback, hset, at?_merge_nested]
  exact ⟨_, rfl, (standsOver_overlay _ _).trans (standsOver_overlay _ _)⟩

theorem source_variableValue (text : String) : (variableValue text).source = .environment := by
  have hsource : HandedUp fun v => v.source = .environment :=
    ⟨fun _ _ => rfl, fun _ _ => rfl, fun _ _ => rfl⟩
  exact hsource.variableValue text

theorem variableValue_eq_scalarOf (h : variableValue text = .scalar o sc) :
    variableValue text = scalarOf sc := by
  have hsource := source_variableValue text
  rw [h] at hsource ⊢
  cases hsource
  rfl

end Layer

section Load
variable {t : FileTree} {current : List String} {path : Option String} {k : TextKey}
  {name text written x : String} {front back : List (String × String)} {s : Settings}

theorem exists_fileOf {environment : List (String × String)}
    (h : load t current path environment = .ok s) : ∃ file, fileOf t current path = .ok file := by
  cases hfile : fileOf t current path with
  | ok file => exact ⟨file, rfl⟩
  | error e =>
    unfold fileOf at hfile
    cases path with
    | none => cases hfile
    | some p =>
      dsimp only at hfile
      unfold load at h
      simp only [hfile] at h
      cases h

/-- The text of a setting that a variable sets is the text or the character that the variable is
read as. -/
theorem variableValue_of_load (hname : variablePath? name = some k.path)
    (hback : ∀ x ∈ back, ∀ q, variablePath? x.1 = some q → Apart q k.path)
    (hload : load t current path (front ++ (name, text) :: back) = .ok s)
    (hget : k.get s = some x) : variableValue text = scalarOf (.text x) ∨
      ∃ c, variableValue text = scalarOf (.char c) ∧ x = String.singleton c := by
  obtain ⟨file, hfile⟩ := exists_fileOf hload
  rw [load_eq hfile] at hload
  obtain ⟨w, hw, hover⟩ := at?_merged hname hback Settings.default.toValue file
  have hsorted : (merged Settings.default.toValue file (front ++ (name, text) :: back)).Sorted :=
    (sorted_default.merge (sorted_fileOf hfile)).merge (sorted_environmentLayer _)
  cases hread : Settings.ofValue
      (merged Settings.default.toValue file (front ++ (name, text) :: back)) with
  | error m =>
    rw [hread] at hload
    cases hload
  | ok s' =>
    rw [hread] at hload
    cases hload
    obtain ⟨o, rfl | ⟨c, rfl, hx⟩⟩ := scalar_of_ofValue hsorted hw hread hget
    · exact .inl (variableValue_eq_scalarOf hover.eq_of_scalar)
    · exact .inr ⟨c, variableValue_eq_scalarOf hover.eq_of_scalar, hx⟩

/-- A variable that is read as another text sets the setting to it and leaves all others. -/
theorem load_replace (hname : variablePath? name = some k.path)
    (hback : ∀ x ∈ back, ∀ q, variablePath? x.1 = some q → Apart q k.path)
    (hload : load t current path (front ++ (name, text) :: back) = .ok s)
    (hget : (k.get s).isSome = true) (hwritten : variableValue written = scalarOf (.text x)) :
    load t current path (front ++ (name, written) :: back) = .ok (k.put x s) := by
  obtain ⟨y, hy⟩ := Option.isSome_iff_exists.mp hget
  have hscalar : ∃ sc, variableValue text = scalarOf sc := by
    rcases variableValue_of_load hname hback hload hy with h | ⟨c, h, -⟩
    · exact ⟨_, h⟩
    · exact ⟨_, h⟩
  obtain ⟨sc, htext⟩ := hscalar
  obtain ⟨file, hfile⟩ := exists_fileOf hload
  have hsorted (environment : List (String × String)) :
      (merged Settings.default.toValue file environment).Sorted :=
    (sorted_default.merge (sorted_fileOf hfile)).merge (sorted_environmentLayer _)
  have hdiffer := (DifferAt.same k.path file).merged Settings.default.toValue
    (sorted_fileOf hfile) (sorted_fileOf hfile)
    (differAt_environmentLayer front back hname htext hwritten)
  obtain ⟨w, hw, -⟩ := at?_merged hname hback Settings.default.toValue file
  obtain ⟨w', hw', hover⟩ := at?_merged hname hback Settings.default.toValue file
  rw [hover.same (by rw [hwritten]; rfl), hwritten] at hw'
  rw [load_eq hfile] at hload ⊢
  cases hread : Settings.ofValue
      (merged Settings.default.toValue file (front ++ (name, text) :: back)) with
  | error m =>
    rw [hread] at hload
    cases hload
  | ok s' =>
    rw [hread] at hload
    cases hload
    rw [ofValue_replace hdiffer (hsorted _) (hsorted _) hw hw' hread hget]
    rfl

/-- A variable of the key of a text sets it to what the variable says exactly if that is of none of
the typed forms. In quotes every text can be given. No other setting changes with it. -/
theorem text_variable_taken (hname : variablePath? name = some k.path)
    (hback : ∀ x ∈ back, ∀ q, variablePath? x.1 = some q → Apart q k.path)
    (hload : load t current path (front ++ (name, text) :: back) = .ok s)
    (hget : (k.get s).isSome = true) :
    (∀ u : String, trimBlank u.toList = u.toList →
      ((∃ s', load t current path (front ++ (name, u) :: back) = .ok s' ∧ k.get s' = some u) ↔
        ¬ TypedText u.toList)) ∧
    (∀ u : String, trimBlank u.toList = u.toList → ¬ TypedText u.toList →
      load t current path (front ++ (name, u) :: back) = .ok (k.put u s)) ∧
    (∀ u, load t current path (front ++ (name, quotedVariable u) :: back) = .ok (k.put u s)) ∧
    ∀ u, k.get (k.put u s) = some u := by
  have htaken : ∀ u : String, trimBlank u.toList = u.toList → ¬ TypedText u.toList →
      load t current path (front ++ (name, u) :: back) = .ok (k.put u s) := fun u hu htyped =>
    load_replace hname hback hload hget ((variableValue_eq_text_iff hu).mpr htyped)
  refine ⟨fun u hu => ⟨?_, fun htyped => ⟨_, htaken u hu htyped, k.get_put hget u⟩⟩, htaken,
    fun u => load_replace hname hback hload hget (variableValue_quotedVariable u), k.get_put hget⟩
  rintro ⟨s', hs', htext⟩
  obtain hvalue | ⟨c, hvalue, rfl⟩ := variableValue_of_load hname hback hs' htext
  · exact (variableValue_eq_text_iff hu).mp hvalue
  · exact not_typedText_of_char hu hvalue

end Load

section Fixed
open Program

/-- The variables of a fixed token, and one of another setting. -/
def fixedVariables (token : String) : List (String × String) :=
  [("BROXY_TOKEN_SOURCE__TYPE", "static"), tokenVariable token, ("BROXY_PORT", "9000")]

def withPort (s : Settings) : Settings := { s with port := 9000 }

/-- Two variables for a fixed token: a number for it can be given in quotes. -/
theorem text_variable_taken_fixed :
    load ⟨[], []⟩ [] none (fixedVariables "secret") = .ok (withPort (withToken "secret")) ∧
      (∀ u : String, trimBlank u.toList = u.toList →
        ((∃ s', load ⟨[], []⟩ [] none (fixedVariables u) = .ok s' ∧
          (TextKey.source .token).get s' = some u) ↔ ¬ TypedText u.toList)) ∧
      load ⟨[], []⟩ [] none (fixedVariables (quotedVariable "12345678")) =
        .ok (withPort (withToken "12345678")) := by
  have hload : load ⟨[], []⟩ [] none ([("BROXY_TOKEN_SOURCE__TYPE", "static")] ++
      ("BROXY_TOKEN_SOURCE__TOKEN", "secret") :: [("BROXY_PORT", "9000")]) =
        .ok (withPort (withToken "secret")) := eq_ok_of_toOption (by decide +kernel)
  have hname : variablePath? "BROXY_TOKEN_SOURCE__TOKEN" =
      some (TextKey.source .token).path := by decide +kernel
  have hback : ∀ x ∈ [("BROXY_PORT", "9000")], ∀ q, variablePath? x.1 = some q →
      Apart q (TextKey.source .token).path := by
    intro x hx q hq
    have hport : variablePath? "BROXY_PORT" = some ["port"] := by decide +kernel
    rw [List.mem_singleton.mp hx, hport] at hq
    cases hq
    exact apart_of_ne (by decide) _ _
  have htaken := text_variable_taken hname hback hload rfl
  exact ⟨hload, htaken.1, htaken.2.2.1 "12345678"⟩

/-- A token of digits is no token, where another one in its place is taken. -/
theorem number_not_taken :
    load ⟨[], []⟩ [] none (fixedVariables "secret") = .ok (withPort (withToken "secret")) ∧
      trimBlank "12345678".toList = "12345678".toList ∧
      ∀ s, load ⟨[], []⟩ [] none (fixedVariables "12345678") ≠ .ok s := by
  have hload : (load ⟨[], []⟩ [] none (fixedVariables "12345678")).toOption = none := by
    decide +kernel
  refine ⟨eq_ok_of_toOption (by decide +kernel), by decide +kernel, fun s hs => ?_⟩
  rw [hs] at hload
  cases hload

end Fixed

end BrokerGate.Config
