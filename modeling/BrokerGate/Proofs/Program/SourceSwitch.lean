import BrokerGate.Proofs.Config.Narrow
import BrokerGate.Proofs.Config.Serialized
import BrokerGate.Proofs.Program.Loaders
import BrokerGate.Proofs.Program.TextSetting

/-! The token source of a file under variables that name a kind for it. The variables' table is
merged into the file's before anything is read, so that the keys of two kinds may stand side by
side; only those of the kind that is named count. -/
namespace BrokerGate.Config
open Entries Value

/-- The keys of the token source in a layer. -/
def sourceEntries (layer : Value) : Entries := ((layer.at? ["token_source"]).map entries).getD []

/-- A variable that sets a token source or a part of one. -/
def setsSource (x : String × String) : Bool :=
  (variablePath? x.1).bind List.head? = some "token_source"

/-- The variables that leave the token source alone. -/
def sourceless (environment : List (String × String)) : List (String × String) :=
  environment.filter fun x => !setsSource x

def Settings.withSource (s : Settings) (source : TokenSettings) : Settings :=
  { s with tokenSource := some source }

/-- The fields that a token source has. -/
def TokenSettings.fields : TokenSettings → TokenFields
  | .fixed token => { token := some token }
  | .command program args => { program := some program, args := args }
  | .metadata url => { url := url }

/-- A file that has a token source, and variables that name a kind of them. Without the variables of
the token source there are settings with the file's. -/
structure SourceSet (t : FileTree) (current : List String) (path : Option String)
    (environment : List (String × String)) (file : Value) (s : Settings) (old : TokenSettings)
    (kind : TokenKind) : Prop where
  file : fileOf t current path = .ok file
  loaded : load t current path (sourceless environment) = .ok s
  source : s.tokenSource = some old
  named : ∃ v, get? (sourceEntries (environmentLayer environment)) "type" = some v ∧
    readTokenKind true v = .ok kind

/-- Of a token source settings write and show what it writes and shows of itself, and all else alike
for all token sources. -/
structure SourceApart (s : Settings) : Prop where
  written : ∀ source, (s.withSource source).toValue.at? ["token_source"] = some source.toValue
  unwritten : ∀ source k, k ≠ "token_source" →
    (s.withSource source).toValue.at? [k] = s.toValue.at? [k]
  shown : ∃ front back, ∀ source,
    (s.withSource source).debugText = front ++ source.debugText ++ back

section Settings

/-- A text around that which a function shows of something. -/
theorem exists_around {α : Type} {text : α → String} {shown : Option α → String} {a b : String}
    (h : ∀ x, shown (some x) = a ++ text x ++ b) (c d e f : String) :
    ∃ front back, ∀ x, c ++ shown (some x) ++ d ++ e ++ f = front ++ text x ++ back := by
  refine ⟨c ++ a, b ++ d ++ e ++ f, fun x => ?_⟩
  rw [h]
  simp only [String.append_assoc]

theorem sourceApart (s : Settings) : SourceApart s where
  written := by
    intro source
    rw [at?_singleton]
    exact (fieldsAt_ofList (s.withSource source)).tokenSource
  unwritten := by
    intro source k hk
    rw [at?_singleton, at?_singleton, toValue_eq, toValue_eq, entries_table, entries_table,
      get?_ofList (nodup_fields _), get?_ofList (nodup_fields _)]
    simp only [Settings.fields, get?_append, get?_optional, if_neg hk.symm]
    rfl
  shown := by
    unfold Settings.debugText Settings.withSource
    dsimp only
    exact exists_around (a := "Some(") (b := ")") (fun _ => rfl) _ _ _ _

end Settings

section Layer
variable {environment : List (String × String)} {layer v z z' : Value} {x : String × String}
  {j k : String} {ks : List String}

theorem sourceEntries_of_at? (h : layer.at? ["token_source"] = some v) :
    sourceEntries layer = v.entries := by
  rw [sourceEntries, h]
  rfl

/-- The keys of a token source are what stands below its own. -/
theorem get?_sourceEntries (layer : Value) (k : String) :
    get? (sourceEntries layer) k = layer.at? ["token_source", k] := by
  have hat : layer.at? ["token_source", k] =
      (layer.at? ["token_source"]).bind fun w => w.at? [k] := by
    rw [at?_singleton]
    rfl
  rw [hat]
  cases hv : layer.at? ["token_source"] with
  | none =>
    rw [sourceEntries, hv]
    rfl
  | some v =>
    rw [sourceEntries_of_at? hv, Option.bind_some, at?_singleton]

/-- A field has the value of its variable. -/
theorem get?_sourceEntries_of_mem (hsep : Separate environment) (hx : x ∈ environment)
    (hpath : variablePath? x.1 = some ["token_source", k]) :
    get? (sourceEntries (environmentLayer environment)) k = some (variableValue x.2) :=
  (get?_sourceEntries _ k).trans (at?_environmentLayer_of_mem hsep hx hpath)

theorem get?_sourceEntries_of_apart (h : ∀ x ∈ environment, ∀ q,
    variablePath? x.1 = some q → Apart q ["token_source", k]) :
    get? (sourceEntries (environmentLayer environment)) k = none :=
  (get?_sourceEntries _ k).trans (leaves_environmentLayer h (List.cons_ne_nil _ _)).1

/-- Variables that set one key have no part in the others. -/
theorem get?_foldl_sourceless (hj : j ≠ "token_source")
    (hz : ∀ k, k ≠ "token_source" → get? z.entries k = get? z'.entries k) :
    get? ((sourceless environment).foldl setVariable z).entries j =
      get? (environment.foldl setVariable z').entries j := by
  induction environment generalizing z z' with
  | nil => exact hz j hj
  | cons x xs ih =>
    rw [List.foldl_cons, sourceless]
    cases hpath : variablePath? x.1 with
    | none =>
      have hkept : setsSource x = false := by simp [setsSource, hpath]
      rw [List.filter_cons_of_pos (by simp [hkept]), List.foldl_cons,
        setVariable_of_no_path hpath, setVariable_of_no_path hpath]
      exact ih hz
    | some p =>
      cases p with
      | nil => exact absurd hpath (variablePath?_ne_nil x.1)
      | cons k ks =>
        by_cases hk : k = "token_source"
        · -- the variable is in one of the two lists only, and sets what is not compared
          have hleft : setsSource x = true := by simp [setsSource, hpath, hk]
          rw [List.filter_cons_of_neg (by simp [hleft])]
          refine ih fun i hi => ?_
          rw [get?_setVariable_other hpath (hk ▸ hi)]
          exact hz i hi
        · have hkept : setsSource x = false := by simp [setsSource, hpath, hk]
          rw [List.filter_cons_of_pos (by simp [hkept]), List.foldl_cons]
          refine ih fun i hi => ?_
          by_cases hik : i = k
          · subst hik
            rw [get?_setVariable_self hpath, get?_setVariable_self hpath, hz i hi]
          · rw [get?_setVariable_other hpath hik, get?_setVariable_other hpath hik, hz i hi]

theorem get?_sourceless (hj : j ≠ "token_source") :
    get? (environmentLayer (sourceless environment)).entries j =
      get? (environmentLayer environment).entries j := by
  rw [environmentLayer_eq, environmentLayer_eq]
  exact get?_foldl_sourceless hj fun _ _ => rfl

theorem get?_sourceless_self (environment : List (String × String)) :
    get? (environmentLayer (sourceless environment)).entries "token_source" = none := by
  rw [← at?_singleton]
  refine (leaves_environmentLayer (fun x hx q hq => ?_) (List.cons_ne_nil _ _)).1
  have hnot : setsSource x = false := by simpa using (List.mem_filter.mp hx).2
  cases q with
  | nil => exact absurd hq (variablePath?_ne_nil x.1)
  | cons k ks =>
    refine apart_of_ne ?_ _ _
    rintro rfl
    simp [setsSource, hq] at hnot

end Layer

/-- What entries give for the fields of a kind. -/
def FieldsGiven (es : Entries) (c : TokenFields) : TokenKind → Prop
  | .fixed => es.Gives "token" (Reads heldText) none c.token
  | .command => es.Gives "command" (Reads heldText) none c.program ∧
      es.Gives "args" (Reads heldStrings) [] c.args
  | .metadata => es.Gives "url" (Reads heldOption) none c.url

section Fields
variable {lower upper es : Entries} {k : String} {kind kind' : TokenKind} {c : TokenFields}
  {source old : TokenSettings} {v : Value} {byIndex : Bool}

/-- A key over another gives what is below it where it is absent itself. -/
theorem Entries.Gives.over {α : Type} {holds : Value → α → Prop} {absent a b : α}
    (hkeys : Ascending upper) (hplain : ∀ o es a, ¬ holds (.table o es) a)
    (hlower : lower.Gives k holds absent a) (hupper : upper.Gives k holds a b) :
    Entries.Gives (mergeEntries lower upper) k holds absent b := by
  have hget := get?_mergeEntries hkeys lower k
  unfold Gives at hupper
  cases hk : get? upper k with
  | some v =>
    rw [hk] at hget hupper
    have hoverlay : overlay (get? lower k) v = v := by
      have hv : v.isTable = false := by
        cases v with
        | table o es => exact absurd hupper (hplain o es b)
        | _ => rfl
      cases get? lower k with
      | none => rfl
      | some w => exact merge_of_not_table w hv
    exact (gives_of_some (hget.trans (congrArg some hoverlay))).mpr hupper
  | none =>
    rw [hk] at hget hupper
    cases hupper
    rw [Gives, hget]
    exact hlower

/-- Fields of a kind over what is given below for that kind. -/
theorem SourceRead.over (hkeys : Ascending upper) (hlower : FieldsGiven lower c source.kind)
    (h : SourceRead upper c source) : SourceRead (mergeEntries lower upper) {} source := by
  cases h with
  | fixed htoken => exact .fixed (hlower.over hkeys (fun _ _ _ h => nomatch h) htoken)
  | command hprogram hargs =>
    obtain ⟨hlowerProgram, hlowerArgs⟩ := hlower
    exact .command (hlowerProgram.over hkeys (fun _ _ _ h => nomatch h) hprogram)
      (hlowerArgs.over hkeys (fun _ _ _ h => nomatch h) hargs)
  | metadata hurl => exact .metadata (hlower.over hkeys (fun _ _ _ h => nomatch h) hurl)

theorem fieldsGiven_of_absent (h : ∀ k ∈ fieldKeys kind, get? es k = none) :
    FieldsGiven es {} kind := by
  cases kind with
  | fixed => exact (gives_of_none (h "token" (by decide))).mpr rfl
  | command => exact ⟨(gives_of_none (h "command" (by decide))).mpr rfl,
      (gives_of_none (h "args" (by decide))).mpr rfl⟩
  | metadata => exact (gives_of_none (h "url" (by decide))).mpr rfl

theorem fieldsGiven_of_sourceRead (h : SourceRead es {} source) :
    FieldsGiven es source.fields source.kind := by
  cases h with
  | fixed htoken => exact htoken
  | command hprogram hargs => exact ⟨hprogram, hargs⟩
  | metadata hurl => exact hurl

/-- No kind has a key of another one, nor the key that names the kind. -/
theorem fieldKeys_apart (h : kind ≠ kind') :
    ∀ k ∈ fieldKeys kind, ¬ (k = "type" ∨ k ∈ fieldKeys kind') := by
  cases kind <;> cases kind' <;> first
    | exact absurd rfl h
    | decide

theorem scalar_of_readTokenKind (h : readTokenKind byIndex v = .ok kind) :
    ∃ o s, v = .scalar o s ∧ s.isWide = false := by
  unfold readTokenKind at h
  split at h
  · exact ⟨_, _, rfl, rfl⟩
  · exact ⟨_, _, rfl, rfl⟩
  · exact ⟨_, _, rfl, rfl⟩
  · cases h

/-- Nothing in a token source is too wide, the name of its kind not either. -/
theorem narrow_of_tokenRead (hkeys : Ascending es) (h : TokenRead byIndex es source) :
    ∀ e ∈ es, narrow e.2 = .ok () := by
  intro e he
  by_cases hname : e.1 = "type"
  · obtain ⟨v, hv, hkind⟩ := h.kind
    have hget := get?_of_mem hkeys he
    rw [hname, hv] at hget
    cases hget
    obtain ⟨o, s, hscalar, hwide⟩ := scalar_of_readTokenKind hkind
    rw [hscalar]
    exact narrow_of_not_wide hwide o
  · exact h.narrow e he hname

/-- A kind that is named above one that fits goes with the fields above and below. -/
theorem tokenRead_over (hkeys : Ascending upper) (hsorted : ∀ e ∈ upper, e.2.Sorted)
    (hlower : ∀ e ∈ lower, narrow e.2 = .ok ()) (hupper : ∀ e ∈ upper, narrow e.2 = .ok ())
    (hnamed : ∃ v, get? upper "type" = some v ∧ readTokenKind byIndex v = .ok source.kind)
    (hgiven : FieldsGiven lower c source.kind) (hread : SourceRead upper c source) :
    TokenRead byIndex (mergeEntries lower upper) source where
  kind := by
    obtain ⟨v, hv, hkind⟩ := hnamed
    obtain ⟨o, s, rfl, -⟩ := scalar_of_readTokenKind hkind
    have hoverlay : overlay (get? lower "type") (.scalar o s) = .scalar o s := by
      cases get? lower "type" <;> rfl
    refine ⟨_, ?_, hkind⟩
    rw [get?_mergeEntries hkeys, hv]
    exact congrArg some hoverlay
  narrow := by
    have hmerged : ∀ e ∈ mergeEntries lower upper, narrow e.2 = .ok () :=
      forall_mem_mergeEntries (P := fun v => narrow v = .ok ()) hlower hupper
        fun e he w hw => narrow_merge (hsorted e he) hw (hupper e he)
    exact fun e he _ => hmerged e he
  source := hread.over hkeys hgiven

end Fields

section Load
variable {t : FileTree} {current : List String} {path : Option String} {file v : Value}
  {environment : List (String × String)} {s : Settings} {old new source : TokenSettings}
  {kind : TokenKind} {es es' tes : Entries} {o : Source} {c : TokenFields}

theorem load_eq_ok_iff (h : fileOf t current path = .ok file) :
    load t current path environment = .ok s ↔
      SettingsRead (merged Settings.default.toValue file environment).entries s := by
  have hkeys := ascending_mergeEntries (sorted_default.merge (sorted_fileOf h)).ascending
    (environmentLayer environment).entries
  rw [load_eq h, merged_eq, entries_table, ← ofValue_eq_ok_iff hkeys (o := .environment)]
  refine ⟨eq_ok_of_mapError, fun hs => ?_⟩
  rw [hs]
  rfl

theorem SettingsRead.withSource (h : SettingsRead es s)
    (hothers : ∀ k, k ≠ "token_source" → get? es' k = get? es k)
    (htable : get? es' "token_source" = some (.table o tes))
    (hread : readToken true (.table o tes) = .ok source) :
    SettingsRead es' (s.withSource source) where
  port := gives_congr (hothers _ (by decide)) h.port
  host := gives_congr (hothers _ (by decide)) h.host
  backendUrl := gives_congr (hothers _ (by decide)) h.backendUrl
  proxyUrl := gives_congr (hothers _ (by decide)) h.proxyUrl
  timeoutSecs := gives_congr (hothers _ (by decide)) h.timeoutSecs
  tokenSource := by
    refine (gives_of_some htable).mpr ?_
    rw [Reads, readOption_of_table, hread]
    rfl
  log := gives_congr (hothers _ (by decide)) h.log

/-- The token source of the file is the one that is loaded without the variables for it. -/
theorem SourceSet.exists_source (h : SourceSet t current path environment file s old kind) :
    ∃ v, file.at? ["token_source"] = some v ∧ readOption (readToken true) v = .ok (some old) := by
  have hgives := ((load_eq_ok_iff h.file).mp h.loaded).tokenSource
  have hget : get? (merged Settings.default.toValue file (sourceless environment)).entries
      "token_source" = file.at? ["token_source"] := by
    rw [get?_merged, get?_sourceless_self, ← at?_default_merge (sorted_fileOf h.file),
      at?_singleton]
  rw [h.source] at hgives
  cases hv : file.at? ["token_source"] with
  | none => cases (gives_of_none (hget.trans hv)).mp hgives
  | some v => exact ⟨v, rfl, (gives_of_some (hget.trans hv)).mp hgives⟩

theorem SourceSet.exists_table (h : SourceSet t current path environment file s old kind) :
    ∃ o es, (environmentLayer environment).at? ["token_source"] = some (.table o es) ∧
      sourceEntries (environmentLayer environment) = es := by
  obtain ⟨v, hv, -⟩ := h.named
  cases hat : (environmentLayer environment).at? ["token_source"] with
  | none =>
    rw [sourceEntries, hat] at hv
    cases hv
  | some w =>
    have hentries := sourceEntries_of_at? hat
    rw [hentries] at hv
    cases w with
    | table o es => exact ⟨o, es, rfl, hentries⟩
    | _ => cases hv

theorem narrow_of_readOption (hv : v.Sorted)
    (h : readOption (readToken true) v = .ok (some old)) :
    ∀ e ∈ v.entries, narrow e.2 = .ok () := by
  cases v with
  | table o es => exact narrow_of_tokenRead hv.ascending (tokenRead_of_readOption hv h)
  | _ => exact fun e he => nomatch he

/-- What the file gives for the fields of the kind that is named goes below what variables give. -/
theorem SourceSet.loaded_over (h : SourceSet t current path environment file s old new.kind)
    (hgiven : FieldsGiven (sourceEntries file) c new.kind)
    (hread : SourceRead (sourceEntries (environmentLayer environment)) c new) :
    load t current path environment = .ok (s.withSource new) := by
  obtain ⟨v, hfile, hold⟩ := h.exists_source
  obtain ⟨o, es, hlayer, hentries⟩ := h.exists_table
  have hnamed := h.named
  have hbelow := sourceEntries_of_at? hfile
  have hlayerSorted : (Value.table o es).Sorted :=
    (sorted_environmentLayer environment).of_at? hlayer
  have hlayerNarrow : narrow (.table o es) = .ok () :=
    narrow_entries (narrow_environmentLayer environment) _
      (mem_of_get? ((at?_singleton _ _).symm.trans hlayer))
  have hvSorted : v.Sorted := (sorted_fileOf h.file).of_at? hfile
  rw [hentries] at hread hnamed
  rw [hbelow] at hgiven
  -- of all layers together only the token source differs from what is loaded without its variables
  have hsource : get? (merged Settings.default.toValue file environment).entries "token_source" =
      some (.table o (mergeEntries v.entries es)) := by
    rw [get?_merged, ← at?_singleton (environmentLayer environment), hlayer, ← at?_singleton,
      at?_default_merge (sorted_fileOf h.file), hfile]
    exact congrArg some (merge_table v o hlayerSorted.ascending)
  refine (load_eq_ok_iff h.file).mpr (((load_eq_ok_iff h.file).mp h.loaded).withSource
    (fun k hk => ?_) hsource ?_)
  · rw [get?_merged, get?_merged, get?_sourceless hk]
  · refine (readToken_eq_ok_iff (ascending_mergeEntries hvSorted.ascending es)).mpr ?_
    exact tokenRead_over hlayerSorted.ascending
      (fun e he => hlayerSorted.of_get? (get?_of_mem hlayerSorted.ascending he))
      (narrow_of_readOption hvSorted hold) (narrow_table_iff.mp hlayerNarrow) hnamed hgiven hread

end Load

section Furnished
open Program

/-- The token source of the files below. -/
def gcloud : TokenSettings := .command "gcloud" ["print"]

def keyed : FileTree :=
  (furnished "token_source: {type: command, command: gcloud, args: [print]}").files

/-- The same token source as a list. -/
def listed : FileTree :=
  (furnished "backend_url: http://b.example\ntoken_source: [command, gcloud, [print]]\n").files

def listedSettings : Settings := { Settings.default with backendUrl := some "http://b.example" }

def typeVariable (kind : String) : String × String := ("BROXY_TOKEN_SOURCE__TYPE", kind)

def programVariable (program : String) : String × String :=
  ("BROXY_TOKEN_SOURCE__COMMAND", program)

def commandVariables : List (String × String) := [typeVariable "command", programVariable "token"]

theorem path_typeVariable (kind : String) :
    variablePath? (typeVariable kind).1 = some ["token_source", "type"] := by
  change variablePath? "BROXY_TOKEN_SOURCE__TYPE" = _
  decide +kernel

theorem path_programVariable (program : String) :
    variablePath? (programVariable program).1 = some ["token_source", "command"] := by
  change variablePath? "BROXY_TOKEN_SOURCE__COMMAND" = _
  decide +kernel

theorem separate_commandVariables : Separate commandVariables := by
  refine List.pairwise_pair.mpr fun p q hp hq => ?_
  cases (path_typeVariable _).symm.trans hp
  cases (path_programVariable _).symm.trans hq
  exact apart_cons.mpr (apart_of_ne (by decide) _ _)

theorem sourceless_eq_nil {environment : List (String × String)}
    (h : ∀ x ∈ environment, ∃ ks, variablePath? x.1 = some ("token_source" :: ks)) :
    sourceless environment = [] := by
  refine List.filter_eq_nil_iff.mpr fun x hx => ?_
  obtain ⟨ks, hpath⟩ := h x hx
  simp [setsSource, hpath]

theorem sourceless_typeVariable (kind : String) : sourceless [typeVariable kind] = [] := by
  refine sourceless_eq_nil fun x hx => ?_
  cases List.mem_singleton.mp hx
  exact ⟨_, path_typeVariable kind⟩

theorem sourceless_commandVariables : sourceless commandVariables = [] := by
  refine sourceless_eq_nil fun x hx => ?_
  rcases List.mem_pair.mp hx with rfl | rfl
  · exact ⟨_, path_typeVariable _⟩
  · exact ⟨_, path_programVariable _⟩

/-- A file with a token source, as it is without variables. -/
structure SourceFile (t : FileTree) (file : Value) (s : Settings) (keys : List String)
    (table : Bool) : Prop where
  read : fileOf t [] (some "broxy.yaml") = .ok file
  loaded : load t [] (some "broxy.yaml") [] = .ok (s.withSource gcloud)
  keys : (sourceEntries file).map Prod.fst = keys
  table : (file.at? ["token_source"]).map isTable = some table

theorem exists_sourceFile {t : FileTree} {s : Settings} {keys : List String} {table : Bool}
    (hread : (fileOf t [] (some "broxy.yaml")).toOption.map (fun v =>
      ((sourceEntries v).map Prod.fst, (v.at? ["token_source"]).map isTable)) =
        some (keys, some table))
    (hloaded : (load t [] (some "broxy.yaml") []).toOption = some (s.withSource gcloud)) :
    ∃ file, SourceFile t file s keys table := by
  obtain ⟨file, hfile, hshape⟩ := Option.map_eq_some_iff.mp hread
  obtain ⟨hkeys, htable⟩ := Prod.mk.inj hshape
  exact ⟨file, eq_ok_of_toOption hfile, eq_ok_of_toOption hloaded, hkeys, htable⟩

theorem exists_keyed :
    ∃ file, SourceFile keyed file .default ["args", "command", "type"] true :=
  exists_sourceFile (by decide +kernel) (by decide +kernel)

theorem exists_listed : ∃ file, SourceFile listed file listedSettings [] false :=
  exists_sourceFile (by decide +kernel) (by decide +kernel)

theorem SourceFile.sourceSet {t : FileTree} {file : Value} {s : Settings} {keys : List String}
    {table : Bool} {environment : List (String × String)} {kind : String} {named : TokenKind}
    (h : SourceFile t file s keys table) (hempty : sourceless environment = [])
    (hsep : Separate environment) (htype : typeVariable kind ∈ environment)
    (hkind : readTokenKind true (variableValue kind) = .ok named) :
    SourceSet t [] (some "broxy.yaml") environment file (s.withSource gcloud) gcloud named where
  file := h.read
  loaded := by rw [hempty, h.loaded]
  source := rfl
  named := ⟨_, get?_sourceEntries_of_mem hsep htype (path_typeVariable kind), hkind⟩

/-- Two variables for a command leave its arguments. -/
theorem sourceRead_commandVariables (c : TokenFields) :
    SourceRead (sourceEntries (environmentLayer commandVariables)) c (.command "token" c.args) := by
  have hprogram := get?_sourceEntries_of_mem (x := programVariable "token")
    separate_commandVariables (List.mem_pair.mpr (.inr rfl)) (path_programVariable "token")
  have hread : Reads heldText (variableValue (programVariable "token").2) (some "token") := rfl
  have hargs : get? (sourceEntries (environmentLayer commandVariables)) "args" = none := by
    refine get?_sourceEntries_of_apart fun x hx q hq => ?_
    rcases List.mem_pair.mp hx with rfl | rfl
    · cases (path_typeVariable _).symm.trans hq
      exact apart_cons.mpr (apart_of_ne (by decide) _ _)
    · cases (path_programVariable _).symm.trans hq
      exact apart_cons.mpr (apart_of_ne (by decide) _ _)
  refine .command ?_ ?_
  · rw [gives_of_some hprogram]
    exact hread
  · rw [gives_of_none hargs]

theorem get?_typeVariable_other {kind k : String} (h : k ≠ "type") :
    get? (sourceEntries (environmentLayer [typeVariable kind])) k = none := by
  refine get?_sourceEntries_of_apart fun x hx q hq => ?_
  cases List.mem_singleton.mp hx
  cases (path_typeVariable _).symm.trans hq
  exact apart_cons.mpr (apart_of_ne h.symm _ _)

theorem kind_command : readTokenKind true (variableValue "command") = .ok .command := rfl

theorem kind_metadata : readTokenKind true (variableValue "metadata") = .ok .metadata := rfl

end Furnished

section Switch
variable {t : FileTree} {current : List String} {path : Option String} {file : Value}
  {environment : List (String × String)} {s : Settings} {old new : TokenSettings}

/-- Variables that name another kind leave nothing of the file's token source: there is one of that
kind with the fields that variables set, and with defaults for those that they leave out. If they
name the same kind, the fields that they leave out are the file's, unless its token source is a
list; for that is replaced as a whole. -/
theorem token_source_switched (h : SourceSet t current path environment file s old new.kind) :
    (new.kind ≠ old.kind →
      (∀ e ∈ sourceEntries file, e.1 = "type" ∨ e.1 ∈ fieldKeys old.kind) →
      SourceRead (sourceEntries (environmentLayer environment)) {} new →
      load t current path environment = .ok (s.withSource new)) ∧
    (new.kind = old.kind → (file.at? ["token_source"]).map isTable = some true →
      SourceRead (sourceEntries (environmentLayer environment)) old.fields new →
      load t current path environment = .ok (s.withSource new)) ∧
    ((file.at? ["token_source"]).map isTable = some false →
      SourceRead (sourceEntries (environmentLayer environment)) {} new →
      load t current path environment = .ok (s.withSource new)) ∧
    SourceApart s := by
  refine ⟨fun hkind hown hread => ?_, fun hkind htable hread => ?_, fun hlist hread => ?_,
    sourceApart s⟩
  · -- the file's keys are of another kind, so that it gives nothing for this one
    refine h.loaded_over (fieldsGiven_of_absent fun k hk => ?_) hread
    refine get?_eq_none_of_not_mem fun hmem => ?_
    obtain ⟨e, he, rfl⟩ := List.mem_map.mp hmem
    exact fieldKeys_apart hkind e.1 hk (hown e he)
  · obtain ⟨v, hfile, hold⟩ := h.exists_source
    have hbelow := sourceEntries_of_at? hfile
    have hsorted : v.Sorted := (sorted_fileOf h.file).of_at? hfile
    rw [hfile] at htable
    cases v with
    | table o es =>
      refine h.loaded_over ?_ hread
      rw [hbelow, hkind]
      exact fieldsGiven_of_sourceRead (tokenRead_of_readOption hsorted hold).source
    | _ => cases htable
  · obtain ⟨v, hfile, -⟩ := h.exists_source
    have hbelow := sourceEntries_of_at? hfile
    rw [hfile] at hlist
    refine h.loaded_over (fieldsGiven_of_absent fun k _ => ?_) hread
    rw [hbelow, entries_of_not_table (Option.some.inj hlist)]
    rfl

/-- Another kind, the same kind over a table, and the same kind over a list. -/
theorem token_source_switched_gcloud :
    load keyed [] (some "broxy.yaml") [typeVariable "metadata"] =
        .ok (Settings.default.withSource (.metadata none)) ∧
      load keyed [] (some "broxy.yaml") commandVariables =
        .ok (Settings.default.withSource (.command "token" ["print"])) ∧
      load listed [] (some "broxy.yaml") commandVariables =
        .ok (listedSettings.withSource (.command "token" [])) := by
  obtain ⟨file, hkeyed⟩ := exists_keyed
  obtain ⟨file', hlisted⟩ := exists_listed
  have hmetadata : SourceSet keyed [] (some "broxy.yaml") [typeVariable "metadata"] file _ gcloud
      (TokenSettings.metadata none).kind :=
    hkeyed.sourceSet (sourceless_typeVariable "metadata") (List.pairwise_singleton _ _)
      (List.mem_singleton.mpr rfl) kind_metadata
  have hkept : SourceSet keyed [] (some "broxy.yaml") commandVariables file _ gcloud
      (TokenSettings.command "token" ["print"]).kind :=
    hkeyed.sourceSet sourceless_commandVariables separate_commandVariables
      (List.mem_pair.mpr (.inl rfl)) kind_command
  have hreplaced : SourceSet listed [] (some "broxy.yaml") commandVariables file' _ gcloud
      (TokenSettings.command "token" []).kind :=
    hlisted.sourceSet sourceless_commandVariables separate_commandVariables
      (List.mem_pair.mpr (.inl rfl)) kind_command
  refine ⟨(token_source_switched hmetadata).1 (by decide) ?_ ?_,
    (token_source_switched hkept).2.1 rfl hkeyed.table ?_,
    (token_source_switched hreplaced).2.2.1 hlisted.table ?_⟩
  · intro e he
    have hmem : e.1 ∈ ["args", "command", "type"] := hkeyed.keys ▸ List.mem_map_of_mem he
    simpa [gcloud, TokenSettings.kind, fieldKeys, or_comm, or_left_comm, or_assoc] using hmem
  · refine .metadata ?_
    rw [gives_of_none (get?_typeVariable_other (by decide))]
  · exact sourceRead_commandVariables gcloud.fields
  · exact sourceRead_commandVariables {}

/-- Fields that variables leave out are not kept from a token source that is a list. -/
theorem listed_fields_not_kept : ∃ file,
    SourceSet listed [] (some "broxy.yaml") [typeVariable "command"] file
      (listedSettings.withSource gcloud) gcloud gcloud.kind ∧
    SourceRead (sourceEntries (environmentLayer [typeVariable "command"])) gcloud.fields gcloud ∧
    ∀ s, load listed [] (some "broxy.yaml") [typeVariable "command"] ≠ .ok s := by
  obtain ⟨file, hlisted⟩ := exists_listed
  refine ⟨file, hlisted.sourceSet (sourceless_typeVariable "command")
    (List.pairwise_singleton _ _) (List.mem_singleton.mpr rfl) kind_command, ?_, fun s hs => ?_⟩
  · refine .command ?_ ?_
    · rw [gives_of_none (get?_typeVariable_other (by decide))]
      rfl
    · rw [gives_of_none (get?_typeVariable_other (by decide))]
      rfl
  · have hload : (load listed [] (some "broxy.yaml") [typeVariable "command"]).toOption = none := by
      decide +kernel
    rw [hs] at hload
    cases hload

end Switch

end BrokerGate.Config
