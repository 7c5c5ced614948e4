import BrokerGate.Proofs.Config.Reading
import BrokerGate.Proofs.Config.Relabel
import BrokerGate.Proofs.Program.File

/-! Settings from a text, from a file with that text, and from such a file and an environment that
sets nothing. They are the same, or there are none for the same reason, and each key that the text
leaves out has its default. -/
namespace BrokerGate.Config
open Text Entries Value

/-- A layer that cannot be read has no kind of its own. -/
def LoadError.kind : LoadError → String
  | .notText _ => "Message"
  | .document _ _ => "Message"
  | .misfit m => m.mismatch.kind

/-- The keys that lead to what does not fit. -/
def LoadError.path : LoadError → List String
  | .notText _ => []
  | .document _ _ => []
  | .misfit m => m.path

def LoadError.relabel (f : Source → Source) : LoadError → LoadError
  | .notText source => .notText (f source)
  | .document text source => .document text (f source)
  | .misfit m => .misfit (m.relabel f)

/-- Two ways of loading come to the same settings, or fail in the same way at the same key. -/
inductive LoadsAlike : Except LoadError Settings → Except LoadError Settings → Prop
  | loaded (s : Settings) : LoadsAlike (.ok s) (.ok s)
  | failed {e e' : LoadError} (hkind : e.kind = e'.kind) (hpath : e.path = e'.path) :
    LoadsAlike (.error e) (.error e')

/-- Settings have their defaults at the keys where a document leaves them. -/
structure DefaultsKept (document : Value) (s : Settings) : Prop where
  port : document.Leaves ["port"] → s.port = 8080
  host : document.Leaves ["host"] → s.host = "127.0.0.1"
  backendUrl : document.Leaves ["backend_url"] → s.backendUrl = none
  proxyUrl : document.Leaves ["proxy_url"] → s.proxyUrl = none
  timeoutSecs : document.Leaves ["timeout_secs"] → s.timeoutSecs = none
  tokenSource : document.Leaves ["token_source"] → s.tokenSource = none
  logLevel : document.Leaves ["log", "level"] → s.log.level = "info"
  logFormat : document.Leaves ["log", "format"] → s.log.format = .pretty
  args : document.Leaves ["token_source", "args"] →
    ∀ program args, s.tokenSource = some (.command program args) → args = []
  url : document.Leaves ["token_source", "url"] →
    ∀ url, s.tokenSource = some (.metadata url) → url = none

/-- What the ways of loading a text have to do with each other. -/
structure LoadersAgree (t : FileTree) (current : List String) (path text : String)
    (environment : List (String × String)) : Prop where
  file : LoadsAlike (fromText text) (fromFile t current path)
  unset : load t current (some path) environment = fromFile t current path
  parsed : ∀ s, fromText text = .ok s → ∃ document, documentLayer? .text text = some document
  defaults : ∀ document, documentLayer? .text text = some document →
    ∀ s, (fromText text = .ok s ∨ fromFile t current path = .ok s ∨
      load t current (some path) environment = .ok s) → DefaultsKept document s

section Text
variable {t : FileTree} {current : List String} {path text : String}

theorem textLayer_relabel (f : Source → Source) (source : Source) (text : String) :
    textLayer (f source) text =
      ((textLayer source text).map (Value.relabel f)).mapError (.relabel f) := by
  unfold textLayer
  rw [documentLayer?_relabel]
  cases documentLayer? source text <;> rfl

theorem default_toValue : Settings.default.toValue = .table .defaults
    [("host", .scalar .defaults (.text "127.0.0.1")),
      ("log", .table .defaults [("format", .scalar .defaults (.text "pretty")),
        ("level", .scalar .defaults (.text "info"))]),
      ("port", .scalar .defaults (.unsigned 8080))] := rfl

/-- Settings of one layer over the defaults. -/
theorem extract_singleton (v : Value) : extract [v] =
    (Settings.ofValue (Settings.default.toValue.merge v)).mapError .misfit := extract_eq [v]

theorem extract_relabel {f : Source → Source} (hf : f .defaults = .defaults) (v : Value) :
    extract [v.relabel f] = (extract [v]).mapError (.relabel f) := by
  have hdefault : Settings.default.toValue.relabel f = Settings.default.toValue := by
    simp only [default_toValue, Value.relabel, relabelEntries, hf]
  have hmerge := merge_relabel f Settings.default.toValue v
  rw [hdefault] at hmerge
  rw [extract_singleton, extract_singleton, ← hmerge, oblivious_ofValue f]
  cases Settings.ofValue (Settings.default.toValue.merge v) <;> rfl

/-- A file's settings are those of its text, and a failure names the file. -/
theorem fromFile_eq (h : t.fileAt? current path = some (Utf8.ofString text)) : ∃ f,
    fromFile t current path = (fromText text).mapError (.relabel f) := by
  have hfound : (t.fileAt? current path).or (t.fileAbove? current path) =
      some (Utf8.ofString text) := by rw [h, Option.some_or]
  obtain ⟨shown, hlayer⟩ := fileLayer_of_found hfound
  let f : Source → Source := fun
    | .text => .file shown
    | o => o
  have htext : fileLayer t current path =
      ((textLayer .text text).map (Value.relabel f)).mapError (.relabel f) := by
    rw [hlayer, contentLayer, Utf8.toString?_ofString]
    exact textLayer_relabel f .text text
  refine ⟨f, ?_⟩
  rw [fromFile, fromText, htext]
  cases textLayer .text text with
  | error e => rfl
  | ok v => exact extract_relabel rfl v

theorem loadsAlike_relabel (f : Source → Source) (r : Except LoadError Settings) :
    LoadsAlike r (r.mapError (.relabel f)) := by
  cases r with
  | ok s => exact .loaded s
  | error e => cases e <;> exact .failed rfl rfl

end Text

section Defaults
variable {document : Value} {s : Settings} {es : Entries} {o : Source}

theorem cover_none (upper : Value) (p : List String) : upper.cover p none = upper.at? p := by
  unfold cover
  cases upper.at? p with
  | some v => rfl
  | none => exact ite_self none

/-- What a document leaves inside of a value can only be left inside of a table. -/
theorem isTable_of_leaves {k j : String} {w : Value} (h : document.Leaves [k, j])
    (hw : get? document.entries k = some w) : w.isTable = true := by
  have hblocks := h.2
  rw [blocks, hw] at hblocks
  simpa [blocks] using (Bool.or_eq_false_iff.mp hblocks).2

theorem exists_table_of_ofValue {v : Value} (h : Settings.ofValue v = .ok s) :
    ∃ o es, v = .table o es := by
  cases v with
  | table o es => exact ⟨o, es, rfl⟩
  | _ => cases h

/-- The value at a key of a table that is read as settings. -/
theorem get?_of_at? {v : Value} {k : String} (h : (Value.table o es).at? [k] = some v) :
    get? es k = some v := (at?_singleton _ _).symm.trans h

theorem exists_log_of_at? {v : Value} {k : String}
    (h : (Value.table o es).at? ["log", k] = some v) :
    ∃ o les, get? es "log" = some (.table o les) ∧ get? les k = some v := by
  obtain ⟨w, hw, hat⟩ := Option.bind_eq_some_iff.mp h
  rw [at?_singleton] at hat
  cases w with
  | table o les => exact ⟨o, les, hw, hat⟩
  | _ => cases hat

theorem logRead_of_settingsRead (hsorted : (Value.table o es).Sorted) (h : SettingsRead es s)
    {o' : Source} {les : Entries} (hlog : get? es "log" = some (.table o' les)) :
    LogRead les s.log := by
  have hles : (Value.table o' les).Sorted := hsorted.of_get? hlog
  exact (readLog_eq_ok_iff hles.ascending).mp ((gives_of_some hlog).mp h.log)

/-- The keys of a token source that was read from a table. -/
theorem tokenRead_of_readOption {source : TokenSettings} (hsorted : (Value.table o es).Sorted)
    (h : readOption (readToken true) (.table o es) = .ok (some source)) :
    TokenRead true es source := by
  rw [readOption_of_table] at h
  obtain ⟨_, hsource, heq⟩ := map_eq_ok h
  cases heq
  exact (readToken_eq_ok_iff hsorted.ascending).mp hsource

theorem tokenRead_of_settingsRead (hsorted : (Value.table o es).Sorted) (h : SettingsRead es s)
    {o' : Source} {tes : Entries} (htable : get? es "token_source" = some (.table o' tes))
    {source : TokenSettings} (hsource : s.tokenSource = some source) :
    TokenRead true tes source := by
  have hread := (gives_of_some htable).mp h.tokenSource
  rw [Reads, hsource] at hread
  exact tokenRead_of_readOption (hsorted.of_get? htable) hread

/-- No token source is set by default. -/
theorem at?_default_merge (h : document.Sorted) :
    (Settings.default.toValue.merge document).at? ["token_source"] =
      document.at? ["token_source"] := by
  rw [at?_merge _ h, show Settings.default.toValue.at? ["token_source"] = none from rfl,
    cover_none]

/-- Where nothing is set the defaults are seen through a document. -/
theorem defaultsKept (hdocument : document.Sorted)
    (h : Settings.ofValue (Settings.default.toValue.merge document) = .ok s) :
    DefaultsKept document s := by
  have hkept := (layered_merge Settings.default.toValue hdocument).kept
  have hsorted := sorted_default.merge hdocument
  have htoken := at?_default_merge hdocument
  obtain ⟨o, es, hmerged⟩ := exists_table_of_ofValue h
  rw [hmerged] at h hkept hsorted htoken
  have hread := (ofValue_eq_ok_iff hsorted.ascending).mp h
  have hlog {k : String} {v : Value} (hleaves : document.Leaves ["log", k])
      (hdefault : Settings.default.toValue.at? ["log", k] = some v) :
      ∃ les, get? les k = some v ∧ LogRead les s.log := by
    obtain ⟨o, les, hget, hv⟩ := exists_log_of_at? ((hkept _ hleaves).trans hdefault)
    exact ⟨les, hv, logRead_of_settingsRead hsorted hread hget⟩
  have hsource {k : String} {source : TokenSettings}
      (hleaves : document.Leaves ["token_source", k]) (hsource : s.tokenSource = some source) :
      ∃ tes, get? tes k = none ∧ TokenRead true tes source := by
    have hnone : (Value.table o es).at? ["token_source", k] = none := hkept _ hleaves
    cases hget : get? es "token_source" with
    | none =>
      rw [(gives_of_none hget).mp hread.tokenSource] at hsource
      cases hsource
    | some w =>
      have hown : get? document.entries "token_source" = some w := by
        rw [← at?_singleton, ← htoken, at?_singleton]
        exact hget
      have htable := isTable_of_leaves hleaves hown
      cases w with
      | table o' tes =>
        refine ⟨tes, ?_, tokenRead_of_settingsRead hsorted hread hget hsource⟩
        rw [at?_table_cons, hget] at hnone
        exact (at?_singleton (.table o' tes) k).symm.trans hnone
      | _ => cases htable
  have hunset {k : String} (hleaves : document.Leaves [k])
      (hdefault : Settings.default.toValue.at? [k] = none) : get? es k = none :=
    (at?_singleton (.table o es) k).symm.trans ((hkept _ hleaves).trans hdefault)
  constructor
  · intro hleaves
    have hget := get?_of_at? (v := .scalar .defaults (.unsigned 8080)) (hkept _ hleaves)
    exact (Except.ok.inj ((gives_of_some hget).mp hread.port)).symm
  · intro hleaves
    have hget := get?_of_at? (v := .scalar .defaults (.text "127.0.0.1")) (hkept _ hleaves)
    exact (Except.ok.inj ((gives_of_some hget).mp hread.host)).symm
  · exact fun hleaves => (gives_of_none (hunset hleaves rfl)).mp hread.backendUrl
  · exact fun hleaves => (gives_of_none (hunset hleaves rfl)).mp hread.proxyUrl
  · exact fun hleaves => (gives_of_none (hunset hleaves rfl)).mp hread.timeoutSecs
  · exact fun hleaves => (gives_of_none (hunset hleaves rfl)).mp hread.tokenSource
  · intro hleaves
    obtain ⟨les, hget, hlogRead⟩ := hlog (v := .scalar .defaults (.text "info")) hleaves rfl
    exact (Except.ok.inj ((gives_of_some hget).mp hlogRead.level)).symm
  · intro hleaves
    obtain ⟨les, hget, hlogRead⟩ := hlog (v := .scalar .defaults (.text "pretty")) hleaves rfl
    exact (Except.ok.inj ((gives_of_some hget).mp hlogRead.format)).symm
  · intro hleaves program args hcommand
    obtain ⟨tes, hnone, htokenRead⟩ := hsource hleaves hcommand
    cases htokenRead.source with
    | command _ hargs => exact (gives_of_none hnone).mp hargs
  · intro hleaves url hmetadata
    obtain ⟨tes, hnone, htokenRead⟩ := hsource hleaves hmetadata
    cases htokenRead.source with
    | metadata hurl => exact (gives_of_none hnone).mp hurl

end Defaults

section Load
variable {t : FileTree} {current : List String} {path text : String}
  {environment : List (String × String)}

theorem isTable_documentLayer? {source : Source} {v : Value}
    (h : documentLayer? source text = some v) : v.isTable = true := by
  unfold documentLayer? at h
  split at h
  · cases h
  · cases h
    rfl
  · split at h
    · cases h
      rfl
    · obtain ⟨p, -, rfl⟩ := Option.map_eq_some_iff.mp h
      rfl
    · cases h

theorem isTable_fileLayer {v : Value} (h : fileLayer t current path = .ok v) :
    v.isTable = true := by
  unfold fileLayer at h
  split at h
  · cases h
    rfl
  · split at h
    · unfold textLayer at h
      split at h
      · next hdocument =>
        cases h
        exact isTable_documentLayer? hdocument
      · cases h
    · cases h

theorem environmentLayer_of_unset (h : ∀ x ∈ environment, variablePath? x.1 = none) :
    environmentLayer environment = .table .environment [] := by
  rw [environmentLayer_eq]
  induction environment with
  | nil => rfl
  | cons x xs ih =>
    rw [List.foldl_cons, setVariable_of_no_path (h x List.mem_cons_self)]
    exact ih fun y hy => h y (List.mem_cons_of_mem _ hy)

/-- A file's settings stand if the environment sets nothing. -/
theorem load_of_unset (h : ∀ x ∈ environment, variablePath? x.1 = none) :
    load t current (some path) environment = fromFile t current path := by
  rw [load, fromFile, environmentLayer_of_unset h]
  cases hfile : fileLayer t current path with
  | error e => rfl
  | ok v =>
    have hempty : extract [v, .table .environment []] = extract [v] := by
      rw [extract_eq, extract_singleton]
      have htable := isTable_fileLayer hfile
      cases v with
      | table o es => rfl
      | _ => cases htable
    exact hempty

/-- A path to no file is as good as no path. -/
theorem load_of_no_file (h : ∀ dir ∈ enclosing current, t.fileAt? dir path = none)
    (environment : List (String × String)) :
    load t current (some path) environment = load t current none environment := by
  have hnone : (t.fileAt? current path).or (t.fileAbove? current path) = none := by
    have hhere := h current (enclosing_eq current ▸ List.mem_cons_self)
    have habove : t.fileAbove? current path = none := by
      unfold FileTree.fileAbove?
      split
      · rfl
      · exact List.findSome?_eq_none_iff.mpr fun dir hdir =>
          h dir (enclosing_eq current ▸ List.mem_cons_of_mem _ hdir)
    rw [hhere, habove, Option.none_or]
  have hfile : fileOf t current (some path) = .ok (.table .defaults []) := fileLayer_of_none hnone
  have hunnamed : fileOf t current none = .ok (.table .defaults []) := rfl
  rw [load_eq hfile, load_eq hunnamed]

theorem fromText_of_document {document : Value} (h : documentLayer? .text text = some document) :
    fromText text =
      (Settings.ofValue (Settings.default.toValue.merge document)).mapError .misfit := by
  rw [fromText, textLayer, h]
  exact extract_singleton document

/-- From a text, a file with it, and the file under variables that set nothing come the same
settings, or the same failure; and a path that leads to no file might as well not be given. -/
theorem loaders_agree (t : FileTree) (current : List String) :
    (∀ path text environment, t.fileAt? current path = some (Utf8.ofString text) →
      (∀ x ∈ environment, variablePath? x.1 = none) →
        LoadersAgree t current path text environment) ∧
      ∀ path environment, (∀ dir ∈ enclosing current, t.fileAt? dir path = none) →
        load t current none environment = load t current (some path) environment := by
  refine ⟨fun path text environment hfile hunset => ?_, fun path environment h =>
    (load_of_no_file h environment).symm⟩
  obtain ⟨f, hfrom⟩ := fromFile_eq hfile
  have hload : load t current (some path) environment = fromFile t current path :=
    load_of_unset hunset
  refine ⟨hfrom ▸ loadsAlike_relabel f _, hload, fun s hs => ?_, fun document hdocument s hs => ?_⟩
  · cases hdocument : documentLayer? .text text with
    | none =>
      rw [fromText, textLayer, hdocument] at hs
      cases hs
    | some document => exact ⟨document, rfl⟩
  · have htext : fromText text = .ok s := by
      rw [hload, or_self, hfrom] at hs
      exact hs.elim id eq_ok_of_mapError
    rw [fromText_of_document hdocument] at htext
    exact defaultsKept (sorted_documentLayer? hdocument) (eq_ok_of_mapError htext)

theorem LoadsAlike.eq_ok {s : Settings} {r : Except LoadError Settings}
    (h : LoadsAlike (.ok s) r) : r = .ok s := by
  cases h
  rfl

/-- A directory with a file that has one key of the table for logging. -/
def sparse : FileTree :=
  ⟨[(["srv", "broxy.yaml"], Utf8.ofString "log: {format: json}")], []⟩

theorem loaders_agree_sparse :
    let s : Settings := { Settings.default with log := ⟨"info", .json⟩ }
    fromText "log: {format: json}" = .ok s ∧ fromFile sparse ["srv"] "broxy.yaml" = .ok s ∧
      load sparse ["srv"] (some "broxy.yaml") [("HOME", "/")] = .ok s ∧
      load sparse ["srv"] none [("BROXY_LOG__LEVEL", "warn")] =
        load sparse ["srv"] (some "other.yaml") [("BROXY_LOG__LEVEL", "warn")] := by
  obtain ⟨hsame, hnone⟩ := loaders_agree sparse ["srv"]
  have hunset : ∀ x ∈ [("HOME", "/")], variablePath? x.1 = none := by decide +kernel
  have hagree := hsame "broxy.yaml" "log: {format: json}" [("HOME", "/")] (by decide +kernel) hunset
  have htext : fromText "log: {format: json}" =
      .ok { Settings.default with log := ⟨"info", .json⟩ } := eq_ok_of_toOption (by decide +kernel)
  have hfile := hagree.file
  rw [htext] at hfile
  refine ⟨htext, hfile.eq_ok, hagree.unset.trans hfile.eq_ok, ?_⟩
  exact hnone "other.yaml" [("BROXY_LOG__LEVEL", "warn")] (by decide +kernel)

end Load

end BrokerGate.Config
