import BrokerGate.Proofs.CommandLine.Parse
import BrokerGate.Proofs.Config.Document
import BrokerGate.Proofs.Config.Variable
import BrokerGate.Proofs.Program.Plan

/-! Where settings come from: the defaults, a file, the environment, and the command line, each
above those before it. -/
namespace BrokerGate.Config
open Entries Value

/-- The layer of a file; no file is as good as one that sets nothing. -/
def fileOf (t : FileTree) (current : List String) (path : Option String) :
    Except LoadError Value :=
  match path with
  | none => .ok (.table .defaults [])
  | some p => fileLayer t current p

/-- All layers, from the lowest to the highest. -/
def merged (defaults file : Value) (environment : List (String × String)) : Value :=
  (defaults.merge file).merge (environmentLayer environment)

/-- How settings come from a file and from variables none of which lies within another. -/
structure Precedence (t : FileTree) (current : List String) (path : Option String) (file : Value)
    (environment : List (String × String)) : Prop where
  loaded : load t current path environment =
    (Settings.ofValue (merged Settings.default.toValue file environment)).mapError .misfit
  fileOverDefaults : Layered Settings.default.toValue file (Settings.default.toValue.merge file)
  variablesOverFile : Layered (Settings.default.toValue.merge file) (environmentLayer environment)
    (merged Settings.default.toValue file environment)
  keySet : ∀ x ∈ environment, ∀ p, variablePath? x.1 = some p →
    (environmentLayer environment).at? p = some (variableValue x.2)
  keyUnset : ∀ p, p ≠ [] → (∀ x ∈ environment, ∀ q, variablePath? x.1 = some q → Apart q p) →
    (environmentLayer environment).Leaves p
  reordered : ∀ environment', environment.Perm environment' →
    load t current path environment' = load t current path environment
  /-- What a file has at a key does not matter if the environment has anything but a table there. -/
  fileHidden : ∀ t' current' path' file' p, fileOf t' current' path' = .ok file' →
    AgreeOff p file file' → ((environmentLayer environment).leaf? p).isSome →
    load t' current' path' environment = load t current path environment
  defaultHidden : ∀ defaults p, defaults.Sorted →
    AgreeBeside p Settings.default.toValue defaults →
    (file.leaf? p).isSome ∨ ((environmentLayer environment).leaf? p).isSome →
    merged defaults file environment = merged Settings.default.toValue file environment

section Load
variable {t : FileTree} {current : List String} {path : Option String} {file : Value}
  {environment : List (String × String)}

theorem sorted_fileOf (h : fileOf t current path = .ok file) : file.Sorted := by
  unfold fileOf at h
  cases path with
  | none =>
    cases h
    exact sorted_empty _
  | some p =>
    dsimp only at h
    unfold fileLayer at h
    split at h
    · cases h
      exact sorted_empty _
    · split at h
      · unfold textLayer at h
        split at h
        · next hdocument =>
          cases h
          exact sorted_documentLayer? hdocument
        · cases h
      · cases h

theorem extract_eq (layers : List Value) : extract layers =
    (Settings.ofValue (layers.foldl Value.merge Settings.default.toValue)).mapError .misfit := by
  unfold extract
  cases Settings.ofValue (layers.foldl Value.merge Settings.default.toValue) <;> rfl

theorem load_eq (h : fileOf t current path = .ok file) (environment : List (String × String)) :
    load t current path environment =
      (Settings.ofValue (merged Settings.default.toValue file environment)).mapError .misfit := by
  have hextract : load t current path environment =
      extract [file, environmentLayer environment] := by
    unfold load
    unfold fileOf at h
    cases path with
    | none =>
      cases h
      rfl
    | some p =>
      dsimp only at h
      simp only [h]
      rfl
  rw [hextract, extract_eq]
  rfl

theorem load_of_error {e : LoadError} (h : fileOf t current path = .error e)
    (environment : List (String × String)) : load t current path environment = .error e := by
  unfold load
  unfold fileOf at h
  cases path with
  | none => cases h
  | some p =>
    dsimp only at h
    simp only [h]
    rfl

theorem error_of_fileOf {e : LoadError} (h : fileOf t current path = .error e) :
    (∃ source, e = .notText source) ∨ ∃ text source, e = .document text source := by
  unfold fileOf at h
  cases path with
  | none => cases h
  | some p =>
    dsimp only at h
    unfold fileLayer at h
    split at h
    · cases h
    · split at h
      · next text _ =>
        unfold textLayer at h
        split at h
        · cases h
        · cases h
          exact .inr ⟨text, _, rfl⟩
      · cases h
        exact .inl ⟨_, rfl⟩

theorem sorted_default : Settings.default.toValue.Sorted := by
  have htext : ∀ s, (scalar .defaults (.text s)).Sorted := fun s => .scalar _ _
  have hlog : LogSettings.default.toValue.Sorted := by
    apply sorted_ofList
    intro e he
    rcases List.mem_pair.mp he with rfl | rfl
    · exact htext "info"
    · exact htext "pretty"
  apply sorted_ofList
  intro e he
  have he : e ∈ [("port", scalar .defaults (.unsigned 8080)),
      ("host", scalar .defaults (.text "127.0.0.1")), ("log", LogSettings.default.toValue)] := he
  simp only [List.mem_cons, List.not_mem_nil, or_false] at he
  rcases he with rfl | rfl | rfl
  · exact .scalar _ _
  · exact htext "127.0.0.1"
  · exact hlog

/-- All layers together are the table of the variables over the entries of the file and of the
defaults. -/
theorem merged_eq (file : Value) (environment : List (String × String)) :
    merged Settings.default.toValue file environment =
      .table .environment (mergeEntries (Settings.default.toValue.merge file).entries
        (environmentLayer environment).entries) := by
  have hkeys := (sorted_environmentLayer environment).ascending
  obtain ⟨es, hlayer⟩ := exists_entries_environmentLayer environment
  rw [hlayer] at hkeys ⊢
  rw [merged, hlayer]
  exact merge_table _ _ hkeys

theorem get?_merged (file : Value) (environment : List (String × String)) (k : String) :
    get? (merged Settings.default.toValue file environment).entries k =
      match get? (environmentLayer environment).entries k with
      | some v => some (overlay (get? (Settings.default.toValue.merge file).entries k) v)
      | none => get? (Settings.default.toValue.merge file).entries k := by
  rw [merged_eq, entries_table]
  refine (get?_mergeEntries (sorted_environmentLayer environment).ascending _ k).trans ?_
  cases get? (environmentLayer environment).entries k <;> rfl

theorem precedence (hfile : fileOf t current path = .ok file) (hsep : Separate environment) :
    Precedence t current path file environment where
  loaded := load_eq hfile environment
  fileOverDefaults := layered_merge _ (sorted_fileOf hfile)
  variablesOverFile := layered_merge _ (sorted_environmentLayer environment)
  keySet := fun x hx p hp => at?_environmentLayer_of_mem hsep hx hp
  keyUnset := fun p hp h => leaves_environmentLayer h hp
  reordered := by
    intro environment' hperm
    rw [load_eq hfile, load_eq hfile, merged, merged, environmentLayer_perm hsep hperm]
  fileHidden := by
    intro t' current' path' file' p hfile' hoff hleaf
    have hsorted := sorted_fileOf hfile
    have hsorted' := sorted_fileOf hfile'
    have hbeside := hoff.merge hsorted hsorted' Settings.default.toValue
    have hmerged : merged Settings.default.toValue file environment =
        merged Settings.default.toValue file' environment :=
      merge_eq_of_hidden (sorted_default.merge hsorted) (sorted_default.merge hsorted')
        (sorted_environmentLayer environment) hbeside hleaf
    rw [load_eq hfile, load_eq hfile', hmerged]
  defaultHidden := by
    intro defaults p hdefaults hbeside hleaf
    have hsorted := sorted_fileOf hfile
    rcases hleaf with hleaf | hleaf
    · rw [merged, merged, merge_eq_of_hidden sorted_default hdefaults hsorted hbeside hleaf]
    · exact (merge_eq_of_hidden (sorted_default.merge hsorted) (hdefaults.merge hsorted)
        (sorted_environmentLayer environment) (hbeside.merge hsorted) hleaf).symm

end Load

end BrokerGate.Config

namespace BrokerGate.Program
open Config Value

/-- What a command line makes of loaded settings. -/
def effective (i : Invocation) (loaded : Settings) : Settings :=
  { loaded with
    backendUrl := i.backendUrl.or loaded.backendUrl
    port := i.port.getD loaded.port
    host := i.host.getD loaded.host }

/-- What a command line asks for, and the settings that are loaded for it. -/
structure LoadedFor (place : Place) (args : List String) (i : Invocation) (loaded : Settings) :
    Prop where
  asked : Invocation.parse args = .ok i
  reached : ∀ path, i.config = some path → place.files.reaches place.current path = true
  loaded : load place.files place.current i.config place.environment = .ok loaded

/-- The command line says where the broker is and, to those who serve, where to listen. All else is
as it was loaded. -/
structure Overridden (place : Place) : Prop where
  loaded : ∀ i s, place.loadSettings i = .ok s ↔
    (∀ path, i.config = some path → place.files.reaches place.current path = true) ∧ ∃ loaded,
      load place.files place.current i.config place.environment = .ok loaded ∧
        s = { loaded with backendUrl := i.backendUrl.or loaded.backendUrl }
  followed : ∀ args p, planned place args = .ok p ↔ ∃ i loaded, LoadedFor place args i loaded ∧
    p.Follows i.verb (effective i loaded)
  refused : ∀ args e, planned place args = .error (.settings e) ↔ ∃ i loaded,
    LoadedFor place args i loaded ∧ ((effective i loaded).validate = .error e ∨
      (effective i loaded).validate = .ok () ∧
        Http.Client.build loaded.proxyUrl loaded.timeoutSecs = .error e)
  checkListensNowhere : ∀ args i, Invocation.parse args = .ok i → i.verb = .check →
    i.port = none ∧ i.host = none

section Planned
variable {place : Place} {args : List String} {i : Invocation} {loaded : Settings}

theorem LoadedFor.loadSettings (h : LoadedFor place args i loaded) : place.loadSettings i =
    .ok { loaded with backendUrl := i.backendUrl.or loaded.backendUrl } :=
  loadSettings_eq_ok_iff.mpr ⟨h.reached, loaded, h.loaded, rfl⟩

theorem LoadedFor.planned_eq (h : LoadedFor place args i loaded) : planned place args =
    (Plan.make i { loaded with backendUrl := i.backendUrl.or loaded.backendUrl }).mapError
      .settings := by
  rw [planned_of_parse h.asked, h.loadSettings]
  rfl

/-- Whatever is made of settings, they were loaded for the command line. -/
theorem exists_loadedFor (result : Except GateError Plan)
    (h : planned place args = result.mapError .settings) :
    ∃ i loaded, LoadedFor place args i loaded := by
  cases hparse : Invocation.parse args with
  | error e =>
    rw [planned, hparse] at h
    cases result <;> cases h
  | ok i =>
    rw [planned_of_parse hparse] at h
    cases hload : place.loadSettings i with
    | error f =>
      rw [hload] at h
      rcases error_of_loadSettings hload with ⟨path, rfl⟩ | ⟨e, rfl⟩
      · cases result <;> cases h
      · cases result <;> cases h
    | ok s =>
      obtain ⟨hreached, loaded, hloaded, -⟩ := loadSettings_eq_ok_iff.mp hload
      exact ⟨i, loaded, hparse, hreached, hloaded⟩

theorem LoadedFor.followed_iff (h : LoadedFor place args i loaded) {p : Plan} :
    planned place args = .ok p ↔ p.Follows i.verb (effective i loaded) := by
  rw [h.planned_eq]
  constructor
  · intro hmake
    exact Plan.make_eq_ok_iff.mp (eq_ok_of_mapError hmake)
  · intro hfollows
    rw [Plan.make_eq_ok_iff.mpr hfollows]
    rfl

theorem LoadedFor.refused_iff (h : LoadedFor place args i loaded) {e : GateError} :
    planned place args = .error (.settings e) ↔ (effective i loaded).validate = .error e ∨
      (effective i loaded).validate = .ok () ∧
        Http.Client.build loaded.proxyUrl loaded.timeoutSecs = .error e := by
  have hmake := Plan.make_eq_error_iff (i := i) (e := e)
    (s := { loaded with backendUrl := i.backendUrl.or loaded.backendUrl })
  rw [h.planned_eq]
  constructor
  · intro h
    obtain ⟨e', he', hsame⟩ := eq_error_of_mapError h
    cases hsame
    exact hmake.mp he'
  · intro hrefused
    rw [hmake.mpr hrefused]
    rfl

theorem overridden (place : Place) : Overridden place where
  loaded := fun i s => loadSettings_eq_ok_iff
  followed := by
    intro args p
    constructor
    · intro h
      obtain ⟨i, loaded, hloaded⟩ := exists_loadedFor (.ok p) h
      exact ⟨i, loaded, hloaded, hloaded.followed_iff.mp h⟩
    · rintro ⟨i, loaded, hloaded, h⟩
      exact hloaded.followed_iff.mpr h
  refused := by
    intro args e
    constructor
    · intro h
      obtain ⟨i, loaded, hloaded⟩ := exists_loadedFor (.error e) h
      exact ⟨i, loaded, hloaded, hloaded.refused_iff.mp h⟩
    · rintro ⟨i, loaded, hloaded, h⟩
      exact hloaded.refused_iff.mpr h
  checkListensNowhere := fun args i h hverb => Invocation.address_of_check h hverb

end Planned

/-- Settings come from the defaults, a file, variables none of which lies within another, and the
command line, and what comes later in this order goes before what comes earlier. -/
theorem settings_precedence (place : Place) {path : Option String} {file : Value}
    (hfile : fileOf place.files place.current path = .ok file)
    (hsep : Separate place.environment) :
    Precedence place.files place.current path file place.environment ∧ Overridden place :=
  ⟨precedence hfile hsep, overridden place⟩

def inherited : List (String × String) :=
  [("BROXY_PORT", "9090"), ("BROXY_LOG__LEVEL", "debug"), ("HOME", "/")]

/-- A place with one file. -/
def furnished (text : String) : Place :=
  ⟨⟨[(["broxy.yaml"], Text.Utf8.ofString text)], []⟩, [], inherited⟩

/-- A file whose only key is the port. -/
theorem fileOf_furnished (text : String)
    (h : (fileOf (furnished text).files [] (some "broxy.yaml")).toOption.map
      (fun v => (v.isTable, v.entries.map Prod.fst)) = some (true, ["port"])) :
    ∃ file, fileOf (furnished text).files [] (some "broxy.yaml") = .ok file ∧
      file.isTable = true ∧ ∀ k, k ≠ "port" → Entries.get? file.entries k = none := by
  obtain ⟨file, hfile, hshape⟩ := Option.map_eq_some_iff.mp h
  obtain ⟨htable, hkeys⟩ := Prod.mk.inj hshape
  refine ⟨file, eq_ok_of_toOption hfile, htable, fun k hk => ?_⟩
  apply Entries.get?_eq_none_of_not_mem
  rw [hkeys]
  simpa using hk

/-- Variables for all that a run needs. -/
def complete : Place :=
  ⟨⟨[], []⟩, [], [("BROXY_PORT", "9090"), ("BROXY_BACKEND_URL", "http://a.example"),
    ("BROXY_TOKEN_SOURCE__TYPE", "static"), ("BROXY_TOKEN_SOURCE__TOKEN", "tok")]⟩

/-- What the variables come to. -/
def completed : Settings :=
  ⟨9090, "127.0.0.1", some "http://a.example", none, none, some (.fixed "tok"), .default⟩

/-- A command line with all that it can override. -/
def insisting : List String :=
  ["serve", "--port", "7000", "--host", "0.0.0.0", "--backend-url", "http://b.example"]

def insisted : Invocation := ⟨.serve, none, some 7000, some "0.0.0.0", some "http://b.example"⟩

theorem loadedFor_complete : LoadedFor complete insisting insisted completed ∧
    LoadedFor complete ["serve"] (.ofVerb .serve) completed := by
  have hload : (load complete.files complete.current none complete.environment).toOption =
      some completed := by decide +kernel
  exact ⟨⟨by decide +kernel, nofun, eq_ok_of_toOption hload⟩,
    ⟨by decide +kernel, nofun, eq_ok_of_toOption hload⟩⟩

theorem settings_precedence_furnished :
    load (furnished "port: 80").files [] (some "broxy.yaml") inherited =
        .ok { Settings.default with port := 9090, log := ⟨"debug", .pretty⟩ } ∧
      load (furnished "port: 80").files [] (some "broxy.yaml") inherited.reverse =
        load (furnished "port: 80").files [] (some "broxy.yaml") inherited ∧
      load (furnished "port: many").files [] (some "broxy.yaml") inherited =
        load (furnished "port: 80").files [] (some "broxy.yaml") inherited ∧
      (∃ p, planned complete insisting = .ok p ∧ p.verb = .serve ∧
        Endpoint.parse "http://b.example" = .ok p.backend ∧ p.client = ⟨none, none⟩ ∧
        p.tokens = .fixed "tok" ∧ p.address = "0.0.0.0:7000") ∧
      ∃ p, planned complete ["serve"] = .ok p ∧ p.verb = .serve ∧
        Endpoint.parse "http://a.example" = .ok p.backend ∧ p.client = ⟨none, none⟩ ∧
        p.tokens = .fixed "tok" ∧ p.address = "127.0.0.1:9090" := by
  obtain ⟨file, hfile, htable, hothers⟩ := fileOf_furnished "port: 80" (by decide +kernel)
  obtain ⟨file', hfile', htable', hothers'⟩ := fileOf_furnished "port: many" (by decide +kernel)
  have hsep : Separate inherited :=
    separate_of_paths [some ["port"], some ["log", "level"], none] (by decide +kernel)
      (by simp [Apart])
  have hcomplete : Separate complete.environment :=
    separate_of_paths [some ["port"], some ["backend_url"], some ["token_source", "type"],
      some ["token_source", "token"]] (by decide +kernel) (by simp [Apart])
  obtain ⟨hprecedence, -⟩ := settings_precedence (furnished "port: 80") hfile hsep
  have hloaded : (load (furnished "port: 80").files [] (some "broxy.yaml") inherited).toOption =
      some { Settings.default with port := 9090, log := ⟨"debug", .pretty⟩ } := by decide +kernel
  have hset : ((environmentLayer inherited).leaf? ["port"]).isSome := by decide +kernel
  have hoff : AgreeOff ["port"] file file' :=
    agreeOff_of_get? htable htable' fun k hk => (hothers k hk).trans (hothers' k hk).symm
  have hnone : fileOf complete.files complete.current none = .ok (.table .defaults []) := rfl
  obtain ⟨-, hoverridden⟩ := settings_precedence complete hnone hcomplete
  have hplan (args : List String) (i : Invocation) (h : LoadedFor complete args i completed)
      (hvalid : (effective i completed).validate.toOption = some ()) : ∃ p,
      planned complete args = .ok p ∧ p.Follows i.verb (effective i completed) := by
    have hvalid := eq_ok_of_toOption hvalid
    obtain ⟨backend, hbackend⟩ := endpoint_of_validate hvalid
    have hfollows : Plan.Follows ⟨i.verb, backend, ⟨none, none⟩, .fixed "tok",
        (effective i completed).listenAddress⟩ i.verb (effective i completed) :=
      ⟨hvalid, rfl, hbackend, rfl, rfl, rfl⟩
    exact ⟨_, (hoverridden.followed args _).mpr ⟨i, completed, h, hfollows⟩, hfollows⟩
  obtain ⟨p, hp, hfollows⟩ := hplan _ _ loadedFor_complete.1 (by decide +kernel)
  obtain ⟨q, hq, hfollows'⟩ := hplan _ _ loadedFor_complete.2 (by decide +kernel)
  refine ⟨eq_ok_of_toOption hloaded, hprecedence.reordered _ (List.reverse_perm _).symm,
    hprecedence.fileHidden _ _ _ file' ["port"] hfile' hoff hset, ?_, ?_⟩
  · refine ⟨p, hp, hfollows.verb, hfollows.backend, ?_, ?_, hfollows.address⟩
    · exact (Except.ok.inj hfollows.client).symm
    · exact (Option.some.inj hfollows.tokens).symm
  · refine ⟨q, hq, hfollows'.verb, hfollows'.backend, ?_, ?_, hfollows'.address⟩
    · exact (Except.ok.inj hfollows'.client).symm
    · exact (Option.some.inj hfollows'.tokens).symm

end BrokerGate.Program
