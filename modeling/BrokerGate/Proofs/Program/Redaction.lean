import BrokerGate.Proofs.Config.Redaction
import BrokerGate.Proofs.Program.Run
import BrokerGate.Proofs.Program.Settings

/-! What a run says about a fixed token before anything is asked of anyone. Runs whose layers differ
in the token only say the same, unless the token is no text or is blank, or a document is
refused. -/
namespace BrokerGate.Config
open Value

/-- Layers that differ in one place do so when they are merged. -/
theorem DifferAt.merged {p : List String} {file file' : Value}
    {environment environment' : List (String × String)} (defaults : Value)
    (hfile : DifferAt p file file') (hsorted : file.Sorted) (hsorted' : file'.Sorted)
    (hvariables : DifferAt p (environmentLayer environment) (environmentLayer environment')) :
    DifferAt p (Config.merged defaults file environment)
      (Config.merged defaults file' environment') :=
  ((hfile.merge_right hsorted hsorted' defaults).merge_left (sorted_environmentLayer _)).trans
    (hvariables.merge_right (sorted_environmentLayer _) (sorted_environmentLayer _) _)

end BrokerGate.Config

namespace BrokerGate.Program
open Config Http Yaml

/-- The layer of the file that a command line names. -/
def Place.file (p : Place) (i : Invocation) : Except LoadError Value :=
  fileOf p.files p.current i.config

def Place.load (p : Place) (i : Invocation) : Except LoadError Settings :=
  Config.load p.files p.current i.config p.environment

/-- Two places whose layers, as a command line has them read, differ in the token only. -/
structure TokenApart (p p' : Place) (i : Invocation) : Prop where
  reaches : ∀ path, i.config = some path →
    p.files.reaches p.current path = p'.files.reaches p'.current path
  /-- Files are texts in both places or in none. -/
  texts : ∀ source, p.file i = .error (.notText source) ↔ p'.file i = .error (.notText source)
  files : ∀ file file', p.file i = .ok file → p'.file i = .ok file' → DifferAt tokenPath file file'
  environments : DifferAt tokenPath (environmentLayer p.environment)
    (environmentLayer p'.environment)
  filter : p.value? "RUST_LOG" = p'.value? "RUST_LOG"

/-- The reader of documents has words for a text that is not found in the other place, or a token
that is no text is quoted. -/
def Place.Tells (p p' : Place) (i : Invocation) : LoadError → Prop
  | .notText _ => False
  | .document text source => p'.file i ≠ .error (.document text source)
  | .misfit m => ∃ file, p.file i = .ok file ∧
    m.Quotes (merged Settings.default.toValue file p.environment) tokenPath

def Failure.Tells (p p' : Place) (i : Invocation) : Failure → Prop
  | .layers e => p.Tells p' i e
  | _ => False

/-- Two runs have written the same. -/
structure SameOutput {σ σ' : Type} (r : Report σ) (r' : Report σ') : Prop where
  errorText : ∀ wording, r.errorText wording = r'.errorText wording
  shown : r.shown = r'.shown

section Load
variable {p p' : Place} {i : Invocation} {file file' : Value} {e : LoadError}

theorem TokenApart.symm (h : TokenApart p p' i) : TokenApart p' p i where
  reaches := fun path hpath => (h.reaches path hpath).symm
  texts := fun source => (h.texts source).symm
  files := fun file file' hfile hfile' => (h.files file' file hfile' hfile).symm
  environments := h.environments.symm
  filter := h.filter.symm

/-- Layers that can all be read. -/
theorem TokenApart.load_veiled_of_read (h : TokenApart p p' i) (hfile : p.file i = .ok file)
    (hfile' : p'.file i = .ok file') :
    Veiled (p.Tells p' i) (p'.Tells p i) Settings.redacted (p.load i) (p'.load i) := by
  have hsorted := sorted_fileOf hfile
  have hsorted' := sorted_fileOf hfile'
  have hmerged : DifferAt tokenPath (merged Settings.default.toValue file p.environment)
      (merged Settings.default.toValue file' p'.environment) :=
    (h.files file file' hfile hfile').merged _ hsorted hsorted' h.environments
  have hread := ofValue_veiled hmerged
    ((sorted_default.merge hsorted).merge (sorted_environmentLayer _))
    ((sorted_default.merge hsorted').merge (sorted_environmentLayer _))
  rw [Place.load, Place.load, load_eq hfile, load_eq hfile']
  exact hread.mapError LoadError.misfit (fun m hm => ⟨file, hfile, hm⟩)
    fun m hm => ⟨file', hfile', hm⟩

/-- A file that cannot be read in one place is the same in the other, or its reader has the word. -/
theorem TokenApart.tells_of_unread (h : TokenApart p p' i) (he : p.file i = .error e)
    (hne : p'.file i ≠ .error e) : p.Tells p' i e := by
  rcases error_of_fileOf he with ⟨source, rfl⟩ | ⟨text, source, rfl⟩
  · exact hne ((h.texts source).mp he)
  · exact hne

theorem TokenApart.load_veiled (h : TokenApart p p' i) :
    Veiled (p.Tells p' i) (p'.Tells p i) Settings.redacted (p.load i) (p'.load i) := by
  cases hfile : p.file i with
  | error e =>
    have hload : p.load i = .error e := load_of_error hfile _
    by_cases hsame : p'.file i = .error e
    · exact .of_map (by rw [hload, show p'.load i = .error e from load_of_error hsame _])
    · exact .inl ⟨e, hload, h.tells_of_unread hfile hsame⟩
  | ok file =>
    cases hfile' : p'.file i with
    | error e =>
      have hother : p.file i ≠ .error e := by
        rw [hfile]
        nofun
      exact .inr (.inl ⟨e, load_of_error hfile' _, h.symm.tells_of_unread hfile' hother⟩)
    | ok file' => exact h.load_veiled_of_read hfile hfile'

theorem TokenApart.loadSettings_veiled (h : TokenApart p p' i) :
    Veiled (Failure.Tells p p' i) (Failure.Tells p' p i) Settings.redacted (p.loadSettings i)
      (p'.loadSettings i) := by
  rcases reaches_or_missing p i with hreaches | ⟨path, hpath, hmissing⟩
  · have hreaches' : ∀ path, i.config = some path → p'.files.reaches p'.current path = true :=
      fun path hpath => (h.reaches path hpath).symm.trans (hreaches path hpath)
    rw [loadSettings_eq hreaches, loadSettings_eq hreaches']
    refine (h.load_veiled.mapError Failure.layers (fun e he => he) fun e he => he).map
      fun s s' hs => ?_
    obtain ⟨hport, hhost, hurl, hproxy, htimeout, hsource, hlog⟩ := Settings.mk.inj hs
    simp only [Settings.redacted, hport, hhost, hurl, hproxy, htimeout, hsource, hlog]
  · rw [loadSettings_of_missing hpath hmissing,
      loadSettings_of_missing hpath ((h.reaches path hpath).symm.trans hmissing)]
    exact .of_map rfl

/-- Events are filtered alike. -/
theorem TokenApart.choose_eq (h : TokenApart p p' i) {s s' : Settings}
    (hs : p.loadSettings i = .ok s) (hs' : p'.loadSettings i = .ok s') :
    Log.Filter.choose (p.value? "RUST_LOG") s.log.level =
      Log.Filter.choose (p'.value? "RUST_LOG") s'.log.level := by
  have hveiled := h.loadSettings_veiled
  rw [hs, hs'] at hveiled
  obtain ⟨-, -, -, -, -, -, hlog⟩ := Settings.mk.inj hveiled.of_oks
  rw [h.filter, hlog]

end Load

section Run
variable {σ σ' : Type} {w : World σ} {w' : World σ'} {state : σ} {state' : σ'}
  {args : List String} {i : Invocation} {s s' : Settings}

theorem run_of_unloaded {f : Failure} (hparse : Invocation.parse args = .ok i)
    (h : w.place.loadSettings i = .error f) :
    run w state args = ⟨.failed f, [], [], [], state⟩ := by
  unfold run
  simp only [hparse, h]
  rfl

theorem run_of_invalid {e : GateError} (hparse : Invocation.parse args = .ok i)
    (h : w.place.loadSettings i = .ok s) (he : s.validate = .error e) :
    run w state args = ⟨.failed (.settings e), [], [],
      (Log.Filter.choose (w.place.value? "RUST_LOG") s.log.level).2, state⟩ := by
  have hmake : Plan.make i s = .error e := by
    unfold Plan.make
    rw [he]
    rfl
  unfold run
  simp only [hparse, h, hmake]
  rfl

/-- What two runs say that differ in the token only, until they ask something of anyone. -/
structure Undisclosed (w : World σ) (w' : World σ') (state : σ) (state' : σ')
    (args : List String) (i : Invocation) : Prop where
  refused : ∀ e e', w.place.load i = .error e → w'.place.load i = .error e' →
    (∀ wording, e.message wording = e'.message wording) ∨ w.place.Tells w'.place i e ∨
      w'.place.Tells w.place i e'
  shown : ∀ s s', w.place.load i = .ok s → w'.place.load i = .ok s' →
    s.redacted = s'.redacted ∧ s.debugText = s'.debugText
  judged : ∀ s s' e e', w.place.load i = .ok s → w'.place.load i = .ok s' →
    s.validate = .error e → s'.validate = .error e' →
      e.message = e'.message ∨ BlankFirst s s' e e' ∨ BlankFirst s' s e' e
  /-- Runs that are over before there are settings. -/
  unloaded : ∀ f f', w.place.loadSettings i = .error f → w'.place.loadSettings i = .error f' →
    SameOutput (run w state args) (run w' state' args) ∨ f.Tells w.place w'.place i ∨
      f'.Tells w'.place w.place i
  /-- Where only one of them has settings, the other one tells of its token. -/
  parted : ∀ f s,
    (w.place.loadSettings i = .error f → w'.place.loadSettings i = .ok s →
      f.Tells w.place w'.place i) ∧
    (w.place.loadSettings i = .ok s → w'.place.loadSettings i = .error f →
      f.Tells w'.place w.place i)
  complaints : ∀ s s', w.place.loadSettings i = .ok s → w'.place.loadSettings i = .ok s' →
    (run w state args).complaints = (run w' state' args).complaints
  /-- Runs that are over since their settings are not valid. -/
  invalid : ∀ s s' e e', w.place.loadSettings i = .ok s → w'.place.loadSettings i = .ok s' →
    s.validate = .error e → s'.validate = .error e' →
      SameOutput (run w state args) (run w' state' args) ∨
        BlankFirst s s' e e' ∨ BlankFirst s' s e' e

/-- Nothing that is said of layers that differ in the token only, or that a run says before it asks
anything of anyone, depends on the token, unless the token is no text, which the failure to load it
quotes, or it is blank, which is said before anything is said of the time limit, or the document
that holds it is refused, of which its reader tells in its own words. -/
theorem token_undisclosed (h : TokenApart w.place w'.place i)
    (hparse : Invocation.parse args = .ok i) : Undisclosed w w' state state' args i where
  refused := by
    intro e e' he he'
    have hveiled := h.load_veiled
    rw [he, he'] at hveiled
    refine hveiled.of_errors.imp_left fun heq wording => ?_
    rw [heq]
  shown := by
    intro s s' hs hs'
    have hveiled := h.load_veiled
    rw [hs, hs'] at hveiled
    have hredacted := hveiled.of_oks
    exact ⟨hredacted, by rw [← debugText_redacted, hredacted, debugText_redacted]⟩
  judged := by
    intro s s' e e' hs hs' he he'
    have hveiled := h.load_veiled
    rw [hs, hs'] at hveiled
    exact (validate_redacted hveiled.of_oks he he').imp_left fun heq =>
      congrArg GateError.message heq
  unloaded := by
    intro f f' hf hf'
    have hveiled := h.loadSettings_veiled
    rw [hf, hf'] at hveiled
    refine hveiled.of_errors.imp_left fun heq => ?_
    rw [run_of_unloaded hparse hf, run_of_unloaded hparse hf', heq]
    exact ⟨fun wording => rfl, rfl⟩
  parted := by
    intro f s
    have hveiled := h.loadSettings_veiled
    constructor
    · intro hf hs
      rw [hf, hs] at hveiled
      exact hveiled.of_error_ok
    · intro hs hf
      rw [hs, hf] at hveiled
      exact hveiled.of_ok_error
  complaints := by
    intro s s' hs hs'
    rw [complaints_run state hparse, complaints_run state' hparse, hs, hs']
    exact congrArg Prod.snd (h.choose_eq hs hs')
  invalid := by
    intro s s' e e' hs hs' he he'
    have hveiled := h.loadSettings_veiled
    rw [hs, hs'] at hveiled
    refine (validate_redacted hveiled.of_oks he he').imp_left fun heq => ?_
    rw [run_of_invalid hparse hs he, run_of_invalid hparse hs' he', h.choose_eq hs hs', heq]
    exact ⟨fun wording => rfl, rfl⟩

end Run

/-- One document, some variables, and nobody who answers. -/
def isolated (document : String) (environment : List (String × String)) : World Unit where
  place := ⟨⟨[(["broxy.yaml"], Text.Utf8.ofString document)], []⟩, [], environment⟩
  tokens := ⟨fun _ _ s => (.notStarted "", s), fun request s => (offline none request, s)⟩
  broker := fun client request s =>
    ((offline client.proxy request).mapError ClientError.toGateError, s)
  listen := fun _ => .ok ()

def documentCheck : Invocation := ⟨.check, some "broxy.yaml", none, none, none⟩

theorem lookup_isolated (document : String) (environment : List (String × String)) :
    (isolated document environment).place.files.find? [] "broxy.yaml" =
        some ("broxy.yaml", Text.Utf8.ofString document) ∧
      (isolated document environment).place.files.reaches [] "broxy.yaml" = true := by
  have hsegments : pathSegments "broxy.yaml" = ["broxy.yaml"] := by decide +kernel
  have hfile : namesDirectory "broxy.yaml" = false := by decide +kernel
  have hrelative : isAbsolute "broxy.yaml" = false := by decide +kernel
  have hupward : upward 0 ["broxy.yaml"] = "broxy.yaml" := by decide +kernel
  constructor
  · simp [FileTree.find?, hsegments, hfile, hrelative, findUpward, FileTree.follow?,
      FileTree.isDirectory, FileTree.read?, isolated, hupward]
  · simp [FileTree.reaches, hsegments, hfile, hrelative, FileTree.follow?, FileTree.isDirectory,
      FileTree.read?, isolated]

theorem file_isolated (document : String) (environment : List (String × String)) :
    (isolated document environment).place.file documentCheck =
      textLayer (.file "broxy.yaml") document := by
  have hfound : (isolated document environment).place.file documentCheck =
      fileLayer (isolated document environment).place.files [] "broxy.yaml" := rfl
  rw [hfound, fileLayer, (lookup_isolated document environment).1]
  dsimp only
  rw [Text.Utf8.toString?_ofString]

section Isolated
variable {document document' : String} {environment environment' : List (String × String)}
  {n n' : Node} {events : Nat}

/-- A command line that sets nothing leaves settings as they are loaded. -/
theorem loadSettings_isolated {s : Settings}
    (h : (isolated document environment).place.load documentCheck = .ok s) :
    (isolated document environment).place.loadSettings documentCheck = .ok s := by
  refine loadSettings_eq_ok_iff.mpr ⟨fun path hpath => ?_, s, h, rfl⟩
  cases hpath
  exact (lookup_isolated document environment).2

theorem file_isolated_ne_notText (document : String) (environment : List (String × String))
    (source : Source) :
    (isolated document environment).place.file documentCheck ≠ .error (.notText source) := by
  intro h
  rw [file_isolated, textLayer] at h
  split at h <;> cases h

theorem documentLayer?_of_file_isolated {file : Value}
    (h : (isolated document environment).place.file documentCheck = .ok file) :
    documentLayer? (.file "broxy.yaml") document = some file := by
  rw [file_isolated, textLayer] at h
  split at h
  · next hlayer => exact hlayer.trans (congrArg some (Except.ok.inj h))
  · cases h

/-- Documents whose nodes differ in the token only, readable or not. -/
theorem tokenApart_isolated (hn : Node.ofText? document.toList = some (some (n, events)))
    (hn' : Node.ofText? document'.toList = some (some (n', events)))
    (hnodes : NodesDifferAt tokenPath n n')
    (henvironments : DifferAt tokenPath (environmentLayer environment)
      (environmentLayer environment'))
    (hfilter : (isolated document environment).place.value? "RUST_LOG" =
      (isolated document' environment').place.value? "RUST_LOG") :
    TokenApart (isolated document environment).place (isolated document' environment').place
      documentCheck where
  reaches := by
    intro path hpath
    cases hpath
    exact (lookup_isolated document environment).2.trans
      (lookup_isolated document' environment').2.symm
  texts := fun source => iff_of_false (file_isolated_ne_notText document environment source)
    (file_isolated_ne_notText document' environment' source)
  files := fun file file' hfile hfile' => differAt_documentLayer? hn hn' hnodes
    (documentLayer?_of_file_isolated hfile) (documentLayer?_of_file_isolated hfile')
  environments := henvironments
  filter := hfilter

def plainNode (text : String) : Node := .scalar none text.toList true

def tokenNode (token : Node) : Node :=
  .mapping none [(plainNode "token_source", .mapping none
    [(plainNode "type", plainNode "static"), (plainNode "token", token)])]

theorem nodesDifferAt_tokenNode {token token' : Node} (h : NodesDifferAt [] token token') :
    NodesDifferAt tokenPath (tokenNode token) (tokenNode token') := by
  have hkey : ∀ text, scalarKey? (plainNode text) = some text := by
    intro text
    rw [plainNode, scalarKey?, String.ofList_toList]
  exact .mapping [] [] rfl (hkey _)
    (.mapping [(plainNode "type", plainNode "static")] [] rfl (hkey _) h)

/-- The tag and the text of the token, where a document has nothing else. -/
def tokenOfNode? : Node → Option (Option (List Char) × List Char)
  | .mapping none [(.scalar none source true, .mapping none
      [(.scalar none kind true, .scalar none fixed true),
        (.scalar none key true, .scalar tag token true)])] =>
    if [source, kind, fixed, key] =
        ["token_source", "type", "static", "token"].map String.toList then some (tag, token)
    else none
  | _ => none

theorem eq_of_tokenOfNode? {tag : Option (List Char)} {token : List Char}
    (h : tokenOfNode? n = some (tag, token)) : n = tokenNode (.scalar tag token true) := by
  unfold tokenOfNode? at h
  split at h
  · split at h
    · next htexts =>
      cases h
      simp only [List.map_cons, List.map_nil, List.cons.injEq, and_true] at htexts
      obtain ⟨rfl, rfl, rfl, rfl⟩ := htexts
      rfl
    · cases h
  · cases h

/-- The token of a document, and how many events the document is made of. -/
def tokenOf? (document : String) : Option ((Option (List Char) × List Char) × Nat) :=
  (Node.ofText? document.toList).join.bind fun x => (tokenOfNode? x.1).map (·, x.2)

theorem ofText?_of_tokenOf? {tag : Option (List Char)} {token : List Char}
    (h : tokenOf? document = some ((tag, token), events)) : Node.ofText? document.toList =
      some (some (tokenNode (.scalar tag token true), events)) := by
  obtain ⟨⟨n, k⟩, hn, h⟩ := Option.bind_eq_some_iff.mp h
  obtain ⟨found, hfound, h⟩ := Option.map_eq_some_iff.mp h
  cases h
  rw [← eq_of_tokenOfNode? hfound]
  exact Option.join_eq_some_iff.mp hn

theorem tokenApart_of_tokenOf? {tag tag' : Option (List Char)} {token token' : List Char}
    (hn : tokenOf? document = some ((tag, token), events))
    (hn' : tokenOf? document' = some ((tag', token'), events)) (htag : localTag? tag = none)
    (htag' : localTag? tag' = none)
    (henvironments : DifferAt tokenPath (environmentLayer environment)
      (environmentLayer environment'))
    (hfilter : (isolated document environment).place.value? "RUST_LOG" =
      (isolated document' environment').place.value? "RUST_LOG") :
    TokenApart (isolated document environment).place (isolated document' environment').place
      documentCheck :=
  tokenApart_isolated (ofText?_of_tokenOf? hn) (ofText?_of_tokenOf? hn')
    (nodesDifferAt_tokenNode (.scalar _ _ _ _ htag htag')) henvironments hfilter

theorem variableValue_eq_scalar {text : String} {s : Scalar}
    (h : (variableValue text).found = .scalar s ∧ (variableValue text).source = .environment) :
    variableValue text = scalarOf s := by
  cases hvalue : variableValue text with
  | scalar o t =>
    rw [hvalue] at h
    obtain ⟨hfound, rfl⟩ := h
    cases hfound
    rfl
  | list o items =>
    rw [hvalue] at h
    cases h.1
  | table o es =>
    rw [hvalue] at h
    cases h.1

/-- Default settings with a fixed token. -/
def withToken (token : String) : Settings :=
  { Settings.default with tokenSource := some (.fixed token) }

/-- A broker, and no time for it. -/
def untimedSettings (token : String) : Settings :=
  { withToken token with backendUrl := some "http://b.example", timeoutSecs := some 0 }

def numberDocument : String := "token_source: {type: static, token: 12345678}\n"

def otherDocument : String := "token_source: {type: static, token: 87654321}\n"

def tokenVariable (token : String) : String × String := ("BROXY_TOKEN_SOURCE__TOKEN", token)

def untimedVariables (token : String) : List (String × String) :=
  [("BROXY_BACKEND_URL", "http://b.example"), ("BROXY_TIMEOUT_SECS", "0"), tokenVariable token]

/-- Tokens that are marked as numbers and are none. -/
def markedDocument : String := "token_source: {type: static, token: !!int gamma}\n"

def remarkedDocument : String := "token_source: {type: static, token: !!int delta}\n"

theorem tokenApart_numbers
    (henvironments : DifferAt tokenPath (environmentLayer environment)
      (environmentLayer environment'))
    (hfilter : (isolated numberDocument environment).place.value? "RUST_LOG" =
      (isolated otherDocument environment').place.value? "RUST_LOG") :
    TokenApart (isolated numberDocument environment).place
      (isolated otherDocument environment').place documentCheck := by
  have htoken : tokenOf? numberDocument = some ((none, "12345678".toList), 9) := by decide +kernel
  have htoken' : tokenOf? otherDocument = some ((none, "87654321".toList), 9) := by decide +kernel
  exact tokenApart_of_tokenOf? htoken htoken' rfl rfl henvironments hfilter

theorem tokenApart_marked : TokenApart (isolated markedDocument []).place
    (isolated remarkedDocument []).place documentCheck := by
  have htoken : tokenOf? markedDocument =
      some ((some "tag:yaml.org,2002:int".toList, "gamma".toList), 9) := by decide +kernel
  have htoken' : tokenOf? remarkedDocument =
      some ((some "tag:yaml.org,2002:int".toList, "delta".toList), 9) := by decide +kernel
  exact tokenApart_of_tokenOf? htoken htoken' (by decide +kernel) (by decide +kernel)
    (.same _ (environmentLayer [])) (by decide +kernel)

/-- Tokens that differ in the document, and in a variable that goes before it. -/
theorem token_undisclosed_isolated :
    (isolated numberDocument [tokenVariable "gamma"]).place.load documentCheck =
        .ok (withToken "gamma") ∧
      (isolated otherDocument [tokenVariable "delta"]).place.load documentCheck =
        .ok (withToken "delta") ∧
      (withToken "gamma").debugText = (withToken "delta").debugText ∧
      SameOutput
        (run (isolated numberDocument [tokenVariable "gamma"]) () ["check", "-c", "broxy.yaml"])
        (run (isolated otherDocument [tokenVariable "delta"]) ()
          ["check", "-c", "broxy.yaml"]) := by
  have hvalue : variableValue "gamma" = scalarOf (.text "gamma") :=
    variableValue_eq_scalar (by decide +kernel)
  have hvalue' : variableValue "delta" = scalarOf (.text "delta") :=
    variableValue_eq_scalar (by decide +kernel)
  have hparse : Invocation.parse ["check", "-c", "broxy.yaml"] = .ok documentCheck := by
    decide +kernel
  have henvironments : DifferAt tokenPath (environmentLayer [tokenVariable "gamma"])
      (environmentLayer [tokenVariable "delta"]) :=
    differAt_environmentLayer [] [] (by decide +kernel) hvalue hvalue'
  have hapart := tokenApart_numbers henvironments (by decide +kernel)
  have hsame : Undisclosed (isolated numberDocument [tokenVariable "gamma"])
      (isolated otherDocument [tokenVariable "delta"]) () () ["check", "-c", "broxy.yaml"]
      documentCheck := token_undisclosed hapart hparse
  have hload : ((isolated numberDocument [tokenVariable "gamma"]).place.load
      documentCheck).toOption = some (withToken "gamma") := by decide +kernel
  have hload' : ((isolated otherDocument [tokenVariable "delta"]).place.load
      documentCheck).toOption = some (withToken "delta") := by decide +kernel
  have hmissing : ∀ token, (withToken token).validate =
      .error (.configuration "backend_url is not configured") := fun token => rfl
  have htimed : ∀ token, (withToken token).timeoutSecs ≠ some 0 := fun token => nofun
  have hs := eq_ok_of_toOption hload
  have hs' := eq_ok_of_toOption hload'
  refine ⟨hs, hs', (hsame.shown _ _ hs hs').2, ?_⟩
  rcases hsame.invalid _ _ _ _ (loadSettings_isolated hs) (loadSettings_isolated hs')
    (hmissing _) (hmissing _) with houtput | hblank | hblank
  · exact houtput
  · exact absurd hblank.timeout (htimed _)
  · exact absurd hblank.timeout (htimed _)

/-- A number in the place of a token. -/
def numberMisfit (n : Nat) : Misfit :=
  ⟨["token_source"], .file "broxy.yaml", .type (.scalar (.unsigned n)) "a string"⟩

/-- What is said of it. -/
def numberRefused (number : String) : String :=
  "invalid type: found unsigned int \x60" ++ number ++ "\x60, expected a string for key " ++
    "\"default.token_source\" in broxy.yaml YAML file"

/-- Of a token that is a number the number is told, of a document that is refused its reader tells
what it likes, and of a blank token that it is blank. -/
theorem token_disclosed :
    (∃ e e', TokenApart (isolated numberDocument []).place (isolated otherDocument []).place
        documentCheck ∧
      (isolated numberDocument []).place.load documentCheck = .error e ∧
      (isolated otherDocument []).place.load documentCheck = .error e' ∧
      (∀ wording, e.message wording = numberRefused "12345678" ∧
        e'.message wording = numberRefused "87654321") ∧
      numberRefused "12345678" ≠ numberRefused "87654321") ∧
    (TokenApart (isolated markedDocument []).place (isolated remarkedDocument []).place
        documentCheck ∧
      (isolated markedDocument []).place.load documentCheck =
        .error (.document markedDocument (.file "broxy.yaml")) ∧
      (isolated remarkedDocument []).place.load documentCheck =
        .error (.document remarkedDocument (.file "broxy.yaml"))) ∧
    ∃ e e', TokenApart (isolated numberDocument (untimedVariables "\" \"")).place
        (isolated otherDocument (untimedVariables "secret")).place documentCheck ∧
      (isolated numberDocument (untimedVariables "\" \"")).place.load documentCheck =
        .ok (untimedSettings " ") ∧
      (isolated otherDocument (untimedVariables "secret")).place.load documentCheck =
        .ok (untimedSettings "secret") ∧
      (untimedSettings " ").validate = .error e ∧ (untimedSettings "secret").validate = .error e' ∧
      e.message ≠ e'.message := by
  refine ⟨?_, ?_, ?_⟩
  · have hload : (isolated numberDocument []).place.load documentCheck =
        .error (.misfit (numberMisfit 12345678)) := by decide +kernel
    have hload' : (isolated otherDocument []).place.load documentCheck =
        .error (.misfit (numberMisfit 87654321)) := by decide +kernel
    have hmessage : (numberMisfit 12345678).message = numberRefused "12345678" := by
      decide +kernel
    have hmessage' : (numberMisfit 87654321).message = numberRefused "87654321" := by
      decide +kernel
    exact ⟨_, _, tokenApart_numbers (.same _ (environmentLayer [])) (by decide +kernel), hload,
      hload', fun wording => ⟨hmessage, hmessage'⟩, by decide +kernel⟩
  · exact ⟨tokenApart_marked, by decide +kernel, by decide +kernel⟩
  · have hvalue : variableValue "\" \"" = scalarOf (.text " ") :=
      variableValue_eq_scalar (by decide +kernel)
    have hvalue' : variableValue "secret" = scalarOf (.text "secret") :=
      variableValue_eq_scalar (by decide +kernel)
    have henvironments : DifferAt tokenPath (environmentLayer (untimedVariables "\" \""))
        (environmentLayer (untimedVariables "secret")) :=
      differAt_environmentLayer [_, _] [] (by decide +kernel) hvalue hvalue'
    have hload : ((isolated numberDocument (untimedVariables "\" \"")).place.load
        documentCheck).toOption = some (untimedSettings " ") := by decide +kernel
    have hload' : ((isolated otherDocument (untimedVariables "secret")).place.load
        documentCheck).toOption = some (untimedSettings "secret") := by decide +kernel
    have hblank : (untimedSettings " ").validate =
        .error (.configuration "static token is empty") := by decide +kernel
    have htimeout : (untimedSettings "secret").validate =
        .error (.configuration "timeout_secs must be positive") := by decide +kernel
    exact ⟨_, _, tokenApart_numbers henvironments (by decide +kernel), eq_ok_of_toOption hload,
      eq_ok_of_toOption hload', hblank, htimeout, by decide +kernel⟩

end Isolated

end BrokerGate.Program
