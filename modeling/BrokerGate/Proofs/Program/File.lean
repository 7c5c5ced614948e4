import BrokerGate.Proofs.Program.Settings

/-! The file that a command line names. Where a path leads to a file, settings come from that file,
and where it leads to nothing there are none. A directory at its end is passed over as if it were
not there, so that settings may come from a file above it, or from no file at all. -/
namespace BrokerGate.Config
open Text

/-- A directory and all that it lies in, from the inside out. -/
def enclosing (current : List String) : List (List String) :=
  current.reverse.tails.map List.reverse

theorem enclosing_eq (current : List String) :
    enclosing current = current :: (enclosing current).tail := by
  have htails : ∀ dirs : List String, dirs.tails = dirs :: dirs.tails.tail := by
    intro dirs
    cases dirs <;> rfl
  rw [enclosing, htails, List.map_cons, List.reverse_reverse, List.tail_cons]

namespace FileTree

/-- The file that a path itself leads to. -/
def fileAt? (t : FileTree) (current : List String) (path : String) : Option Utf8.Bytes :=
  if namesDirectory path then none
  else (t.follow? (if isAbsolute path then [] else current) (pathSegments path)).bind t.read?

/-- The nearest file that a relative path leads to from a directory around the current one. -/
def fileAbove? (t : FileTree) (current : List String) (path : String) : Option Utf8.Bytes :=
  if isAbsolute path then none
  else (enclosing current).tail.findSome? fun dir => t.fileAt? dir path

section Lookup
variable {t : FileTree} {current : List String} {path : String}

theorem findUpward_eq (segments : List String) (ups : Nat) (dirs : List String) :
    (findUpward t segments ups dirs).map Prod.snd =
      (dirs.tails.map List.reverse).findSome? fun dir =>
        (t.follow? dir segments).bind t.read? := by
  induction dirs generalizing ups with
  | nil =>
    rw [findUpward, List.tails, List.map_singleton, List.reverse_nil, List.findSome?_singleton]
    cases (t.follow? [] segments).bind t.read? <;> rfl
  | cons here above ih =>
    rw [findUpward, List.tails, List.map_cons, List.findSome?_cons, ← ih (ups + 1)]
    cases (t.follow? (here :: above).reverse segments).bind t.read? <;> rfl

/-- A look-up takes the file at the path and otherwise the nearest one above. -/
theorem find?_eq (t : FileTree) (current : List String) (path : String) :
    (t.find? current path).map Prod.snd =
      (t.fileAt? current path).or (t.fileAbove? current path) := by
  unfold find? fileAbove?
  dsimp only
  by_cases hdirectory : namesDirectory path = true
  · have hnone : ∀ dir, t.fileAt? dir path = none := fun dir => by
      rw [fileAt?, if_pos hdirectory]
    rw [if_pos hdirectory, hnone, Option.map_none, Option.none_or]
    split
    · rfl
    · exact (List.findSome?_eq_none_iff.mpr fun dir _ => hnone dir).symm
  · rw [if_neg hdirectory]
    by_cases habsolute : isAbsolute path = true
    · rw [if_pos habsolute, if_pos habsolute, Option.or_none, fileAt?, if_neg hdirectory,
        if_pos habsolute]
      cases (t.follow? [] (pathSegments path)).bind t.read? <;> rfl
    · have hat : (fun dir => t.fileAt? dir path) = fun dir =>
          (t.follow? dir (pathSegments path)).bind t.read? := by
        funext dir
        rw [fileAt?, if_neg hdirectory, if_neg habsolute]
      rw [if_neg habsolute, if_neg habsolute, findUpward_eq, ← hat, ← enclosing, enclosing_eq,
        List.findSome?_cons, List.tail_cons]
      cases t.fileAt? current path <;> rfl

/-- What is at the end of a path is there. -/
theorem reaches_of_fileAt? {bytes : Utf8.Bytes} (h : t.fileAt? current path = some bytes) :
    t.reaches current path = true := by
  unfold fileAt? at h
  split at h
  · cases h
  · next hdirectory =>
    obtain ⟨p, hp, hbytes⟩ := Option.bind_eq_some_iff.mp h
    have hpath : path ≠ "" := by
      rintro rfl
      exact hdirectory (by decide +kernel)
    simp [reaches, hp, hpath, hdirectory, hbytes]

end Lookup

end FileTree

/-- What the bytes of a file are read as. -/
def contentLayer (shown : String) (bytes : Utf8.Bytes) : Except LoadError Value :=
  match Utf8.toString? bytes with
  | some text => textLayer (.file shown) text
  | none => .error (.notText (.file shown))

section Layer
variable {t : FileTree} {current : List String} {path : String}

theorem fileLayer_of_found {bytes : Utf8.Bytes}
    (h : (t.fileAt? current path).or (t.fileAbove? current path) = some bytes) :
    ∃ shown, fileLayer t current path = contentLayer shown bytes := by
  rw [← t.find?_eq, Option.map_eq_some_iff] at h
  obtain ⟨⟨shown, _⟩, hfind, rfl⟩ := h
  refine ⟨shown, ?_⟩
  rw [fileLayer, hfind]
  rfl

theorem fileLayer_of_none
    (h : (t.fileAt? current path).or (t.fileAbove? current path) = none) :
    fileLayer t current path = .ok (.table .defaults []) := by
  rw [← t.find?_eq, Option.map_eq_none_iff] at h
  rw [fileLayer, h]

end Layer

end BrokerGate.Config

namespace BrokerGate.Program
open Config

/-- Settings of a command line with a given layer between the defaults and the environment. -/
def Place.settingsOver (p : Place) (i : Invocation) (file : Except LoadError Value) :
    Except Failure Settings := do
  let file ← file.mapError .layers
  let s ← (extract [file, environmentLayer p.environment]).mapError .layers
  return { s with backendUrl := i.backendUrl.or s.backendUrl }

/-- Settings come from the file that a path leads to, or there are none. -/
def Place.Faithful (p : Place) (i : Invocation) (path : String) : Prop :=
  ∀ s, p.loadSettings i = .ok s → ∃ bytes shown, p.files.fileAt? p.current path = some bytes ∧
    p.loadSettings i = p.settingsOver i (contentLayer shown bytes)

/-- Which file a command line that names `path` takes its settings from. -/
structure FileTaken (p : Place) (i : Invocation) (path : String) : Prop where
  absent : p.files.reaches p.current path = false → p.loadSettings i = .error (.fileMissing path)
  present : ∀ bytes, p.files.fileAt? p.current path = some bytes →
    ∃ shown, p.loadSettings i = p.settingsOver i (contentLayer shown bytes)
  /-- What is no file gives way to the nearest file above. -/
  above : p.files.reaches p.current path = true → p.files.fileAt? p.current path = none →
    ∀ bytes, p.files.fileAbove? p.current path = some bytes →
      ∃ shown, p.loadSettings i = p.settingsOver i (contentLayer shown bytes)
  nowhere : p.files.reaches p.current path = true → p.files.fileAt? p.current path = none →
    p.files.fileAbove? p.current path = none →
      p.loadSettings i = p.settingsOver i (.ok (.table .defaults []))
  faithful_iff : p.Faithful i path ↔
    (∃ bytes, p.files.fileAt? p.current path = some bytes) ∨ ∃ f, p.loadSettings i = .error f

section File
variable {p : Place} {i : Invocation} {path : String}

theorem loadSettings_of_reaches (hpath : i.config = some path)
    (h : p.files.reaches p.current path = true) :
    p.loadSettings i = p.settingsOver i (fileLayer p.files p.current path) := by
  unfold Place.loadSettings Place.loadSettings.loaded Place.settingsOver load
  rw [hpath]
  simp only [h, if_true]
  cases fileLayer p.files p.current path with
  | error e => rfl
  | ok file =>
    have hlayers : extract ([file] ++ [environmentLayer p.environment]) =
      extract [file, environmentLayer p.environment] := rfl
    simp only [Except.map, Except.mapError, bind, Except.bind, hlayers]
    cases extract [file, environmentLayer p.environment] <;> rfl

/-- Settings come from the file at the path that a command line names, from the nearest one above if
there is a directory in its place, and from no file if there is none above. So they come from the
named file, if from any, unless the path leads to a directory and there are settings without it. -/
theorem fileTaken (hpath : i.config = some path) : FileTaken p i path := by
  have hpresent : ∀ bytes, p.files.fileAt? p.current path = some bytes →
      ∃ shown, p.loadSettings i = p.settingsOver i (contentLayer shown bytes) := by
    intro bytes hat
    have hfound : (p.files.fileAt? p.current path).or (p.files.fileAbove? p.current path) =
        some bytes := by rw [hat, Option.some_or]
    obtain ⟨shown, hlayer⟩ := fileLayer_of_found hfound
    rw [loadSettings_of_reaches hpath (FileTree.reaches_of_fileAt? hat), hlayer]
    exact ⟨shown, rfl⟩
  refine ⟨loadSettings_of_missing hpath, hpresent, ?_, ?_, ?_⟩
  · intro hreaches hat bytes habove
    have hfound : (p.files.fileAt? p.current path).or (p.files.fileAbove? p.current path) =
        some bytes := by rw [hat, Option.none_or, habove]
    obtain ⟨shown, hlayer⟩ := fileLayer_of_found hfound
    rw [loadSettings_of_reaches hpath hreaches, hlayer]
    exact ⟨shown, rfl⟩
  · intro hreaches hat habove
    rw [loadSettings_of_reaches hpath hreaches,
      fileLayer_of_none (by rw [hat, Option.none_or, habove])]
  · constructor
    · intro hfaithful
      cases hload : p.loadSettings i with
      | error f => exact .inr ⟨f, rfl⟩
      | ok s =>
        obtain ⟨bytes, _, hat, -⟩ := hfaithful s hload
        exact .inl ⟨bytes, hat⟩
    · rintro (⟨bytes, hat⟩ | ⟨f, hload⟩) s hs
      · obtain ⟨shown, hsettings⟩ := hpresent bytes hat
        exact ⟨bytes, shown, hat, hsettings⟩
      · rw [hload] at hs
        cases hs

end File

/-- A directory `conf` in the current directory `srv`, and a file of the same name above it. -/
def crowded : Place where
  files := ⟨[(["srv", "conf", "broxy.yaml"], Text.Utf8.ofString "port: 1"),
    (["conf"], Text.Utf8.ofString "port: 2"), (["srv", "own"], Text.Utf8.ofString "port: 3")], []⟩
  current := ["srv"]
  environment := []

def checkOf (path : String) : Invocation := ⟨.check, some path, none, none, none⟩

theorem fileTaken_crowded :
    crowded.Faithful (checkOf "own") "own" ∧
      crowded.loadSettings (checkOf "none") = .error (.fileMissing "none") := by
  have hown : FileTaken crowded (checkOf "own") "own" := fileTaken rfl
  have hnone : FileTaken crowded (checkOf "none") "none" := fileTaken rfl
  have hat : ∃ bytes, crowded.files.fileAt? crowded.current "own" = some bytes :=
    Option.isSome_iff_exists.mp (by decide +kernel)
  exact ⟨hown.faithful_iff.mpr (.inl hat), hnone.absent (by decide +kernel)⟩

/-- A directory is passed over for a file above it, or for none. -/
theorem directory_passed_over :
    (crowded.loadSettings (checkOf "conf")).toOption = some { Settings.default with port := 2 } ∧
      ¬ crowded.Faithful (checkOf "conf") "conf" ∧
      (crowded.loadSettings (checkOf "/srv/conf")).toOption = some Settings.default ∧
      ¬ crowded.Faithful (checkOf "/srv/conf") "/srv/conf" := by
  have habove : (crowded.loadSettings (checkOf "conf")).toOption =
      some { Settings.default with port := 2 } := by decide +kernel
  have hnowhere : (crowded.loadSettings (checkOf "/srv/conf")).toOption =
      some Settings.default := by decide +kernel
  have hunfaithful : ∀ path s, (crowded.loadSettings (checkOf path)).toOption = some s →
      crowded.files.fileAt? crowded.current path = none →
        ¬ crowded.Faithful (checkOf path) path := by
    intro path s hs hat hfaithful
    obtain ⟨bytes, _, hsome, -⟩ := hfaithful s (eq_ok_of_toOption hs)
    rw [hat] at hsome
    cases hsome
  exact ⟨habove, hunfaithful _ _ habove (by decide +kernel), hnowhere,
    hunfaithful _ _ hnowhere (by decide +kernel)⟩

end BrokerGate.Program
