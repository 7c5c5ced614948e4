import BrokerGate.Proofs.Config.TextKey

/-! Settings told by keys. Reading goes through the entries of a table one after another; what it
gives is settled by what stands at the keys that it knows, with a default for each key that is
absent, and by nothing else. -/
namespace BrokerGate.Config
open Entries Value

/-- What a key gives: what its value holds, or what is taken in its absence. -/
def Entries.Gives {α : Type} (es : Entries) (key : String) (holds : Value → α → Prop)
    (absent a : α) : Prop :=
  match get? es key with
  | some v => holds v a
  | none => a = absent

def Reads {ε α : Type} (read : Value → Except ε α) (v : Value) (a : α) : Prop := read v = .ok a

structure LogRead (es : Entries) (l : LogSettings) : Prop where
  level : es.Gives "level" (Reads readString) "info" l.level
  format : es.Gives "format" (Reads readFormat) .pretty l.format

structure SettingsRead (es : Entries) (s : Settings) : Prop where
  port : es.Gives "port" (Reads (readNumber "u16" maxPort)) 8080 s.port
  host : es.Gives "host" (Reads readString) "127.0.0.1" s.host
  backendUrl : es.Gives "backend_url" (Reads (readOption readString)) none s.backendUrl
  proxyUrl : es.Gives "proxy_url" (Reads (readOption readString)) none s.proxyUrl
  timeoutSecs : es.Gives "timeout_secs" (Reads (readOption (readNumber "u64" maxSeconds))) none
    s.timeoutSecs
  tokenSource : es.Gives "token_source" (Reads (readOption (readToken true))) none s.tokenSource
  log : es.Gives "log" (Reads readLog) .default s.log

/-- A text, for a field that has to be there. -/
def heldText (v : Value) : Except Mismatch (Option String) := (heldString v).map some

def TokenSettings.kind : TokenSettings → TokenKind
  | .fixed _ => .fixed
  | .command _ _ => .command
  | .metadata _ => .metadata

/-- A token source out of the keys that belong to its kind, with other fields in the place of those
that are absent. -/
inductive SourceRead (es : Entries) (below : TokenFields) : TokenSettings → Prop
  | fixed {token : String} (htoken : es.Gives "token" (Reads heldText) below.token (some token)) :
    SourceRead es below (.fixed token)
  | command {program : String} {args : List String}
    (hprogram : es.Gives "command" (Reads heldText) below.program (some program))
    (hargs : es.Gives "args" (Reads heldStrings) below.args args) :
    SourceRead es below (.command program args)
  | metadata {url : Option String} (hurl : es.Gives "url" (Reads heldOption) below.url url) :
    SourceRead es below (.metadata url)

structure TokenRead (byIndex : Bool) (es : Entries) (source : TokenSettings) : Prop where
  kind : ∃ v, get? es "type" = some v ∧ readTokenKind byIndex v = .ok source.kind
  narrow : ∀ e ∈ es, e.1 ≠ "type" → Config.narrow e.2 = .ok ()
  source : SourceRead es {} source

section Keys
variable {ε σ α : Type} {step : σ → String × Value → Except ε σ} {es : Entries}
  {keys : List String} {key : String} {holds : Value → α → Prop} {absent : α} {a b : σ}

theorem gives_of_some {x : α} {v : Value} (h : get? es key = some v) :
    es.Gives key holds absent x ↔ holds v x := by
  rw [Gives, h]

theorem gives_of_none {x : α} (h : get? es key = none) :
    es.Gives key holds absent x ↔ x = absent := by
  rw [Gives, h]

theorem gives_congr {es' : Entries} {x : α} (h : get? es' key = get? es key)
    (hgives : es.Gives key holds absent x) : es'.Gives key holds absent x := by
  rw [Gives, h]
  exact hgives

/-- The step of a fold for the entry of a key, if there is one. -/
def stepAt (es : Entries) (step : σ → String × Value → Except ε σ) (a : σ) (key : String) :
    Except ε σ :=
  match get? es key with
  | some v => step a (key, v)
  | none => .ok a

/-- The entries of some keys, in their order. -/
def entriesOf? (es : Entries) (keys : List String) : Entries :=
  keys.filterMap fun k => (get? es k).map fun v => (k, v)

theorem foldlM_entriesOf? (keys : List String) (a : σ) :
    (entriesOf? es keys).foldlM step a = keys.foldlM (stepAt es step) a := by
  induction keys generalizing a with
  | nil => rfl
  | cons k keys ih =>
    rw [List.foldlM_cons, stepAt, entriesOf?, List.filterMap_cons]
    cases get? es k with
    | none => exact ih a
    | some v =>
      rw [Option.map_some, List.foldlM_cons]
      dsimp only
      cases step a (k, v) with
      | error e => rfl
      | ok c => exact ih c

theorem foldlM_filter (hother : ∀ a e, e.1 ∉ keys → step a e = .ok a) (es : Entries) (a : σ) :
    es.foldlM step a = (es.filter fun e => e.1 ∈ keys).foldlM step a := by
  induction es generalizing a with
  | nil => rfl
  | cons e es ih =>
    by_cases he : e.1 ∈ keys
    · rw [List.filter_cons_of_pos (by simpa using he), List.foldlM_cons, List.foldlM_cons]
      cases step a e with
      | error e => rfl
      | ok c => exact ih c
    · rw [List.filter_cons_of_neg (by simpa using he), List.foldlM_cons, hother a e he]
      exact ih a

theorem get?_filter (es : Entries) (key : String) :
    get? (es.filter fun e => e.1 ∈ keys) key = if key ∈ keys then get? es key else none := by
  induction es with
  | nil => simp [get?]
  | cons e es ih =>
    by_cases he : e.1 ∈ keys
    · rw [List.filter_cons_of_pos (by simpa using he), get?_cons, get?_cons, ih]
      split_ifs with h1 h2 <;> simp_all
    · rw [List.filter_cons_of_neg (by simpa using he), get?_cons, ih]
      split_ifs with h1 h2 <;> simp_all

theorem get?_entriesOf? (es : Entries) (keys : List String) (key : String) :
    get? (entriesOf? es keys) key = if key ∈ keys then get? es key else none := by
  induction keys with
  | nil => rfl
  | cons k keys ih =>
    rw [entriesOf?, List.filterMap_cons]
    by_cases hk : k = key
    · subst hk
      cases hget : get? es k with
      | none =>
        change get? (entriesOf? es keys) k = _
        rw [ih, hget]
        simp
      | some v =>
        rw [Option.map_some, get?_cons]
        simp
    · have hcons : get? (entriesOf? es keys) key =
          if key ∈ k :: keys then get? es key else none := by
        rw [ih]
        simp [Ne.symm hk]
      cases get? es k with
      | none => exact hcons
      | some v =>
        rw [Option.map_some, get?_cons, if_neg hk]
        exact hcons

theorem ascending_entriesOf? (h : keys.Pairwise (· < ·)) (es : Entries) :
    Ascending (entriesOf? es keys) := by
  refine h.filterMap _ fun j k hjk e he f hf => ?_
  obtain ⟨_, -, rfl⟩ := Option.map_eq_some_iff.mp he
  obtain ⟨_, -, rfl⟩ := Option.map_eq_some_iff.mp hf
  exact hjk

/-- A fold that passes over all but some keys looks these up one after another. -/
theorem foldlM_eq_keys (hkeys : keys.Pairwise (· < ·))
    (hother : ∀ a e, e.1 ∉ keys → step a e = .ok a) (hes : Ascending es) (a : σ) :
    es.foldlM step a = keys.foldlM (stepAt es step) a := by
  have hentries : es.filter (fun e => e.1 ∈ keys) = entriesOf? es keys := by
    refine Entries.ext (hes.filter _) (ascending_entriesOf? hkeys es) fun key => ?_
    rw [get?_filter, get?_entriesOf?]
  rw [foldlM_filter hother, hentries, foldlM_entriesOf?]

/-- A step that sets one thing sets what its key gives. -/
theorem stepAt_eq_ok_iff {f : α → σ}
    (hstep : ∀ v, step a (key, v) = .ok b ↔ ∃ x, holds v x ∧ b = f x) (habsent : f absent = a) :
    stepAt es step a key = .ok b ↔ ∃ x, es.Gives key holds absent x ∧ b = f x := by
  rw [stepAt]
  unfold Gives
  cases get? es key with
  | some v => exact hstep v
  | none =>
    constructor
    · intro h
      exact ⟨absent, rfl, (Except.ok.inj h).symm.trans habsent.symm⟩
    · rintro ⟨x, rfl, rfl⟩
      exact congrArg Except.ok habsent.symm

theorem map_readKey_eq_ok_iff {read : Value → Read α} {set : α → σ} {v : Value} :
    (readKey key read v).map set = .ok b ↔ ∃ x, Reads read v x ∧ b = set x := by
  unfold readKey Reads
  cases read v with
  | error m =>
    constructor
    · intro h
      cases h
    · rintro ⟨_, h, -⟩
      cases h
  | ok x =>
    constructor
    · intro h
      exact ⟨x, rfl, (Except.ok.inj h).symm⟩
    · rintro ⟨_, h, rfl⟩
      cases h
      rfl

end Keys

section Log
variable {es : Entries} {l : LogSettings} {o : Source}

def logKeys : List String := ["format", "level"]

theorem readLogEntry_other (l : LogSettings) (e : String × Value) (h : e.1 ∉ logKeys) :
    readLogEntry l e = .ok l := by
  unfold readLogEntry
  split
  case h_3 => rfl
  all_goals
    next heq => exact absurd (heq ▸ by decide) h

theorem readLog_eq_ok_iff (hes : Ascending es) :
    readLog (.table o es) = .ok l ↔ LogRead es l := by
  have hfold : readLog (.table o es) = logKeys.foldlM (stepAt es readLogEntry) .default :=
    foldlM_eq_keys (by decide) readLogEntry_other hes _
  rw [hfold]
  have hformat (b : LogSettings) : stepAt es readLogEntry .default "format" = .ok b ↔
      ∃ f, es.Gives "format" (Reads readFormat) .pretty f ∧ b = ⟨"info", f⟩ :=
    stepAt_eq_ok_iff (fun _ => map_readKey_eq_ok_iff) rfl
  have hlevel (f : LogFormat) (b : LogSettings) : stepAt es readLogEntry ⟨"info", f⟩ "level" =
      .ok b ↔ ∃ x, es.Gives "level" (Reads readString) "info" x ∧ b = ⟨x, f⟩ :=
    stepAt_eq_ok_iff (fun _ => map_readKey_eq_ok_iff) rfl
  simp only [logKeys, List.foldlM_cons, List.foldlM_nil, bind_eq_ok, hformat]
  constructor
  · rintro ⟨_, ⟨f, hf, rfl⟩, _, hset, heq⟩
    obtain ⟨x, hx, rfl⟩ := (hlevel _ _).mp hset
    cases heq
    exact ⟨hx, hf⟩
  · intro h
    exact ⟨_, ⟨_, h.format, rfl⟩, l, (hlevel _ _).mpr ⟨_, h.level, rfl⟩, rfl⟩

end Log

section Settings
variable {es : Entries} {s : Settings} {o : Source}

def settingsKeys : List String :=
  ["backend_url", "host", "log", "port", "proxy_url", "timeout_secs", "token_source"]

theorem readEntry_other (s : Settings) (e : String × Value) (h : e.1 ∉ settingsKeys) :
    readEntry s e = .ok s := by
  obtain ⟨key, v⟩ := e
  unfold readEntry
  dsimp only at h ⊢
  split
  case h_8 => rfl
  all_goals exact absurd (by decide) h

theorem ofValue_eq_ok_iff (hes : Ascending es) :
    Settings.ofValue (.table o es) = .ok s ↔ SettingsRead es s := by
  have hfold : Settings.ofValue (.table o es) =
      settingsKeys.foldlM (stepAt es readEntry) .default :=
    foldlM_eq_keys (by decide) readEntry_other hes _
  rw [hfold]
  simp only [settingsKeys, List.foldlM_cons, List.foldlM_nil, bind_eq_ok]
  -- each key is looked up while what it sets still has its default
  have hbackend (a b : Settings) (ha : a.backendUrl = none) :
      stepAt es readEntry a "backend_url" = .ok b ↔ ∃ x,
        es.Gives "backend_url" (Reads (readOption readString)) none x ∧
          b = { a with backendUrl := x } :=
    stepAt_eq_ok_iff (fun _ => map_readKey_eq_ok_iff) (by rw [← ha])
  have hhost (a b : Settings) (ha : a.host = "127.0.0.1") :
      stepAt es readEntry a "host" = .ok b ↔ ∃ x,
        es.Gives "host" (Reads readString) "127.0.0.1" x ∧ b = { a with host := x } :=
    stepAt_eq_ok_iff (fun _ => map_readKey_eq_ok_iff) (by rw [← ha])
  have hlog (a b : Settings) (ha : a.log = .default) :
      stepAt es readEntry a "log" = .ok b ↔ ∃ x,
        es.Gives "log" (Reads readLog) .default x ∧ b = { a with log := x } :=
    stepAt_eq_ok_iff (fun _ => map_readKey_eq_ok_iff) (by rw [← ha])
  have hport (a b : Settings) (ha : a.port = 8080) :
      stepAt es readEntry a "port" = .ok b ↔ ∃ x,
        es.Gives "port" (Reads (readNumber "u16" maxPort)) 8080 x ∧ b = { a with port := x } :=
    stepAt_eq_ok_iff (fun _ => map_readKey_eq_ok_iff) (by rw [← ha])
  have hproxy (a b : Settings) (ha : a.proxyUrl = none) :
      stepAt es readEntry a "proxy_url" = .ok b ↔ ∃ x,
        es.Gives "proxy_url" (Reads (readOption readString)) none x ∧
          b = { a with proxyUrl := x } :=
    stepAt_eq_ok_iff (fun _ => map_readKey_eq_ok_iff) (by rw [← ha])
  have htimeout (a b : Settings) (ha : a.timeoutSecs = none) :
      stepAt es readEntry a "timeout_secs" = .ok b ↔ ∃ x,
        es.Gives "timeout_secs" (Reads (readOption (readNumber "u64" maxSeconds))) none x ∧
          b = { a with timeoutSecs := x } :=
    stepAt_eq_ok_iff (fun _ => map_readKey_eq_ok_iff) (by rw [← ha])
  have htoken (a b : Settings) (ha : a.tokenSource = none) :
      stepAt es readEntry a "token_source" = .ok b ↔ ∃ x,
        es.Gives "token_source" (Reads (readOption (readToken true))) none x ∧
          b = { a with tokenSource := x } :=
    stepAt_eq_ok_iff (fun _ => map_readKey_eq_ok_iff) (by rw [← ha])
  constructor
  · rintro ⟨_, h1, _, h2, _, h3, _, h4, _, h5, _, h6, _, h7, heq⟩
    obtain ⟨_, hbackend, rfl⟩ := (hbackend _ _ rfl).mp h1
    obtain ⟨_, hhost, rfl⟩ := (hhost _ _ rfl).mp h2
    obtain ⟨_, hlog, rfl⟩ := (hlog _ _ rfl).mp h3
    obtain ⟨_, hport, rfl⟩ := (hport _ _ rfl).mp h4
    obtain ⟨_, hproxy, rfl⟩ := (hproxy _ _ rfl).mp h5
    obtain ⟨_, htimeout, rfl⟩ := (htimeout _ _ rfl).mp h6
    obtain ⟨_, htoken, rfl⟩ := (htoken _ _ rfl).mp h7
    cases heq
    exact ⟨hport, hhost, hbackend, hproxy, htimeout, htoken, hlog⟩
  · intro h
    exact ⟨_, (hbackend _ _ rfl).mpr ⟨_, h.backendUrl, rfl⟩, _,
      (hhost _ _ rfl).mpr ⟨_, h.host, rfl⟩, _, (hlog _ _ rfl).mpr ⟨_, h.log, rfl⟩, _,
      (hport _ _ rfl).mpr ⟨_, h.port, rfl⟩, _, (hproxy _ _ rfl).mpr ⟨_, h.proxyUrl, rfl⟩, _,
      (htimeout _ _ rfl).mpr ⟨_, h.timeoutSecs, rfl⟩, _,
      (htoken _ _ rfl).mpr ⟨_, h.tokenSource, rfl⟩, rfl⟩

end Settings

section Token
variable {es : Entries} {byIndex : Bool} {kind : TokenKind} {source : TokenSettings} {o : Source}

/-- The keys that belong to a kind, in ascending order. -/
def fieldKeys : TokenKind → List String
  | .fixed => ["token"]
  | .command => ["args", "command"]
  | .metadata => ["url"]

theorem heldField_other (c : TokenFields) (e : String × Value) (h : e.1 ∉ fieldKeys kind) :
    heldField kind c e = .ok c := by
  obtain ⟨key, v⟩ := e
  unfold heldField
  dsimp only at h ⊢
  split
  case h_5 => rfl
  all_goals exact absurd (by decide) h

theorem map_heldText_eq_ok_iff {f : Option String → TokenFields} {d : TokenFields} {v : Value} :
    (heldString v).map (fun t => f (some t)) = .ok d ↔ ∃ x, Reads heldText v x ∧ d = f x := by
  unfold Reads heldText
  cases heldString v with
  | error m =>
    constructor
    · intro h
      cases h
    · rintro ⟨_, h, -⟩
      cases h
  | ok t =>
    constructor
    · intro h
      exact ⟨_, rfl, (Except.ok.inj h).symm⟩
    · rintro ⟨_, h, rfl⟩
      cases h
      rfl

theorem sourceRead_iff (hes : Ascending es) :
    (∃ c, es.foldlM (heldField kind) {} = .ok c ∧ finishToken kind c = .ok source) ↔
      source.kind = kind ∧ SourceRead es {} source := by
  have hfold (c : TokenFields) : es.foldlM (heldField kind) c =
      (fieldKeys kind).foldlM (stepAt es (heldField kind)) c := by
    refine foldlM_eq_keys ?_ heldField_other hes c
    cases kind <;> decide
  simp only [hfold]
  cases kind with
  | fixed =>
    have htoken (d : TokenFields) : stepAt es (heldField .fixed) {} "token" = .ok d ↔
        ∃ x, es.Gives "token" (Reads heldText) none x ∧ d = { token := x } :=
      stepAt_eq_ok_iff (fun _ => map_heldText_eq_ok_iff (f := fun x => { token := x })) rfl
    simp only [fieldKeys, List.foldlM_cons, List.foldlM_nil, bind_eq_ok, htoken]
    constructor
    · rintro ⟨_, ⟨_, ⟨x, hx, rfl⟩, heq⟩, hfinish⟩
      cases heq
      cases x with
      | none => cases hfinish
      | some t =>
        cases hfinish
        exact ⟨rfl, .fixed hx⟩
    · rintro ⟨hkind, h⟩
      cases h with
      | fixed hx => exact ⟨_, ⟨_, ⟨_, hx, rfl⟩, rfl⟩, rfl⟩
      | _ => cases hkind
  | command =>
    have hargs (d : TokenFields) : stepAt es (heldField .command) {} "args" = .ok d ↔
        ∃ x, es.Gives "args" (Reads heldStrings) [] x ∧ d = { args := x } :=
      stepAt_eq_ok_iff (fun _ => map_eq_ok_iff) rfl
    have hprogram (args : List String) (d : TokenFields) :
        stepAt es (heldField .command) { args := args } "command" = .ok d ↔
          ∃ x, es.Gives "command" (Reads heldText) none x ∧ d = { program := x, args := args } :=
      stepAt_eq_ok_iff
        (fun _ => map_heldText_eq_ok_iff (f := fun x => { program := x, args := args })) rfl
    simp only [fieldKeys, List.foldlM_cons, List.foldlM_nil, bind_eq_ok, hargs]
    constructor
    · rintro ⟨_, ⟨_, ⟨args, hargs, rfl⟩, _, hset, heq⟩, hfinish⟩
      obtain ⟨x, hx, rfl⟩ := (hprogram _ _).mp hset
      cases heq
      cases x with
      | none => cases hfinish
      | some p =>
        cases hfinish
        exact ⟨rfl, .command hx hargs⟩
    · rintro ⟨hkind, h⟩
      cases h with
      | command hx hargs =>
        exact ⟨_, ⟨_, ⟨_, hargs, rfl⟩, _, (hprogram _ _).mpr ⟨_, hx, rfl⟩, rfl⟩, rfl⟩
      | _ => cases hkind
  | metadata =>
    have hurl (d : TokenFields) : stepAt es (heldField .metadata) {} "url" = .ok d ↔
        ∃ x, es.Gives "url" (Reads heldOption) none x ∧ d = { url := x } :=
      stepAt_eq_ok_iff (fun _ => map_eq_ok_iff) rfl
    simp only [fieldKeys, List.foldlM_cons, List.foldlM_nil, bind_eq_ok, hurl]
    constructor
    · rintro ⟨_, ⟨_, ⟨x, hx, rfl⟩, heq⟩, hfinish⟩
      cases heq
      cases hfinish
      exact ⟨rfl, .metadata hx⟩
    · rintro ⟨hkind, h⟩
      cases h with
      | metadata hx => exact ⟨_, ⟨_, ⟨_, hx, rfl⟩, rfl⟩, rfl⟩
      | _ => cases hkind

/-- The entry of the kind settles it; all others have to be of a width that fits. -/
theorem foldlM_tokenEntry_iff (hes : Ascending es) {held found : Option TokenKind} :
    es.foldlM (tokenEntry byIndex) held = .ok found ↔
      es.Gives "type" (fun v k => ∃ kind, readTokenKind byIndex v = .ok kind ∧ k = some kind) held
        found ∧ ∀ e ∈ es, e.1 ≠ "type" → narrow e.2 = .ok () := by
  induction es generalizing held with
  | nil =>
    simp only [List.foldlM_nil, Gives, get?, List.not_mem_nil, false_implies, implies_true,
      and_true]
    exact ⟨fun h => (Except.ok.inj h).symm, fun h => congrArg Except.ok h.symm⟩
  | cons e es ih =>
    obtain ⟨key, v⟩ := e
    obtain ⟨hhead, htail⟩ := List.pairwise_cons.mp hes
    rw [List.foldlM_cons, bind_eq_ok]
    simp only [ih htail, List.forall_mem_cons]
    by_cases hkey : key = "type"
    · subst hkey
      have hnone : get? es "type" = none := get?_eq_none hhead
      have hsome : get? (("type", v) :: es) "type" = some v := by rw [get?_cons, if_pos rfl]
      have hset (k : Option TokenKind) : tokenEntry byIndex held ("type", v) = .ok k ↔
          ∃ kind, Reads (readTokenKind byIndex) v kind ∧ k = some kind := by
        rw [tokenEntry, if_pos rfl, map_readKey_eq_ok_iff]
      simp only [hset, gives_of_none hnone, gives_of_some hsome]
      constructor
      · rintro ⟨_, hkind, rfl, hwide⟩
        exact ⟨hkind, fun h => absurd rfl h, hwide⟩
      · rintro ⟨hkind, -, hwide⟩
        exact ⟨_, hkind, rfl, hwide⟩
    · have hget : get? ((key, v) :: es) "type" = get? es "type" := by rw [get?_cons, if_neg hkey]
      have hpass (k : Option TokenKind) : tokenEntry byIndex held (key, v) = .ok k ↔
          ∃ u, Reads narrow v u ∧ k = held := by
        rw [tokenEntry, if_neg hkey, map_readKey_eq_ok_iff]
      simp only [hpass, Gives, hget]
      constructor
      · rintro ⟨_, ⟨_, hv, rfl⟩, hkind, hwide⟩
        exact ⟨hkind, fun _ => hv, hwide⟩
      · rintro ⟨hkind, hv, hwide⟩
        exact ⟨_, ⟨(), hv hkey, rfl⟩, hkind, hwide⟩

/-- A token source is read from a table that names its kind, has the fields of that kind, and holds
nothing that is too wide. -/
theorem readToken_eq_ok_iff (hes : Ascending es) :
    readToken byIndex (.table o es) = .ok source ↔ TokenRead byIndex es source := by
  constructor
  · intro h
    obtain ⟨kind, c, hkind, hc, hsource⟩ := fields_of_readToken h
    obtain ⟨hnamed, hnarrow⟩ := (foldlM_tokenEntry_iff hes).mp hkind
    obtain ⟨rfl, hread⟩ := (sourceRead_iff hes).mp ⟨c, hc, hsource⟩
    refine ⟨?_, hnarrow, hread⟩
    unfold Gives at hnamed
    cases hv : get? es "type" with
    | none =>
      rw [hv] at hnamed
      cases hnamed
    | some v =>
      rw [hv] at hnamed
      obtain ⟨_, hread, heq⟩ := hnamed
      cases heq
      exact ⟨v, rfl, hread⟩
  · rintro ⟨⟨v, hv, hread⟩, hnarrow, hsource⟩
    obtain ⟨c, hc, hfinish⟩ := (sourceRead_iff hes).mpr ⟨rfl, hsource⟩
    have hkind : es.foldlM (tokenEntry byIndex) none = .ok (some source.kind) :=
      (foldlM_tokenEntry_iff hes).mpr ⟨(gives_of_some hv).mpr ⟨_, hread, rfl⟩, hnarrow⟩
    exact readToken_of_fields hkind hc hfinish

end Token

end BrokerGate.Config
