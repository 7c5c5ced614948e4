import BrokerGate.Program.Process
import BrokerGate.Proofs.Url.Authority

/-! What settings that were found valid lead to. A plan is put together from the same parts whatever
is to be done with it, and of these parts only the proxy can still be missing. -/
namespace BrokerGate.Program
open Config Http Url

section Settings
variable {s : Settings}

theorem endpoint_of_validate (h : s.validate = .ok ()) : ∃ backend, s.endpoint = .ok backend := by
  obtain ⟨backend, hbackend, -⟩ := bind_eq_ok.mp h
  exact ⟨backend, hbackend⟩

theorem tokenSource_of_validate (h : s.validate = .ok ()) :
    ∃ tokens, s.tokenSource = some tokens := by
  obtain ⟨_, _, h⟩ := bind_eq_ok.mp h
  obtain ⟨_, htokens, _⟩ := bind_eq_ok.mp h
  cases hsource : s.tokenSource with
  | none =>
    rw [hsource] at htokens
    cases htokens
  | some tokens => exact ⟨tokens, rfl⟩

theorem backendUrl_of_endpoint {backend : Endpoint} (h : s.endpoint = .ok backend) :
    ∃ raw, s.backendUrl = some raw ∧ Endpoint.parse raw = .ok backend := by
  unfold Settings.endpoint at h
  cases hraw : s.backendUrl with
  | none =>
    rw [hraw] at h
    cases h
  | some raw =>
    rw [hraw] at h
    exact ⟨raw, rfl, h⟩

end Settings

/-- A client is there unless the text for its proxy leads to none. -/
theorem build_eq_error_iff {proxyUrl : Option String} (timeoutSecs : Option Nat) {e : GateError} :
    Client.build proxyUrl timeoutSecs = .error e ↔
      ∃ text, proxyUrl = some text ∧ proxyUrl? text.toList = none ∧
        e = .configuration ("invalid proxy_url " ++ text ++ ": builder error") := by
  unfold Client.build
  cases proxyUrl with
  | none => simp
  | some text =>
    cases hproxy : proxyUrl? text.toList with
    | none => simp [hproxy, eq_comm]
    | some u => simp [hproxy]

namespace Plan

/-- What a check needs: whom to ask, by which client, and where tokens come from. -/
def essentials (s : Settings) : Except GateError (Endpoint × Client × TokenSettings) := do
  s.validate
  let backend ← s.endpoint
  let client ← Client.build s.proxyUrl s.timeoutSecs
  match s.tokenSource with
  | some tokens => return (backend, client, tokens)
  | none => throw tokenSourceMissing

/-- Where to listen, by the command line or else by the settings. -/
def addressOf (i : Invocation) (s : Settings) : String :=
  Settings.listenAddress { s with port := i.port.getD s.port, host := i.host.getD s.host }

/-- Verb, port and host have no part in what a check needs. -/
theorem make_eq (i : Invocation) (s : Settings) : Plan.make i s =
    (essentials s).map fun e => ⟨i.verb, e.1, e.2.1, e.2.2, addressOf i s⟩ := by
  unfold Plan.make essentials
  cases s.validate with
  | error e => rfl
  | ok _ =>
    have hendpoint : Settings.endpoint
        { s with port := i.port.getD s.port, host := i.host.getD s.host } = s.endpoint := rfl
    simp only [hendpoint]
    cases s.endpoint with
    | error e => rfl
    | ok backend =>
      cases Client.build s.proxyUrl s.timeoutSecs with
      | error e => rfl
      | ok client => cases s.tokenSource <;> rfl

theorem essentials_of_validate {s : Settings} (h : s.validate = .ok ()) :
    ∃ backend tokens, s.endpoint = .ok backend ∧ s.tokenSource = some tokens ∧ essentials s =
      (Client.build s.proxyUrl s.timeoutSecs).map fun client => (backend, client, tokens) := by
  obtain ⟨backend, hbackend⟩ := endpoint_of_validate h
  obtain ⟨tokens, htokens⟩ := tokenSource_of_validate h
  refine ⟨backend, tokens, hbackend, htokens, ?_⟩
  unfold essentials
  rw [h, hbackend, htokens]
  cases Client.build s.proxyUrl s.timeoutSecs <;> rfl

/-- A plan as valid settings have it. -/
structure Follows (p : Plan) (verb : Verb) (s : Settings) : Prop where
  valid : s.validate = .ok ()
  verb : p.verb = verb
  backend : s.endpoint = .ok p.backend
  client : Client.build s.proxyUrl s.timeoutSecs = .ok p.client
  tokens : s.tokenSource = some p.tokens
  address : p.address = s.host ++ ":" ++ toString s.port

theorem make_eq_ok_iff {i : Invocation} {s : Settings} {p : Plan} :
    Plan.make i s = .ok p ↔
      p.Follows i.verb { s with port := i.port.getD s.port, host := i.host.getD s.host } := by
  rw [make_eq]
  constructor
  · intro h
    obtain ⟨e, hessentials, rfl⟩ := map_eq_ok h
    obtain ⟨_, hvalid, h⟩ := bind_eq_ok.mp hessentials
    obtain ⟨backend, hbackend, h⟩ := bind_eq_ok.mp h
    obtain ⟨client, hclient, h⟩ := bind_eq_ok.mp h
    split at h
    · next tokens htokens =>
      cases h
      exact ⟨hvalid, rfl, hbackend, hclient, htokens, rfl⟩
    · cases h
  · intro h
    have hvalid : s.validate = .ok () := h.valid
    have hbackend : s.endpoint = .ok p.backend := h.backend
    have hessentials : essentials s = .ok (p.backend, p.client, p.tokens) := by
      unfold essentials
      rw [hvalid, hbackend, h.client, h.tokens]
      rfl
    rw [hessentials]
    cases p
    cases h.verb
    cases h.address
    rfl

/-- Settings that no plan follows are not valid, or no client can be built for them. -/
theorem make_eq_error_iff {i : Invocation} {s : Settings} {e : GateError} :
    Plan.make i s = .error e ↔ s.validate = .error e ∨
      s.validate = .ok () ∧ Client.build s.proxyUrl s.timeoutSecs = .error e := by
  rw [make_eq]
  cases hvalid : s.validate with
  | error e' =>
    have hessentials : essentials s = .error e' := by
      unfold essentials
      rw [hvalid]
      rfl
    rw [hessentials]
    simp [Except.map]
  | ok _ =>
    obtain ⟨backend, tokens, -, -, hessentials⟩ := essentials_of_validate hvalid
    rw [hessentials]
    cases Client.build s.proxyUrl s.timeoutSecs <;> simp [Except.map]

theorem validate_of_make {i : Invocation} {s : Settings} {p : Plan} (h : Plan.make i s = .ok p) :
    s.validate = .ok () := (make_eq_ok_iff.mp h).valid

end Plan

/-- The settings are not there or cannot be used. -/
def Failure.OfSettings : Failure → Prop
  | .fileMissing _ => True
  | .layers _ => True
  | .settings _ => True
  | _ => False

theorem Failure.OfSettings.exitStatus {f : Failure} (h : f.OfSettings) : f.exitStatus = 1 := by
  cases f with
  | usage e => cases h
  | _ => rfl

/-- What becomes of settings that were loaded for a command line and found valid. -/
structure Built (place : Place) (i : Invocation) (s : Settings) : Prop where
  /-- Only the text for the proxy can still be refused. -/
  refused : ∀ e, Plan.make i s = .error e ↔ ∃ text, s.proxyUrl = some text ∧
    proxyUrl? text.toList = none ∧
      e = .configuration ("invalid proxy_url " ++ text ++ ": builder error")
  parts : ∀ p, Plan.make i s = .ok p → (∃ raw, s.backendUrl = some raw ∧
    Endpoint.parse raw = .ok p.backend) ∧ s.tokenSource = some p.tokens ∧
      Client.build s.proxyUrl s.timeoutSecs = .ok p.client
  /-- The command line has the last word on the broker's URL. -/
  backendUrl : ∃ loaded, load place.files place.current i.config place.environment = .ok loaded ∧
    s = { loaded with backendUrl := i.backendUrl.or loaded.backendUrl }

section Loading
variable {place : Place} {i : Invocation} {s : Settings} {f : Failure}

theorem planned_of_parse {args : List String} (h : Invocation.parse args = .ok i)
    (place : Place) : planned place args = (place.loadSettings i).bind fun s =>
      (Plan.make i s).mapError .settings := by
  rw [planned, h]
  rfl

/-- The command line goes before what is loaded, unless it names a file that is not there. -/
theorem loadSettings_eq (hreaches : ∀ path, i.config = some path →
    place.files.reaches place.current path = true) : place.loadSettings i =
      ((load place.files place.current i.config place.environment).mapError .layers).map fun s =>
        { s with backendUrl := i.backendUrl.or s.backendUrl } := by
  have hloaded : place.loadSettings i = Place.loadSettings.loaded place i i.config := by
    unfold Place.loadSettings
    cases hconfig : i.config with
    | none => rfl
    | some path => exact if_pos (hreaches path hconfig)
  rw [hloaded, Place.loadSettings.loaded]
  cases load place.files place.current i.config place.environment <;> rfl

theorem loadSettings_of_missing {path : String} (hconfig : i.config = some path)
    (hreaches : place.files.reaches place.current path = false) :
    place.loadSettings i = .error (.fileMissing path) := by
  unfold Place.loadSettings
  simp only [hconfig, hreaches]
  rfl

theorem reaches_or_missing (place : Place) (i : Invocation) :
    (∀ path, i.config = some path → place.files.reaches place.current path = true) ∨
      ∃ path, i.config = some path ∧ place.files.reaches place.current path = false := by
  cases hconfig : i.config with
  | none => exact .inl nofun
  | some path =>
    cases hreaches : place.files.reaches place.current path with
    | true => exact .inl fun path' h => Option.some.inj h ▸ hreaches
    | false => exact .inr ⟨path, rfl, hreaches⟩

theorem loadSettings_eq_ok_iff : place.loadSettings i = .ok s ↔
    (∀ path, i.config = some path → place.files.reaches place.current path = true) ∧ ∃ loaded,
      load place.files place.current i.config place.environment = .ok loaded ∧
        s = { loaded with backendUrl := i.backendUrl.or loaded.backendUrl } := by
  constructor
  · intro h
    rcases reaches_or_missing place i with hreaches | ⟨path, hconfig, hmissing⟩
    · rw [loadSettings_eq hreaches] at h
      obtain ⟨loaded, hloaded, rfl⟩ := map_eq_ok h
      exact ⟨hreaches, loaded, eq_ok_of_mapError hloaded, rfl⟩
    · rw [loadSettings_of_missing hconfig hmissing] at h
      cases h
  · rintro ⟨hreaches, loaded, hload, rfl⟩
    rw [loadSettings_eq hreaches, hload]
    rfl

theorem load_of_loadSettings (h : place.loadSettings i = .ok s) : ∃ loaded,
    load place.files place.current i.config place.environment = .ok loaded ∧
      s = { loaded with backendUrl := i.backendUrl.or loaded.backendUrl } :=
  (loadSettings_eq_ok_iff.mp h).2

theorem error_of_loadSettings (h : place.loadSettings i = .error f) :
    (∃ path, f = .fileMissing path) ∨ ∃ e, f = .layers e := by
  rcases reaches_or_missing place i with hreaches | ⟨path, hconfig, hmissing⟩
  · rw [loadSettings_eq hreaches] at h
    cases hload : load place.files place.current i.config place.environment with
    | error e =>
      rw [hload] at h
      cases h
      exact .inr ⟨e, rfl⟩
    | ok loaded =>
      rw [hload] at h
      cases h
  · rw [loadSettings_of_missing hconfig hmissing] at h
    cases h
    exact .inl ⟨path, rfl⟩

theorem ofSettings_of_loadSettings_error (h : place.loadSettings i = .error f) :
    f.OfSettings := by
  rcases error_of_loadSettings h with ⟨path, rfl⟩ | ⟨e, rfl⟩ <;> trivial

/-- Verb, port and host have no part in what is loaded. -/
theorem loadSettings_congr {j : Invocation} (hconfig : i.config = j.config)
    (hurl : i.backendUrl = j.backendUrl) : place.loadSettings i = place.loadSettings j := by
  unfold Place.loadSettings Place.loadSettings.loaded
  rw [hconfig, hurl]

theorem built_of_loadSettings (h : place.loadSettings i = .ok s) (hvalid : s.validate = .ok ()) :
    Built place i s := by
  obtain ⟨backend, tokens, hbackend, htokens, hessentials⟩ := Plan.essentials_of_validate hvalid
  have hmake := Plan.make_eq i s
  rw [hessentials] at hmake
  constructor
  · intro e
    rw [← build_eq_error_iff s.timeoutSecs, hmake]
    cases Client.build s.proxyUrl s.timeoutSecs with
    | error cause => simp [Except.map]
    | ok client => simp [Except.map]
  · intro p hp
    rw [hmake] at hp
    cases hclient : Client.build s.proxyUrl s.timeoutSecs with
    | error cause =>
      rw [hclient] at hp
      cases hp
    | ok client =>
      rw [hclient] at hp
      cases hp
      exact ⟨backendUrl_of_endpoint hbackend, htokens, rfl⟩
  · exact load_of_loadSettings h

end Loading

end BrokerGate.Program
