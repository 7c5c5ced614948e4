import BrokerGate.Program.Process
import BrokerGate.Proofs.Program.Plan
import BrokerGate.Proofs.Proxy.Startup

/-! What a run of the program comes to. A check and a run that serves prepare the same things from
the same settings and ask the same of token sources and broker, so that the one tells how the other
will go. -/
namespace BrokerGate

theorem Exchange.run_andThen {σ α β : Type} {answers : Answers σ} {state : σ}
    (f : α → Exchange β) (x : Exchange α) :
    (x.andThen f).run answers state =
      ⟨((f (x.run answers state).result).run answers (x.run answers state).state).result,
        (x.run answers state).calls ++
          ((f (x.run answers state).result).run answers (x.run answers state).state).calls,
        ((f (x.run answers state).result).run answers (x.run answers state).state).state⟩ := by
  induction x generalizing state with
  | done a => rfl
  | note e next ih =>
    simp only [andThen, run, ih]
    rfl
  | fetch next ih =>
    simp only [andThen, run, ih]
    rfl
  | send request next ih =>
    simp only [andThen, run, ih]
    rfl

namespace Program
open Config Http Exchange Proxy

section Start
variable {σ : Type}

/-- Where a plan stands after its check. -/
def Plan.standing (p : Plan) : Except GateError Unit → Phase
  | .ok _ =>
    match p.verb with
    | .check => .approved p.backend
    | .serve => .ready p.address
  | .error e => .failed (.startup e)

/-- A plan starts with the check and with nothing else, except that a failure is reported. -/
theorem run_start (p : Plan) (answers : Answers σ) (state : σ) : ∃ reported : List Log.Event,
    p.start.run answers state =
        ⟨p.standing ((startupCheck p.backend).run answers state).result,
          ((startupCheck p.backend).run answers state).calls ++ reported.map .event,
          ((startupCheck p.backend).run answers state).state⟩ ∧
      (((startupCheck p.backend).run answers state).result = .ok () → reported = []) := by
  rw [Plan.start, run_andThen]
  unfold Plan.conclude Plan.standing
  cases ((startupCheck p.backend).run answers state).result with
  | ok _ => cases p.verb <;> exact ⟨[], rfl, fun _ => rfl⟩
  | error e =>
    cases p.verb with
    | check => exact ⟨[], rfl, fun h => nomatch h⟩
    | serve => exact ⟨[startupFailedEvent e], rfl, fun h => nomatch h⟩

theorem tokenCalls_events (calls : List Call) (events : List Log.Event) :
    tokenCalls (calls ++ events.map .event) = tokenCalls calls := by
  simp [tokenCalls, Function.comp_def]

theorem requests_events (calls : List Call) (events : List Log.Event) :
    requests (calls ++ events.map .event) = requests calls := by
  simp [requests]

end Start

/-- A run gets as far as to try to bind its listener. -/
inductive Phase.ReachesBind : Phase → Prop
  | bound (address : String) : ReachesBind (.serving address)
  | unbound (address reason : String) : ReachesBind (.failed (.bind address reason))

theorem reachesBind_opened_ready {σ : Type} (w : World σ) (address : String) :
    ((Phase.ready address).opened w).ReachesBind := by
  unfold Phase.opened
  cases hlisten : w.listen address with
  | error reason =>
    simp only [hlisten]
    exact .unbound address reason
  | ok _ =>
    simp only [hlisten]
    exact .bound address

theorem Failure.OfSettings.not_reachesBind {f : Failure} (h : f.OfSettings) :
    ¬ (Phase.failed f).ReachesBind := by
  intro hbind
  cases hbind
  cases h

section Run
variable {σ : Type} {w : World σ} {args : List String} {i : Invocation} {f : Failure} {p : Plan}
  (state : σ)

theorem run_of_planned_error (h : planned w.place args = .error f) :
    (run w state args).phase = .failed f ∧ (run w state args).calls = [] ∧
      (run w state args).state = state := by
  unfold run
  cases hparse : Invocation.parse args with
  | error e =>
    rw [planned, hparse] at h
    cases h
    exact ⟨rfl, rfl, rfl⟩
  | ok i =>
    rw [planned_of_parse hparse] at h
    cases hload : w.place.loadSettings i with
    | error e =>
      rw [hload] at h
      cases h
      simp only [hload]
      exact ⟨rfl, rfl, rfl⟩
    | ok s =>
      rw [hload] at h
      simp only [hload]
      cases hmake : Plan.make i s with
      | error e =>
        rw [Except.bind, hmake] at h
        cases h
        exact ⟨rfl, rfl, rfl⟩
      | ok p =>
        rw [Except.bind, hmake] at h
        cases h

theorem run_of_planned_ok (h : planned w.place args = .ok p) :
    (run w state args).phase =
        (p.start.run (w.answers p.client p.tokens) (state, [])).result.opened w ∧
      (run w state args).calls = (p.start.run (w.answers p.client p.tokens) (state, [])).calls ∧
      (run w state args).state =
        (p.start.run (w.answers p.client p.tokens) (state, [])).state.1 := by
  unfold run
  cases hparse : Invocation.parse args with
  | error e =>
    rw [planned, hparse] at h
    cases h
  | ok i =>
    rw [planned_of_parse hparse] at h
    cases hload : w.place.loadSettings i with
    | error e =>
      rw [hload] at h
      cases h
    | ok s =>
      rw [hload] at h
      simp only [hload]
      cases hmake : Plan.make i s with
      | error e =>
        rw [Except.bind, hmake] at h
        cases h
      | ok p =>
        rw [Except.bind, hmake] at h
        cases h
        exact ⟨rfl, rfl, rfl⟩

/-- What is written about the log filter depends on the loaded settings alone. -/
theorem complaints_run (h : Invocation.parse args = .ok i) :
    (run w state args).complaints = match w.place.loadSettings i with
      | .error _ => []
      | .ok s => (Log.Filter.choose (w.place.value? "RUST_LOG") s.log.level).2 := by
  unfold run
  cases hload : w.place.loadSettings i with
  | error f =>
    simp only [h, hload]
    rfl
  | ok s => simp only [h, hload]

end Run

/-- Settings and all that a check needs, as an invocation gives them. -/
def prepared (place : Place) (i : Invocation) :
    Except Failure (Settings × Endpoint × Client × TokenSettings) := do
  let s ← place.loadSettings i
  let parts ← (Plan.essentials s).mapError .settings
  return (s, parts)

theorem planned_eq {args : List String} {i : Invocation} (h : Invocation.parse args = .ok i)
    (place : Place) : planned place args = (prepared place i).map fun x =>
      ⟨i.verb, x.2.1, x.2.2.1, x.2.2.2, Plan.addressOf i x.1⟩ := by
  rw [planned_of_parse h, prepared]
  cases place.loadSettings i with
  | error f => rfl
  | ok s =>
    rw [Except.bind, Plan.make_eq]
    cases hparts : Plan.essentials s <;> simp only [bind, Except.bind, hparts] <;> rfl

theorem prepared_congr {place : Place} {i j : Invocation} (hconfig : i.config = j.config)
    (hurl : i.backendUrl = j.backendUrl) : prepared place i = prepared place j := by
  rw [prepared, prepared, loadSettings_congr hconfig hurl]

theorem ofSettings_of_prepared_error {place : Place} {i : Invocation} {f : Failure}
    (h : prepared place i = .error f) : f.OfSettings := by
  unfold prepared at h
  cases hload : place.loadSettings i with
  | error e =>
    rw [hload] at h
    cases h
    exact ofSettings_of_loadSettings_error hload
  | ok s =>
    rw [hload] at h
    simp only [bind, Except.bind] at h
    cases hparts : Plan.essentials s with
    | error e =>
      rw [hparts] at h
      cases h
      trivial
    | ok parts =>
      rw [hparts] at h
      cases h

/-- A check tells how far a run that serves gets, asks the same of everyone, and fails for the same
reason. -/
structure Predicts {σ : Type} (check serve : Report σ) : Prop where
  succeeds : check.phase.exitStatus = 0 ↔ serve.phase.ReachesBind
  fails : ¬ serve.phase.ReachesBind → check.phase.exitStatus ≠ 0 ∧ serve.phase.exitStatus ≠ 0 ∧
    ∀ wording, check.errorText wording = serve.errorText wording
  tokenCalls : tokenCalls check.calls = tokenCalls serve.calls
  requests : requests check.calls = requests serve.calls
  state : check.state = serve.state

section Predicts
variable {σ : Type} {check serve : Report σ} {f : Failure}

theorem errorText_congr (hcomplaints : check.complaints = serve.complaints)
    (hcheck : check.phase = .failed f) (hserve : serve.phase = .failed f)
    (wording : String → String) : check.errorText wording = serve.errorText wording := by
  unfold Report.errorText
  rw [hcomplaints, hcheck, hserve]

/-- Two runs that fail in the same way before a listener is wanted. -/
theorem predicts_of_failed (hcomplaints : check.complaints = serve.complaints)
    (hcheck : check.phase = .failed f) (hserve : serve.phase = .failed f)
    (hstatus : f.exitStatus = 1) (hbind : ¬ (Phase.failed f).ReachesBind)
    (htokens : Exchange.tokenCalls check.calls = Exchange.tokenCalls serve.calls)
    (hrequests : Exchange.requests check.calls = Exchange.requests serve.calls)
    (hstate : check.state = serve.state) : Predicts check serve where
  succeeds := by
    rw [hcheck, hserve, Phase.exitStatus, hstatus]
    exact iff_of_false Nat.one_ne_zero hbind
  fails := by
    intro _
    rw [hcheck, hserve, Phase.exitStatus, hstatus]
    exact ⟨Nat.one_ne_zero, Nat.one_ne_zero, errorText_congr hcomplaints hcheck hserve⟩
  tokenCalls := htokens
  requests := hrequests
  state := hstate

/-- A run that is over without success, and one that goes on to its listener. -/
theorem predicts_of_reached (hcheck : check.phase.exitStatus = 0)
    (hserve : serve.phase.ReachesBind)
    (htokens : Exchange.tokenCalls check.calls = Exchange.tokenCalls serve.calls)
    (hrequests : Exchange.requests check.calls = Exchange.requests serve.calls)
    (hstate : check.state = serve.state) : Predicts check serve where
  succeeds := iff_of_true hcheck hserve
  fails := fun hnot => absurd hserve hnot
  tokenCalls := htokens
  requests := hrequests
  state := hstate

end Predicts

/-- Plans with the same parts make the same check. -/
theorem predicts_of_plans {σ : Type} {w : World σ} {state : σ} {argsC argsS : List String}
    {p q : Plan} (hp : planned w.place argsC = .ok p) (hq : planned w.place argsS = .ok q)
    (hcomplaints : (run w state argsC).complaints = (run w state argsS).complaints)
    (hcheck : p.verb = .check) (hserve : q.verb = .serve) (hbackend : p.backend = q.backend)
    (hclient : p.client = q.client) (htokens : p.tokens = q.tokens) :
    Predicts (run w state argsC) (run w state argsS) := by
  obtain ⟨hphaseC, hcallsC, hstateC⟩ := run_of_planned_ok state hp
  obtain ⟨hphaseS, hcallsS, hstateS⟩ := run_of_planned_ok state hq
  obtain ⟨reportedC, hstartC, -⟩ := run_start p (w.answers p.client p.tokens) (state, [])
  obtain ⟨reportedS, hstartS, -⟩ := run_start q (w.answers q.client q.tokens) (state, [])
  rw [hbackend, hclient, htokens] at hstartC
  rw [hclient, htokens, hstartC] at hphaseC hcallsC hstateC
  rw [hstartS] at hphaseS hcallsS hstateS
  have htokenCalls : tokenCalls (run w state argsC).calls =
      tokenCalls (run w state argsS).calls := by
    rw [hcallsC, hcallsS, tokenCalls_events, tokenCalls_events]
  have hrequests : requests (run w state argsC).calls = requests (run w state argsS).calls := by
    rw [hcallsC, hcallsS, requests_events, requests_events]
  have hstate : (run w state argsC).state = (run w state argsS).state := by
    rw [hstateC, hstateS]
  cases hresult :
      ((startupCheck q.backend).run (w.answers q.client q.tokens) (state, [])).result with
  | error e =>
    rw [hresult] at hphaseC hphaseS
    have hnot : ¬ (Phase.failed (.startup e)).ReachesBind := by
      intro hbind
      cases hbind
    exact predicts_of_failed hcomplaints hphaseC hphaseS rfl hnot htokenCalls hrequests hstate
  | ok u =>
    simp only [hresult, Plan.standing, hcheck] at hphaseC
    simp only [hresult, Plan.standing, hserve] at hphaseS
    apply predicts_of_reached _ _ htokenCalls hrequests hstate
    · rw [hphaseC]
      rfl
    · rw [hphaseS]
      exact reachesBind_opened_ready w q.address

theorem check_predicts_serve {σ : Type} (w : World σ) (state : σ) {argsC argsS : List String}
    {i j : Invocation} (hi : Invocation.parse argsC = .ok i) (hj : Invocation.parse argsS = .ok j)
    (hcheck : i.verb = .check) (hserve : j.verb = .serve) (hconfig : i.config = j.config)
    (hurl : i.backendUrl = j.backendUrl) : Predicts (run w state argsC) (run w state argsS) := by
  have hcomplaints : (run w state argsC).complaints = (run w state argsS).complaints := by
    rw [complaints_run state hi, complaints_run state hj, loadSettings_congr hconfig hurl]
  have hplannedC := planned_eq hi w.place
  have hplannedS := planned_eq hj w.place
  rw [prepared_congr hconfig hurl] at hplannedC
  cases hprepared : prepared w.place j with
  | error f =>
    rw [hprepared] at hplannedC hplannedS
    have hsettings := ofSettings_of_prepared_error hprepared
    obtain ⟨hphaseC, hcallsC, hstateC⟩ := run_of_planned_error state hplannedC
    obtain ⟨hphaseS, hcallsS, hstateS⟩ := run_of_planned_error state hplannedS
    exact predicts_of_failed hcomplaints hphaseC hphaseS hsettings.exitStatus
      hsettings.not_reachesBind (by rw [hcallsC, hcallsS]) (by rw [hcallsC, hcallsS])
      (by rw [hstateC, hstateS])
  | ok x =>
    rw [hprepared] at hplannedC hplannedS
    exact predicts_of_plans hplannedC hplannedS hcomplaints hcheck hserve rfl rfl rfl

end Program

end BrokerGate
