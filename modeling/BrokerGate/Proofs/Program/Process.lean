import BrokerGate.Program.Process
import BrokerGate.Proofs.Exchange.Traffic
import BrokerGate.Proofs.Program.Run

/-! Nobody is served unchecked. Whatever token sources, broker, listener and callers do, and in
whatever order, a listener is bound and requests are forwarded only after the one check of the
process, which the broker answered with status 200. -/
namespace BrokerGate.Program
open Config Http Exchange Proxy

namespace Moment

def startup? : Moment → Option Act
  | startup a => some a
  | _ => none

def act? : Moment → Option Act
  | startup a => some a
  | served _ a => some a
  | bound _ => none

def isTokenCall (m : Moment) : Bool := m.act?.any Act.isTokenCall

def isTransportCall (m : Moment) : Bool := m.act?.any Act.isTransportCall

end Moment

/-- What a startup check that was passed leaves in the log. -/
def passedCheck (backend : Endpoint) (url : Url) (t : BearerToken) (reply : Response) : List Act :=
  [.asked, .given (.ok t), .sent (catalogCall url t), .answered (.ok reply),
    .noted (passedEvent backend)]

/-- A log in which nothing is served unchecked. -/
structure Gated (start : Except Failure Plan) (log : List Moment) : Prop where
  /-- Whatever is not part of a check comes after exactly one, and that one was passed. -/
  checked : ∀ front m back, log = front ++ m :: back → m.startup? = none →
    ∃ p url t reply, start = .ok p ∧ p.verb = .serve ∧ p.backend.join catalogPath = .ok url ∧
      front.filterMap Moment.startup? = passedCheck p.backend url t reply ∧ reply.status = 200
  bound : ∀ front i a back, log = front ++ .served i a :: back →
    ∃ address, .bound address ∈ front
  sparing : ∀ front back, log = front ++ back → (∀ address, .bound address ∉ front) →
    front.countP Moment.isTokenCall ≤ 1 ∧ front.countP Moment.isTransportCall ≤ 1

section Start
variable {p : Plan} {url : Url} {l : List Act} {phase : Phase}

theorem acts_events (calls : List Call) (events : List Log.Event) :
    acts (calls ++ events.map .event) = acts calls ++ events.map .noted := by
  have hevents : acts (events.map .event) = events.map .noted := by
    induction events with
    | nil => rfl
    | cons e events ih => exact congrArg (Act.noted e :: ·) ih
  rw [← hevents]
  exact List.flatMap_append

/-- A check asks for one token and sends one request at the most. -/
theorem countP_acts_of_checkCourse {backend : Endpoint} {result : Except GateError Unit}
    {calls : List Call} (h : CheckCourse backend url result calls) :
    (acts calls).countP Act.isTokenCall ≤ 1 ∧ (acts calls).countP Act.isTransportCall ≤ 1 := by
  cases h <;> simp [acts, Act.isTokenCall, Act.isTransportCall, List.countP_cons]

theorem countP_acts_of_runs (hjoin : p.backend.join catalogPath = .ok url)
    (h : Runs p.start l phase) :
    l.countP Act.isTokenCall ≤ 1 ∧ l.countP Act.isTransportCall ≤ 1 := by
  obtain ⟨script, rfl, -⟩ := h
  obtain ⟨reported, hrun, -⟩ := run_start p scripted script
  have hnoted (f : Act → Bool) (hf : ∀ e, f (.noted e) = false) :
      (reported.map Act.noted).countP f = 0 := by
    simp [List.countP_eq_zero, hf]
  rw [hrun, acts_events, List.countP_append, List.countP_append, hnoted _ fun _ => rfl,
    hnoted _ fun _ => rfl]
  exact countP_acts_of_checkCourse (checkCourse_startupCheck hjoin)

/-- Who gets as far as listening has passed the check. -/
theorem passed_of_ready (hjoin : p.backend.join catalogPath = .ok url) {address : String}
    (h : Runs p.start l (.ready address)) : p.verb = .serve ∧ address = p.address ∧
      ∃ t reply, l = passedCheck p.backend url t reply ∧ reply.status = 200 := by
  obtain ⟨script, rfl, hresult⟩ := h
  obtain ⟨reported, hrun, hreported⟩ := run_start p scripted script
  have hcourse : CheckCourse p.backend url ((startupCheck p.backend).run scripted script).result
      ((startupCheck p.backend).run scripted script).calls := checkCourse_startupCheck hjoin
  rw [hrun] at hresult ⊢
  cases hcheck : ((startupCheck p.backend).run scripted script).result with
  | error e => simp [Plan.standing, hcheck] at hresult
  | ok _ =>
    rw [hreported hcheck, acts_events, List.map_nil, List.append_nil]
    rw [hcheck] at hcourse
    generalize ((startupCheck p.backend).run scripted script).calls = calls at hcourse ⊢
    cases hcourse with
    | accepted t reply hstatus =>
      cases hverb : p.verb with
      | check => simp [Plan.standing, hcheck, hverb] at hresult
      | serve =>
        simp only [Plan.standing, hcheck, hverb, Phase.ready.injEq] at hresult
        exact ⟨rfl, hresult.symm, t, reply, rfl, hstatus⟩

end Start

/-- How a process got where it is, and all that it did on its way. -/
inductive Lived : Except Failure Plan → Process → List Moment → Prop
  | refused (f : Failure) : Lived (.error f) (.ended (.failed f)) []
  | starting {p : Plan} {stage : Stage Phase} {l : List Act}
    (h : ∀ rest phase, stage.Completes rest phase → Runs p.start (l ++ rest) phase) :
    Lived (.ok p) (.starting p stage) (l.map .startup)
  | unbound {p : Plan} {l : List Act} {address reason : String}
    (h : Runs p.start l (.ready address)) :
    Lived (.ok p) (.ended (.failed (.bind address reason))) (l.map .startup)
  | listening {p : Plan} {l : List Act} {address : String} (h : Runs p.start l (.ready address))
    (tasks : List (Task fun _ : Inbound => Response)) (calls : List (Nat × Act)) :
    Lived (.ok p) (.listening p tasks)
      (l.map .startup ++ .bound address :: calls.map fun e => .served e.1 e.2)

section Lived
variable {start : Except Failure Plan} {process process' : Process} {log moments : List Moment}

theorem lived_start : Lived start (.start start) [] := by
  cases start with
  | error f => exact .refused f
  | ok p => exact .starting (l := []) fun rest phase h => h

/-- After a check that was passed the listener is there or not. -/
theorem lived_of_opens {p : Plan} {l : List Act} {address : String} {answer : Except String Unit}
    (h : Runs p.start l (.ready address))
    (hstep : (Process.starting p (.finished (.ready address))).step (.opens answer) =
      some (process', moments)) : Lived (.ok p) process' (l.map .startup ++ moments) := by
  cases answer with
  | ok _ =>
    cases hstep
    exact .listening h [] []
  | error reason =>
    cases hstep
    rw [List.append_nil]
    exact .unbound h

theorem Lived.step {m : Move} (h : Lived start process log)
    (hstep : process.step m = some (process', moments)) :
    Lived start process' (log ++ moments) := by
  cases h with
  | refused f => cases hstep
  | unbound h => cases hstep
  | @starting p stage l h =>
    cases m with
    | startup cause =>
      obtain ⟨⟨next, done⟩, hnext, hmade⟩ := Option.map_eq_some_iff.mp hstep
      cases hmade
      rw [← List.map_append]
      apply Lived.starting
      intro rest phase hrest
      rw [List.append_assoc]
      exact h _ phase (Stage.completes_of_step hnext hrest)
    | opens answer =>
      cases stage with
      | finished phase =>
        cases phase with
        | ready address =>
          have hready : Runs p.start l (.ready address) := by
            simpa using h [] (.ready address) ⟨rfl, rfl⟩
          exact lived_of_opens hready hstep
        | _ => cases hstep
      | _ => cases hstep
    | serves turn => cases stage <;> cases hstep
  | @listening p l address h tasks calls =>
    cases m with
    | serves turn =>
      obtain ⟨s, -, hmade⟩ := Option.map_eq_some_iff.mp hstep
      cases hmade
      rw [List.append_assoc, List.cons_append, ← List.map_append]
      exact .listening h _ _
    | _ => cases hstep

theorem Lived.foldlM {h h' : History} {moves : List Move} (hlived : Lived start h.process h.log)
    (hrun : moves.foldlM History.step h = some h') : Lived start h'.process h'.log := by
  induction moves generalizing h with
  | nil =>
    cases hrun
    exact hlived
  | cons m moves ih =>
    rw [List.foldlM_cons] at hrun
    obtain ⟨next, hstep, hrest⟩ := Option.bind_eq_some_iff.mp hrun
    obtain ⟨⟨process, moments⟩, hmove, hmade⟩ := Option.bind_eq_some_iff.mp hstep
    cases hmade
    exact ih (hlived.step hmove) hrest

theorem lived_of_history {place : Place} {args : List String} {moves : List Move} {h : History}
    (hrun : history place args moves = some h) : Lived (planned place args) h.process h.log :=
  lived_start.foldlM hrun

end Lived

section Gated
variable {p : Plan} {url : Url} {l : List Act} {phase : Phase} {front back log : List Moment}
  {m : Moment} {calls : List (Nat × Act)} {address : String}

theorem startup?_of_mem_map (h : m ∈ l.map Moment.startup) : ∃ a, m = .startup a := by
  obtain ⟨a, -, rfl⟩ := List.mem_map.mp h
  exact ⟨a, rfl⟩

theorem filterMap_startup (l : List Act) :
    (l.map Moment.startup).filterMap Moment.startup? = l := by
  simp [List.filterMap_map, Function.comp_def, Moment.startup?]

theorem filterMap_served (address : String) (calls : List (Nat × Act)) :
    (Moment.bound address :: calls.map fun e => Moment.served e.1 e.2).filterMap
      Moment.startup? = [] := by
  rw [List.filterMap_eq_nil_iff]
  intro m hm
  rcases List.mem_cons.mp hm with rfl | hm
  · rfl
  · obtain ⟨e, -, rfl⟩ := List.mem_map.mp hm
    rfl

theorem countP_startup (l : List Act) :
    (l.map Moment.startup).countP Moment.isTokenCall = l.countP Act.isTokenCall ∧
      (l.map Moment.startup).countP Moment.isTransportCall = l.countP Act.isTransportCall := by
  constructor
  · rw [List.countP_map]
    rfl
  · rw [List.countP_map]
    rfl

/-- A log that begins with a check: the place of anything else in it is behind the check. -/
theorem cut_behind {rest : List Moment} (h : l.map .startup ++ rest = front ++ m :: back)
    (hm : m.startup? = none) : ∃ middle, front = l.map .startup ++ middle ∧
      rest = middle ++ m :: back := by
  rcases List.append_eq_append_iff.mp h with ⟨middle, hfront, hrest⟩ | ⟨middle, hmap, hrest⟩
  · exact ⟨middle, hfront, hrest⟩
  · cases middle with
    | nil => exact ⟨[], by simpa using hmap.symm, by simpa using hrest.symm⟩
    | cons first middle =>
      -- then `m` is part of the check
      cases hrest
      obtain ⟨a, rfl⟩ := startup?_of_mem_map (l := l) (m := m) (by simp [hmap])
      cases hm

/-- While the check goes on, and after it failed, nobody is served and little is asked. -/
theorem gated_startup (start : Except Failure Plan) (hjoin : p.backend.join catalogPath = .ok url)
    (h : Runs p.start l phase) {l' : List Act} (hl : l' <+: l) : Gated start (l'.map .startup) where
  checked := by
    intro front m back hlog hm
    obtain ⟨a, rfl⟩ := startup?_of_mem_map (l := l') (m := m) (by simp [hlog])
    cases hm
  bound := by
    intro front i a back hlog
    obtain ⟨b, hb⟩ := startup?_of_mem_map (l := l') (m := .served i a) (by simp [hlog])
    cases hb
  sparing := by
    intro front back hlog _
    have hfront : front <+: l'.map .startup := ⟨back, hlog.symm⟩
    obtain ⟨htoken, htransport⟩ := countP_acts_of_runs hjoin h
    constructor
    · calc front.countP Moment.isTokenCall
          ≤ (l'.map Moment.startup).countP Moment.isTokenCall := hfront.sublist.countP_le
        _ = l'.countP Act.isTokenCall := (countP_startup l').1
        _ ≤ l.countP Act.isTokenCall := hl.sublist.countP_le
        _ ≤ 1 := htoken
    · calc front.countP Moment.isTransportCall
          ≤ (l'.map Moment.startup).countP Moment.isTransportCall := hfront.sublist.countP_le
        _ = l'.countP Act.isTransportCall := (countP_startup l').2
        _ ≤ l.countP Act.isTransportCall := hl.sublist.countP_le
        _ ≤ 1 := htransport

theorem gated_listening (hjoin : p.backend.join catalogPath = .ok url)
    (h : Runs p.start l (.ready address)) : Gated (.ok p)
      (l.map .startup ++ .bound address :: calls.map fun e => .served e.1 e.2) where
  checked := by
    intro front m back hlog hm
    obtain ⟨middle, rfl, hrest⟩ := cut_behind hlog hm
    obtain ⟨hverb, -, t, reply, hl, hstatus⟩ := passed_of_ready hjoin h
    have hmiddle : middle.filterMap Moment.startup? = [] := by
      have hnone := filterMap_served address calls
      rw [hrest, List.filterMap_append] at hnone
      exact (List.append_eq_nil_iff.mp hnone).1
    refine ⟨p, url, t, reply, rfl, hverb, hjoin, ?_, hstatus⟩
    rw [List.filterMap_append, filterMap_startup, hmiddle, List.append_nil, hl]
  bound := by
    intro front i a back hlog
    obtain ⟨middle, rfl, hrest⟩ := cut_behind hlog rfl
    cases middle with
    | nil => cases hrest
    | cons first middle =>
      obtain ⟨rfl, -⟩ := List.cons_eq_cons.mp hrest
      exact ⟨address, by simp⟩
  sparing := by
    intro front back hlog hfront
    -- what lies before the listener is part of the check
    have hpart : front <+: l.map .startup := by
      rcases List.append_eq_append_iff.mp hlog with ⟨middle, rfl, hrest⟩ | ⟨middle, hmap, -⟩
      · cases middle with
        | nil => simp
        | cons first middle =>
          obtain ⟨rfl, -⟩ := List.cons_eq_cons.mp hrest
          exact absurd (by simp) (hfront address)
      · exact ⟨middle, hmap.symm⟩
    obtain ⟨rest, hrest⟩ := hpart
    exact (gated_startup (.ok p) hjoin h (List.prefix_refl l)).sparing front rest hrest.symm hfront

theorem gated_of_lived {start : Except Failure Plan} {process : Process}
    (hjoin : ∀ p, start = .ok p → ∃ url, p.backend.join catalogPath = .ok url)
    (h : Lived start process log) : Gated start log := by
  cases h with
  | refused f =>
    constructor
    · intro front m back hlog
      simp at hlog
    · intro front i a back hlog
      simp at hlog
    · intro front back hlog _
      obtain ⟨rfl, -⟩ := List.append_eq_nil_iff.mp hlog.symm
      simp
  | @starting p stage l h =>
    obtain ⟨url, hurl⟩ := hjoin p rfl
    -- any way in which the check may still go on will do
    obtain ⟨rest, phase, hrest⟩ := stage.exists_completes
    exact gated_startup _ hurl (h rest phase hrest) (List.prefix_append l rest)
  | @unbound p l address reason h =>
    obtain ⟨url, hurl⟩ := hjoin p rfl
    exact gated_startup _ hurl h (List.prefix_refl l)
  | @listening p l address h tasks calls =>
    obtain ⟨url, hurl⟩ := hjoin p rfl
    exact gated_listening hurl h

end Gated

theorem join_of_planned {place : Place} {args : List String} {p : Plan}
    (h : planned place args = .ok p) : ∃ url, p.backend.join catalogPath = .ok url := by
  obtain ⟨i, -, h⟩ := bind_eq_ok.mp h
  obtain ⟨s, hload, h⟩ := bind_eq_ok.mp h
  cases hmake : Plan.make i s with
  | error e =>
    rw [hmake] at h
    cases h
  | ok q =>
    rw [hmake] at h
    cases h
    have hbuilt := built_of_loadSettings hload (Plan.validate_of_make hmake)
    obtain ⟨⟨raw, -, hparse⟩, -⟩ := hbuilt.parts p hmake
    obtain ⟨url, hjoin, -⟩ := exists_catalogUrl hparse
    exact ⟨url, hjoin⟩

/-- The listener is the last thing that a run brings about. -/
def Phase.opening : Phase → List Moment
  | .serving address => [.bound address]
  | _ => []

section Retrace
variable {σ : Type}

/-- Given the same answers, a process goes through its check as it is run alone. -/
theorem exists_moves_of_run (answers : Answers σ) (state : σ) (p : Plan) (x : Exchange Phase)
    (log : List Moment) : ∃ moves : List Move,
      moves.foldlM History.step ⟨.starting p (.working x), log⟩ =
        some ⟨.starting p (.finished (x.run answers state).result),
          log ++ (acts (x.run answers state).calls).map .startup⟩ := by
  induction x generalizing state log with
  | done a =>
    refine ⟨[.startup .itself, .startup .itself], ?_⟩
    simp [History.step, Process.step, Stage.step, Exchange.run, acts]
  | note e next ih =>
    obtain ⟨moves, hmoves⟩ := ih state (log ++ [.startup (.noted e)])
    refine ⟨.startup .itself :: .startup .itself :: moves, ?_⟩
    simpa [History.step, Process.step, Stage.step, Exchange.run, acts] using hmoves
  | fetch next ih =>
    obtain ⟨moves, hmoves⟩ := ih (answers.token state).1 (answers.token state).2
      (log ++ [.startup .asked, .startup (.given (answers.token state).1)])
    refine ⟨.startup .itself :: .startup .itself :: .startup (.token (answers.token state).1) ::
      moves, ?_⟩
    simpa [History.step, Process.step, Stage.step, Exchange.run, acts] using hmoves
  | send request next ih =>
    obtain ⟨moves, hmoves⟩ := ih (answers.reply request state).1 (answers.reply request state).2
      (log ++ [.startup (.sent request), .startup (.answered (answers.reply request state).1)])
    refine ⟨.startup .itself :: .startup .itself ::
      .startup (.reply (answers.reply request state).1) :: moves, ?_⟩
    simpa [History.step, Process.step, Stage.step, Exchange.run, acts] using hmoves

/-- What a run does is the history of a process. -/
structure Retraces (h : History) (r : Report σ) : Prop where
  phase : h.process.phase? = some r.phase
  log : h.log = (acts r.calls).map .startup ++ r.phase.opening

/-- After its check a process that wants to serve tries to bind its listener. -/
theorem exists_opening (w : World σ) (p : Plan) (result : Except GateError Unit)
    (log : List Moment) : ∃ (moves : List Move) (process : Process),
      moves.foldlM History.step ⟨.starting p (.finished (p.standing result)), log⟩ =
        some ⟨process, log ++ ((p.standing result).opened w).opening⟩ ∧
      process.phase? = some ((p.standing result).opened w) := by
  cases result with
  | error e =>
    refine ⟨[], .starting p (.finished (.failed (.startup e))), ?_, rfl⟩
    simp [Plan.standing, Phase.opened, Phase.opening]
  | ok _ =>
    cases hverb : p.verb with
    | check =>
      refine ⟨[], .starting p (.finished (.approved p.backend)), ?_, ?_⟩
      · simp [Plan.standing, hverb, Phase.opened, Phase.opening]
      · simp [Plan.standing, hverb, Phase.opened, Process.phase?]
    | serve =>
      simp only [Plan.standing, hverb, Phase.opened]
      cases hlisten : w.listen p.address with
      | error reason =>
        refine ⟨[.opens (.error reason)], .ended (.failed (.bind p.address reason)), ?_, rfl⟩
        simp [History.step, Process.step, Phase.opening]
      | ok _ =>
        refine ⟨[.opens (.ok ())], .listening p [], ?_, rfl⟩
        simp [History.step, Process.step, Phase.opening]

theorem exists_history_of_run (w : World σ) (state : σ) (args : List String) :
    ∃ moves h, history w.place args moves = some h ∧ Retraces h (run w state args) := by
  unfold history
  cases hplanned : planned w.place args with
  | error f =>
    obtain ⟨hphase, hcalls, -⟩ := run_of_planned_error state hplanned
    refine ⟨[], ⟨.ended (.failed f), []⟩, rfl, ?_, ?_⟩
    · rw [hphase]
      rfl
    · rw [hphase, hcalls]
      rfl
  | ok p =>
    obtain ⟨hphase, hcalls, -⟩ := run_of_planned_ok state hplanned
    obtain ⟨reported, hstart, -⟩ := run_start p (w.answers p.client p.tokens) (state, [])
    have hresult : (p.start.run (w.answers p.client p.tokens) (state, [])).result =
        p.standing
          ((startupCheck p.backend).run (w.answers p.client p.tokens) (state, [])).result := by
      rw [hstart]
    obtain ⟨checking, hchecking⟩ :=
      exists_moves_of_run (w.answers p.client p.tokens) (state, []) p p.start []
    obtain ⟨opening, process, hopening, hprocess⟩ := exists_opening w p
      ((startupCheck p.backend).run (w.answers p.client p.tokens) (state, [])).result
      ((acts (run w state args).calls).map .startup)
    rw [hresult] at hphase hchecking
    rw [← hphase] at hopening hprocess
    rw [← hcalls] at hchecking
    refine ⟨checking ++ opening, ⟨process, _⟩, ?_, hprocess, rfl⟩
    rw [List.foldlM_append, Process.start, hchecking]
    exact hopening

end Retrace

/-- Whatever happens to a process, nothing is served unchecked, and a run of the program is what
happens to a process that is given the same answers. A check predicts how far a run that serves
gets. Of valid settings only the text for the proxy can still be refused. -/
theorem serves_checked :
    (∀ (place : Place) (args : List String) (moves : List Move) (h : History),
      history place args moves = some h → Gated (planned place args) h.log) ∧
    (∀ (σ : Type) (w : World σ) (state : σ) (args : List String),
      ∃ moves h, history w.place args moves = some h ∧ Retraces h (run w state args)) ∧
    (∀ (σ : Type) (w : World σ) (state : σ) (argsC argsS : List String)
      (config url host : Option String) (port : Option Nat),
      Invocation.parse argsC = .ok ⟨.check, config, none, none, url⟩ →
      Invocation.parse argsS = .ok ⟨.serve, config, port, host, url⟩ →
      Predicts (run w state argsC) (run w state argsS)) ∧
    (∀ (place : Place) (i : Invocation) (s : Settings), place.loadSettings i = .ok s →
      s.validate = .ok () → Built place i s) := by
  refine ⟨?_, ?_, ?_, ?_⟩
  · intro place args moves h hrun
    exact gated_of_lived (fun p hp => join_of_planned hp) (lived_of_history hrun)
  · intro σ w state args
    exact exists_history_of_run w state args
  · intro σ w state argsC argsS config url host port hcheck hserve
    exact check_predicts_serve w state hcheck hserve rfl rfl rfl rfl
  · intro place i s hload hvalid
    exact built_of_loadSettings hload hvalid

/-- No files, a token that is set by variables, a broker that accepts it, and addresses that are
free. -/
def welcoming : World Unit where
  place := ⟨⟨[], []⟩, [], [("BROXY_TOKEN_SOURCE__TYPE", "static"),
    ("BROXY_TOKEN_SOURCE__TOKEN", "tok")]⟩
  tokens := ⟨fun _ _ s => (.notStarted "", s), fun request s => (offline none request, s)⟩
  broker := fun _ _ s => (.ok ⟨200, [], .empty⟩, s)
  listen := fun _ => .ok ()

/-- The same with a broker that refuses every connection. -/
def refusing : World Unit :=
  { welcoming with
    broker := fun _ _ s => (.error (.transport "tcp connect error: Connection refused"), s) }

/-- A check that is passed, a listener, and a first caller. -/
def visited : List Move :=
  let itself : List Move := List.replicate 2 (.startup .itself)
  itself ++ [.startup (.token (.ok ⟨"tok"⟩))] ++ itself ++
    [.startup (.reply (.ok ⟨200, [], .empty⟩))] ++ itself ++ itself ++
    [.opens (.ok ()), .serves (.begins ⟨.get, ⟨none⟩, [], none, none⟩)]

/-- A check, and a run that serves at an address of its own. -/
def checkArguments : List String := ["check", "--backend-url", "http://h.example"]

def serveArguments : List String := ["serve", "--backend-url", "http://h.example", "--port", "0"]

def serveInvocation : Invocation := ⟨.serve, none, some 0, none, some "http://h.example"⟩

theorem history_visited : ∃ h front n a,
    history welcoming.place serveArguments visited = some h ∧ h.log = front ++ [.served n a] := by
  have hend : (history welcoming.place serveArguments visited).bind (fun h =>
      h.log.getLast?.map fun m => (m.startup?.isSome, m.act?.isSome)) = some (false, true) := by
    decide +kernel
  obtain ⟨h, hrun, hlast⟩ := Option.bind_eq_some_iff.mp hend
  obtain ⟨m, hm, hserved⟩ := Option.map_eq_some_iff.mp hlast
  obtain ⟨front, hfront⟩ := List.getLast?_eq_some_iff.mp hm
  cases m with
  | served n a => exact ⟨h, front, n, a, hrun, hfront⟩
  | startup a => cases hserved
  | bound address => cases hserved

theorem loadSettings_welcoming : ∃ s, welcoming.place.loadSettings serveInvocation = .ok s ∧
    s.validate = .ok () ∧ s.proxyUrl = none ∧ s.backendUrl = some "http://h.example" := by
  have hload : (welcoming.place.loadSettings serveInvocation).toOption.map (fun s =>
      (s.validate.toOption, s.proxyUrl, s.backendUrl)) =
      some (some (), none, some "http://h.example") := by decide +kernel
  obtain ⟨s, hs, hsettings⟩ := Option.map_eq_some_iff.mp hload
  simp only [Prod.mk.injEq] at hsettings
  obtain ⟨hvalid, hproxy, hurl⟩ := hsettings
  exact ⟨s, eq_ok_of_toOption hs, eq_ok_of_toOption hvalid, hproxy, hurl⟩

theorem serves_checked_welcoming :
    (∃ h front n a, history welcoming.place serveArguments visited = some h ∧
      h.log = front ++ [.served n a] ∧ (∃ address, .bound address ∈ front) ∧
      ∃ (p : Plan) (url : Url) (t : BearerToken) (reply : Response),
        front.filterMap Moment.startup? = passedCheck p.backend url t reply) ∧
    (run welcoming () checkArguments).phase.exitStatus = 0 ∧
    (run welcoming () serveArguments).phase.ReachesBind ∧
    ¬ (run refusing () serveArguments).phase.ReachesBind ∧
    (run refusing () serveArguments).phase.exitStatus ≠ 0 ∧
    (∀ wording, (run refusing () checkArguments).errorText wording =
      (run refusing () serveArguments).errorText wording) ∧
    ∃ s p, welcoming.place.loadSettings serveInvocation = .ok s ∧
      Plan.make serveInvocation s = .ok p ∧
      Endpoint.parse "http://h.example" = .ok p.backend := by
  obtain ⟨hgated, -, hpredicts, hbuilt⟩ := serves_checked
  have hcheck : Invocation.parse checkArguments =
      .ok ⟨.check, none, none, none, some "http://h.example"⟩ := by decide +kernel
  have hserve : Invocation.parse serveArguments =
      .ok ⟨.serve, none, some 0, none, some "http://h.example"⟩ := by decide +kernel
  have hstatus : (run welcoming () checkArguments).phase.exitStatus = 0 := by decide +kernel
  have hpredicted := hpredicts Unit refusing () _ _ _ _ _ _ hcheck hserve
  have hrefused : ¬ (run refusing () serveArguments).phase.ReachesBind :=
    mt hpredicted.succeeds.mpr (by decide +kernel)
  obtain ⟨-, hfails, htexts⟩ := hpredicted.fails hrefused
  refine ⟨?_, hstatus, ?_, hrefused, hfails, htexts, ?_⟩
  · obtain ⟨h, front, n, a, hrun, hfront⟩ := history_visited
    have hlog := hgated welcoming.place serveArguments visited h hrun
    obtain ⟨p, url, t, reply, -, -, -, hpassed, -⟩ := hlog.checked front _ [] hfront rfl
    exact ⟨h, front, n, a, hrun, hfront, hlog.bound front n a [] hfront, p, url, t, reply,
      hpassed⟩
  · exact (hpredicts Unit welcoming () _ _ _ _ _ _ hcheck hserve).succeeds.mp hstatus
  · obtain ⟨s, hload, hvalid, hproxy, hurl⟩ := loadSettings_welcoming
    have hfacts := hbuilt welcoming.place serveInvocation s hload hvalid
    cases hmake : Plan.make serveInvocation s with
    | error e =>
      obtain ⟨text, htext, -⟩ := (hfacts.refused e).mp hmake
      rw [hproxy] at htext
      cases htext
    | ok p =>
      obtain ⟨⟨raw, hraw, hparse⟩, -⟩ := hfacts.parts p hmake
      rw [hurl] at hraw
      cases hraw
      exact ⟨s, p, hload, hmake, hparse⟩

end BrokerGate.Program
