import BrokerGate.Proofs.Exchange.Traffic
import BrokerGate.Proofs.Proxy.Startup
import BrokerGate.Proxy.Operation

/-! Tokens when many operations go on at the same time. Every request to the broker carries a token
that its own operation asked for and that nothing else uses. -/
namespace BrokerGate.Proxy
open Http Exchange Traffic

/-- A token arrives that can be sent. -/
def bringsToken : Act → Bool
  | .given (.ok t) => ¬ t.Unsendable
  | _ => false

/-- What an operation does from its beginning to its end, events aside. The flag tells whether it
asks for a token. -/
inductive Conduct : Bool → List Act → Prop
  | silent : Conduct false [.began]
  | withoutToken (e : GateError) : Conduct true [.began, .asked, .given (.error e)]
  | unusableToken {t : BearerToken} (h : t.Unsendable) :
    Conduct true [.began, .asked, .given (.ok t)]
  | served {t : BearerToken} {out : Outbound} (r : Except GateError Response)
    (h : ¬ t.Unsendable) (hout : out.fields.values .authorization = [t.bearerValue]) :
    Conduct true [.began, .asked, .given (.ok t), .sent out, .answered r]

section Conduct
variable {σ : Type} {answers : Answers σ} {state : σ} {backend : Endpoint} {url : Url}

theorem values_authorization_catalogCall (url : Url) (t : BearerToken) :
    (catalogCall url t).fields.values .authorization = [t.bearerValue] := by
  have hother : FieldName.apiVersion ≠ .authorization := by decide +kernel
  simp [catalogCall, Fields.values, hother]

theorem conduct_startupCheck (hjoin : backend.join catalogPath = .ok url) :
    Conduct true (quiet (.began :: acts ((startupCheck backend).run answers state).calls)) := by
  cases htoken : (answers.token state).1 with
  | error e =>
    rw [run_startupCheck_of_token_error htoken]
    exact .withoutToken e
  | ok t =>
    by_cases hsend : t.Unsendable
    · rw [run_startupCheck_of_unsendable hjoin htoken hsend]
      exact .unusableToken hsend
    · obtain ⟨answer, events, hcalls⟩ := calls_startupCheck hjoin htoken hsend
      have hacts : Act.began :: acts ((startupCheck backend).run answers state).calls =
          [.began, .asked, .given (.ok t), .sent (catalogCall url t), .answered answer] ++
            acts (events.map .event) := by
        rw [hcalls]
        rfl
      rw [hacts, quiet_append, quiet_acts_events, List.append_nil]
      exact .served answer hsend (values_authorization_catalogCall url t)

theorem conduct_forward (request : Inbound) :
    Conduct (Operation.isJoined backend (.forward request))
      (quiet (.began :: acts ((forward backend request).run answers state).calls)) := by
  cases hjoin : backend.join (String.ofList request.target.forwarded) with
  | error e =>
    rw [run_forward_of_join_error hjoin, Operation.isJoined, hjoin]
    exact .silent
  | ok url =>
    rw [Operation.isJoined, hjoin]
    cases htoken : (answers.token state).1 with
    | error e =>
      rw [run_forward_of_token_error hjoin htoken]
      exact .withoutToken e
    | ok t =>
      by_cases hsend : t.Unsendable
      · rw [run_forward_of_value_error hjoin htoken (BearerToken.authorization_of_unsendable hsend)]
        exact .unusableToken hsend
      · have hvalue := BearerToken.authorization_of_sendable hsend
        have hserved (r : Except GateError Response) : Conduct true [.began, .asked,
            .given (.ok t), .sent (outbound request url t.bearerValue), .answered r] :=
          .served r hsend values_authorization
        cases hreply : answers.reply (outbound request url t.bearerValue)
            (answers.token state).2 with
        | mk answer s =>
          cases answer with
          | error e =>
            rw [run_forward_of_transport_error hjoin htoken hvalue hreply]
            exact hserved _
          | ok reply =>
            rw [run_forward_of_reply hjoin htoken hvalue hreply]
            exact hserved _

/-- Whether an operation asks for a token is settled before it begins. -/
theorem conduct_program (hjoin : backend.join catalogPath = .ok url) (o : Operation) :
    Conduct (o.isCheck || o.isJoined backend)
      (quiet (.began :: acts ((o.program backend).run answers state).calls)) := by
  cases o with
  | check =>
    rw [Operation.program, Operation.isCheck, Bool.true_or]
    exact conduct_startupCheck hjoin
  | forward request =>
    rw [Operation.program, Operation.isCheck, Bool.false_or]
    exact conduct_forward request

end Conduct

/-- What is only reported is neither a call nor an answer. -/
theorem neutral_of_isNote {a : Act} (h : a.isNote = true) :
    a.isTokenCall = false ∧ a.isTransportCall = false ∧ bringsToken a = false := by
  cases a with
  | noted e => exact ⟨rfl, rfl, rfl⟩
  | _ => cases h

theorem countP_isTokenCall_quiet (l : List Act) :
    (quiet l).countP Act.isTokenCall = l.countP Act.isTokenCall :=
  countP_quiet (fun _ h => (neutral_of_isNote h).1) l

theorem countP_isTransportCall_quiet (l : List Act) :
    (quiet l).countP Act.isTransportCall = l.countP Act.isTransportCall :=
  countP_quiet (fun _ h => (neutral_of_isNote h).2.1) l

theorem any_bringsToken_quiet (l : List Act) : (quiet l).any bringsToken = l.any bringsToken :=
  any_quiet (fun _ h => (neutral_of_isNote h).2.2) l

namespace Conduct
variable {asks : Bool} {l front back : List Act}

theorem countP_isTokenCall (h : Conduct asks l) :
    l.countP Act.isTokenCall = if asks then 1 else 0 := by
  cases h <;> rfl

theorem countP_isTransportCall (h : Conduct asks l) :
    l.countP Act.isTransportCall = if l.any bringsToken then 1 else 0 := by
  cases h with
  | silent => rfl
  | withoutToken e => rfl
  | unusableToken h => simp [bringsToken, Act.isTransportCall, h]
  | served r h hout => simp [bringsToken, Act.isTransportCall, h, List.countP_cons]

theorem eq_began (h : Conduct false l) : l = [.began] := by
  cases h
  rfl

/-- Before a request is sent the operation began, asked for a token and was given it; the request
carries that token. -/
theorem before_sent (h : Conduct asks l) {out : Outbound} (hl : front ++ .sent out :: back <+: l) :
    ∃ t, front = [.began, .asked, .given (.ok t)] ∧
      out.fields.values .authorization = [t.bearerValue] := by
  have hmem : .sent out ∈ l := hl.subset (by simp)
  cases h with
  | silent => simp at hmem
  | withoutToken e => simp at hmem
  | unusableToken h => simp at hmem
  | served r h hout =>
    -- of the five places only the fourth holds a request
    rcases front with _ | ⟨a, _ | ⟨b, _ | ⟨c, _ | ⟨d, _ | ⟨e, front⟩⟩⟩⟩⟩ <;>
      simp_all [List.cons_prefix_cons]

end Conduct

/-- The request at one place of a log carries the token that the call at another place brought. Both
are made by one operation, after it began. -/
def Obtained (log : List (Nat × Act)) (call request : Nat) : Prop :=
  ∃ i t out began answer, began < call ∧ call < answer ∧ answer < request ∧
    log[began]? = some (i, .began) ∧ log[call]? = some (i, .asked) ∧
    log[answer]? = some (i, .given (.ok t)) ∧ log[request]? = some (i, .sent out) ∧
    out.fields.values .authorization = [t.bearerValue]

/-- What the calls of many operations have to do with each other. -/
structure Fresh (backend : Endpoint) (s : Traffic Operation.Result) : Prop where
  obtained : ∀ request i out, s.log[request]? = some (i, .sent out) →
    ∃ call, Obtained s.log call request
  unshared : ∀ call request request', Obtained s.log call request →
    Obtained s.log call request' → request = request'
  once : ∀ i, (lifeline i s.log).countP Act.isTokenCall ≤ 1 ∧
    (lifeline i s.log).countP Act.isTransportCall ≤ 1
  refused : ∀ i request stage, s.tasks[i]? = some ⟨.forward request, stage⟩ →
    (¬ ∃ url, backend.join (String.ofList request.target.forwarded) = .ok url) →
    (lifeline i s.log).countP Act.isTokenCall = 0 ∧
      (lifeline i s.log).countP Act.isTransportCall = 0
  tokenCalls : s.isFinished = true → s.log.countP (fun e => e.2.isTokenCall) =
    s.tasks.countP (fun task => task.operation.isCheck) +
      s.tasks.countP fun task => task.operation.isJoined backend
  transportCalls : s.isFinished = true → s.log.countP (fun e => e.2.isTransportCall) =
    (List.range s.tasks.length).countP fun i => (lifeline i s.log).any bringsToken

section Fresh
variable {backend : Endpoint} {url : Url} {turns : List (Turn Operation)}
  {s : Traffic Operation.Result} {i : Nat} (hjoin : backend.join catalogPath = .ok url)
  (h : Traffic.run (Operation.program backend) turns = some s)
include hjoin h

theorem quiet_prefix {task : Task Operation.Result} (htask : s.tasks[i]? = some task) :
    ∃ l, Conduct (task.operation.isCheck || task.operation.isJoined backend) l ∧
      quiet (lifeline i s.log) <+: l := by
  obtain ⟨script, hprefix⟩ := lifeline_prefix h htask
  exact ⟨_, conduct_program hjoin task.operation, hprefix.filter _⟩

theorem quiet_finished (hfinished : s.isFinished = true) {task : Task Operation.Result}
    (htask : s.tasks[i]? = some task) :
    Conduct (task.operation.isCheck || task.operation.isJoined backend)
      (quiet (lifeline i s.log)) := by
  obtain ⟨o, stage⟩ := task
  have hstage := List.all_eq_true.mp hfinished _ (List.mem_of_getElem? htask)
  cases stage with
  | finished a =>
    obtain ⟨script, hlifeline, -⟩ := lifeline_finished h htask
    rw [hlifeline]
    exact conduct_program hjoin o
  | _ => cases hstage

/-- Up to a request its operation did nothing but begin and get the token that the request
carries. -/
theorem quiet_before {k : Nat} {out : Outbound} (hk : s.log[k]? = some (i, .sent out)) :
    ∃ t, quiet (lifeline i (s.log.take k)) = [.began, .asked, .given (.ok t)] ∧
      out.fields.values .authorization = [t.bearerValue] := by
  obtain ⟨hlt, hget⟩ := List.getElem?_eq_some_iff.mp hk
  have hi : i < s.tasks.length := (sound_of_run h).known _ (List.mem_of_getElem? hk)
  obtain ⟨l, hconduct, hprefix⟩ := quiet_prefix hjoin h (List.getElem?_eq_getElem hi)
  have hcut : s.log = s.log.take k ++ (i, .sent out) :: s.log.drop (k + 1) := by
    rw [← hget, ← List.drop_eq_getElem_cons hlt, List.take_append_drop]
  rw [hcut, lifeline_append, lifeline_cons, if_pos rfl, List.singleton_append, quiet_append,
    quiet_cons rfl] at hprefix
  exact hconduct.before_sent hprefix

theorem exists_obtained {k : Nat} {out : Outbound} (hk : s.log[k]? = some (i, .sent out)) :
    ∃ call, Obtained s.log call k := by
  obtain ⟨t, hquiet, hout⟩ := quiet_before hjoin h hk
  obtain ⟨began, call, answer, hcall, hanswer, h0, h1, h2⟩ := exists_places hquiet
  have h2' := getElem?_of_take h2
  exact ⟨call, i, t, out, began, answer, hcall, hanswer, h2'.1, (getElem?_of_take h0).2,
    (getElem?_of_take h1).2, h2'.2, hk, hout⟩

theorem not_sent_before {j k : Nat} {out out' : Outbound}
    (hj : s.log[j]? = some (i, .sent out')) (hk : s.log[k]? = some (i, .sent out)) : ¬ j < k := by
  intro hlt
  -- up to the later request the operation sent nothing
  obtain ⟨t, hquiet, -⟩ := quiet_before hjoin h hk
  have htake : (s.log.take k)[j]? = some (i, .sent out') := by
    rw [List.getElem?_take_of_lt hlt, hj]
  have hmem : Act.sent out' ∈ quiet (lifeline i (s.log.take k)) :=
    (mem_quiet rfl).mpr (mem_lifeline.mpr (List.mem_of_getElem? htake))
  rw [hquiet] at hmem
  simp at hmem

theorem obtained_unshared {call k k' : Nat} (hk : Obtained s.log call k)
    (hk' : Obtained s.log call k') : k = k' := by
  obtain ⟨i, -, out, -, -, -, -, -, -, hcall, -, hsent, -⟩ := hk
  obtain ⟨j, -, out', -, -, -, -, -, -, hcall', -, hsent', -⟩ := hk'
  obtain rfl : i = j := by
    rw [hcall] at hcall'
    cases hcall'
    rfl
  have hnot := not_sent_before hjoin h hsent hsent'
  have hnot' := not_sent_before hjoin h hsent' hsent
  omega

/-- No more calls are logged of an operation than it makes by its end. -/
theorem countP_lifeline {task : Task Operation.Result} (htask : s.tasks[i]? = some task) :
    ∃ l, Conduct (task.operation.isCheck || task.operation.isJoined backend) l ∧
      (lifeline i s.log).countP Act.isTokenCall ≤ l.countP Act.isTokenCall ∧
      (lifeline i s.log).countP Act.isTransportCall ≤ l.countP Act.isTransportCall := by
  obtain ⟨l, hconduct, hprefix⟩ := quiet_prefix hjoin h htask
  refine ⟨l, hconduct, ?_, ?_⟩
  · rw [← countP_isTokenCall_quiet]
    exact hprefix.sublist.countP_le
  · rw [← countP_isTransportCall_quiet]
    exact hprefix.sublist.countP_le

theorem countP_lifeline_le (i : Nat) :
    (lifeline i s.log).countP Act.isTokenCall ≤ 1 ∧
      (lifeline i s.log).countP Act.isTransportCall ≤ 1 := by
  cases htask : s.tasks[i]? with
  | none =>
    have hnil : lifeline i s.log = [] := by
      apply lifeline_eq_nil
      intro e he
      have hlt := (sound_of_run h).known e he
      have hge := List.getElem?_eq_none_iff.mp htask
      omega
    simp [hnil]
  | some task =>
    obtain ⟨l, hconduct, htoken, htransport⟩ := countP_lifeline hjoin h htask
    rw [hconduct.countP_isTokenCall] at htoken
    rw [hconduct.countP_isTransportCall] at htransport
    constructor
    · split_ifs at htoken <;> omega
    · split_ifs at htransport <;> omega

theorem countP_lifeline_of_refused {request : Inbound} {stage : Stage Response}
    (htask : s.tasks[i]? = some ⟨.forward request, stage⟩)
    (hno : ¬ ∃ url, backend.join (String.ofList request.target.forwarded) = .ok url) :
    (lifeline i s.log).countP Act.isTokenCall = 0 ∧
      (lifeline i s.log).countP Act.isTransportCall = 0 := by
  have hasks : (Operation.isCheck (.forward request) ||
      Operation.isJoined backend (.forward request)) = false := by
    rw [Operation.isCheck, Bool.false_or, Operation.isJoined]
    cases hjoined : backend.join (String.ofList request.target.forwarded) with
    | error e => rfl
    | ok url => exact absurd ⟨url, hjoined⟩ hno
  obtain ⟨l, hconduct, htoken, htransport⟩ := countP_lifeline hjoin h htask
  rw [hasks] at hconduct
  rw [hconduct.eq_began] at htoken htransport
  exact ⟨Nat.le_zero.mp htoken, Nat.le_zero.mp htransport⟩

/-- A finished operation made its calls. -/
theorem countP_lifeline_of_finished (hfinished : s.isFinished = true)
    {task : Task Operation.Result} (htask : s.tasks[i]? = some task) :
    (lifeline i s.log).countP Act.isTokenCall =
        (if task.operation.isCheck || task.operation.isJoined backend then 1 else 0) ∧
      (lifeline i s.log).countP Act.isTransportCall =
        if (lifeline i s.log).any bringsToken then 1 else 0 := by
  have hconduct := quiet_finished hjoin h hfinished htask
  rw [← countP_isTokenCall_quiet, ← countP_isTransportCall_quiet, ← any_bringsToken_quiet]
  exact ⟨hconduct.countP_isTokenCall, hconduct.countP_isTransportCall⟩

theorem tokenCalls_of_finished (hfinished : s.isFinished = true) :
    s.log.countP (fun e => e.2.isTokenCall) = s.tasks.countP (fun task => task.operation.isCheck) +
      s.tasks.countP fun task => task.operation.isJoined backend := by
  -- no operation is counted twice, so both sides can be compared place by place
  have hdisjoint : ∀ task ∈ s.tasks, ¬ (task.operation.isCheck = true ∧
      task.operation.isJoined backend = true) := by
    rintro ⟨o, stage⟩ - ⟨hcheck, hforward⟩
    cases o with
    | check => cases hforward
    | forward request => cases hcheck
  rw [countP_log (sound_of_run h).known, ← countP_or _ _ _ hdisjoint, countP_eq_sum]
  apply Finset.sum_congr rfl
  intro i hi
  have htask := List.getElem?_eq_getElem (Finset.mem_range.mp hi)
  rw [(countP_lifeline_of_finished hjoin h hfinished htask).1, htask, Option.any_some]

theorem transportCalls_of_finished (hfinished : s.isFinished = true) :
    s.log.countP (fun e => e.2.isTransportCall) =
      (List.range s.tasks.length).countP fun i => (lifeline i s.log).any bringsToken := by
  rw [countP_log (sound_of_run h).known, countP_eq_sum, List.length_range]
  apply Finset.sum_congr rfl
  intro i hi
  have hlt := Finset.mem_range.mp hi
  have htask := List.getElem?_eq_getElem hlt
  rw [(countP_lifeline_of_finished hjoin h hfinished htask).2, List.getElem?_range hlt,
    Option.any_some]

end Fresh

/-- However checks and requests take turns, and whatever they are answered, each request to the
broker carries a token of its own, fetched for it after its operation began, and no token is fetched
for a request that cannot be forwarded. -/
theorem traffic_fresh {raw : String} {backend : Endpoint}
    (hparse : Endpoint.parse raw = .ok backend) {turns : List (Turn Operation)}
    {s : Traffic Operation.Result}
    (h : Traffic.run (Operation.program backend) turns = some s) : Fresh backend s := by
  obtain ⟨url, hjoin, -⟩ := exists_catalogUrl hparse
  exact {
    obtained := fun k i out hk => exists_obtained hjoin h hk
    unshared := fun call k k' hk hk' => obtained_unshared hjoin h hk hk'
    once := countP_lifeline_le hjoin h
    refused := fun i request stage htask hno => countP_lifeline_of_refused hjoin h htask hno
    tokenCalls := tokenCalls_of_finished hjoin h
    transportCalls := transportCalls_of_finished hjoin h }

/-- A check, a request, and a request that cannot be forwarded. The request begins after the check
and overtakes it. -/
def overtaking : List (Turn Operation) :=
  let itself (i n : Nat) : List (Turn Operation) := List.replicate n (.moves i .itself)
  let reply : Except GateError Response := .ok ⟨200, [], .empty⟩
  [.begins .check] ++ itself 0 2 ++
    [.begins (.forward (catalogRequest [])),
      .begins (.forward { catalogRequest [] with target := ⟨some "/a/../b".toList⟩ })] ++
    itself 1 2 ++ [.moves 1 (.token (.ok ⟨"later"⟩))] ++ itself 2 2 ++ itself 1 4 ++
    [.moves 0 (.token (.ok ⟨"earlier"⟩))] ++ itself 0 2 ++ [.moves 1 (.reply reply)] ++
    itself 2 2 ++ itself 1 2 ++ [.moves 0 (.reply reply)] ++ itself 0 4

theorem traffic_fresh_overtaking : ∃ s,
    Traffic.run (Operation.program Endpoint.prefixed) overtaking = some s ∧
      s.log.countP (fun e => e.2.isTokenCall) = 2 ∧
      s.log.countP (fun e => e.2.isTransportCall) = 2 ∧
      ∃ call call', call ≠ call' ∧ Obtained s.log call 8 ∧ Obtained s.log call' 10 := by
  have hparse : Endpoint.parse "https://u:p@h.example:8443/gcp//" = .ok Endpoint.prefixed := by
    decide +kernel
  have hend : (Traffic.run (Operation.program Endpoint.prefixed) overtaking).map (fun s =>
      (s.isFinished, s.tasks.countP (fun task => task.operation.isCheck),
        s.tasks.countP (fun task => task.operation.isJoined Endpoint.prefixed),
        (List.range s.tasks.length).countP (fun i => (lifeline i s.log).any bringsToken),
        [8, 10].all fun k => s.log[k]?.any fun e => e.2.isTransportCall)) =
      some (true, 1, 1, 2, true) := by decide +kernel
  obtain ⟨s, hrun, hs⟩ := Option.map_eq_some_iff.mp hend
  simp only [Prod.mk.injEq] at hs
  obtain ⟨hfinished, hchecks, hjoined, htokens, hplaces⟩ := hs
  have hfresh := traffic_fresh hparse hrun
  have hobtained : ∀ k ∈ [8, 10], ∃ call, Obtained s.log call k := by
    intro k hk
    obtain ⟨⟨i, a⟩, hplace, hsent⟩ := (Option.any_eq_true ..).mp (List.all_eq_true.mp hplaces k hk)
    cases a with
    | sent out => exact hfresh.obtained k i out hplace
    | _ => cases hsent
  refine ⟨s, hrun, ?_, ?_, ?_⟩
  · rw [hfresh.tokenCalls hfinished, hchecks, hjoined]
  · rw [hfresh.transportCalls hfinished, htokens]
  · obtain ⟨call, hcall⟩ := hobtained 8 (by simp)
    obtain ⟨call', hcall'⟩ := hobtained 10 (by simp)
    refine ⟨call, call', ?_, hcall, hcall'⟩
    rintro rfl
    exact absurd (hfresh.unshared call 8 10 hcall hcall') (by decide)

end BrokerGate.Proxy
