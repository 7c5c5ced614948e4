import BrokerGate.Proofs.Exchange.Secrecy
import BrokerGate.Proofs.Exchange.Traffic
import BrokerGate.Proofs.Proxy.Startup
import BrokerGate.Proxy.Operation

/-! A token goes into one header value and nowhere else. Whatever the proxy does one operation after
another, nobody but the broker can tell from it which tokens were fetched. -/
namespace BrokerGate.Proxy
open Text Http Exchange

section Fields
variable {t t' : BearerToken}

theorem applyBrokerFields_of_unsendable (fs : Fields) (h : t.Unsendable) :
    applyBrokerFields fs t = .error (.credential "token is not a valid header value") := by
  rw [applyBrokerFields, BearerToken.authorization_of_unsendable h]

theorem applyBrokerFields_of_sendable (fs : Fields) (h : ¬ t.Unsendable) :
    applyBrokerFields fs t =
      .ok ((fs.set .authorization t.bearerValue).set .apiVersion (.ofText apiVersion)) := by
  rw [applyBrokerFields, BearerToken.authorization_of_sendable h]

/-- The fields that the proxy sets hold the token in one place, which is marked sensitive. -/
theorem guarded_brokerFields (fs : Fields) (t : BearerToken) (m : Method) (url : Url)
    (body : Option Body) : Outbound.Guarded ⟨m, url,
      (fs.set .authorization t.bearerValue).set .apiVersion (.ofText apiVersion), body⟩ := by
  refine ⟨t.bearerValue, ?_, rfl⟩
  rw [Fields.values_set_other _ _ (by decide +kernel), Fields.values_set_self]

theorem alike_brokerFields (fs : Fields) (t t' : BearerToken) (m : Method) (url : Url)
    (body : Option Body) : Outbound.Alike
      ⟨m, url, (fs.set .authorization t.bearerValue).set .apiVersion (.ofText apiVersion), body⟩
      ⟨m, url, (fs.set .authorization t'.bearerValue).set .apiVersion (.ofText apiVersion),
        body⟩ where
  veiled := by
    have hsensitive : t.bearerValue.sensitive = t'.bearerValue.sensitive := rfl
    have hfields := Fields.veiled_set_congr (Fields.veiled_set_authorization hsensitive fs)
      .apiVersion (.ofText apiVersion)
    simp only [Outbound.veiled, hfields]
  guarded := guarded_brokerFields fs t m url body
  guarded' := guarded_brokerFields fs t' m url body

end Fields

section Programs

/-- Both operations go on from the fields in the same way: they fail without looking at the token
any further, or send it. -/
theorem alike_send {α : Type} {fs : Fields} {t t' : BearerToken} (h : t.Unsendable ↔ t'.Unsendable)
    {m : Method} {url : Url} {body : Option Body} {fail : GateError → Exchange α}
    (before : Exchange α → Exchange α) (hbefore : ∀ x y, Alike x y → Alike (before x) (before y))
    {next : Except GateError Response → Exchange α} (hfail : ∀ e, Alike (fail e) (fail e))
    (hnext : ∀ r, Alike (next r) (next r)) :
    Alike
      (match applyBrokerFields fs t with
        | .error e => fail e
        | .ok fields => before (.send ⟨m, url, fields, body⟩ next))
      (match applyBrokerFields fs t' with
        | .error e => fail e
        | .ok fields => before (.send ⟨m, url, fields, body⟩ next)) := by
  by_cases ht : t.Unsendable
  · rw [applyBrokerFields_of_unsendable fs ht, applyBrokerFields_of_unsendable fs (h.mp ht)]
    exact hfail _
  · rw [applyBrokerFields_of_sendable fs ht,
      applyBrokerFields_of_sendable fs fun ht' => ht (h.mpr ht')]
    exact hbefore _ _ (.send (alike_brokerFields fs t t' m url body) hnext)

theorem alike_startupCheck (backend : Endpoint) :
    Alike (startupCheck backend) (startupCheck backend) := by
  apply Alike.fetch
  intro token token' htokens
  match token, token', htokens with
  | .error e, .error _, rfl => exact .done _
  | .ok t, .ok t', h =>
    dsimp only
    cases backend.join catalogPath with
    | error e => exact .done _
    | ok url =>
      refine alike_send h id (fun _ _ h => h) (fun e => .done _) fun r => ?_
      cases r with
      | error e => exact .done _
      | ok reply =>
        dsimp only
        split
        · exact .note _ (.done _)
        · exact .done _

theorem alike_exchange (backend : Endpoint) (request : Inbound) :
    Alike (exchange backend request) (exchange backend request) := by
  unfold exchange
  cases backend.join (String.ofList request.target.forwarded) with
  | error e => exact .done _
  | ok url =>
    apply Alike.fetch
    intro token token' htokens
    match token, token', htokens with
    | .error e, .error _, rfl => exact .done _
    | .ok t, .ok t', h =>
      refine alike_send h (.note _) (fun _ _ h => .note _ h) (fun e => .done _) fun r => ?_
      cases r with
      | error e => exact .done _
      | ok reply => exact .done _

theorem alike_forward (backend : Endpoint) (request : Inbound) :
    Alike (forward backend request) (forward backend request) := by
  unfold forward
  apply Alike.andThen (alike_exchange backend request)
  intro r
  cases r with
  | error e => exact .note _ (.done _)
  | ok reply => exact .done _

theorem alike_program (backend : Endpoint) (o : Operation) :
    Alike (o.program backend) (o.program backend) := by
  cases o with
  | check => exact alike_startupCheck backend
  | forward request => exact alike_forward backend request

end Programs

section Unusable
variable {σ : Type} {answers : Answers σ} {state : σ} {backend : Endpoint} {t : BearerToken}
  {e : GateError}

theorem run_startupCheck_of_join_error (hjoin : backend.join catalogPath = .error e)
    (htoken : (answers.token state).1 = .ok t) : (startupCheck backend).run answers state =
      ⟨.error e, [.token (.ok t)], (answers.token state).2⟩ := by
  simp only [startupCheck, Exchange.run, htoken, hjoin]
  rfl

/-- The check sends nothing with a token that cannot be sent. -/
theorem requests_startupCheck_of_unsendable
    (h : .token (.ok t) ∈ ((startupCheck backend).run answers state).calls) (ht : t.Unsendable) :
    requests ((startupCheck backend).run answers state).calls = [] := by
  cases htoken : (answers.token state).1 with
  | error e =>
    rw [run_startupCheck_of_token_error htoken]
    rfl
  | ok t' =>
    cases hjoin : backend.join catalogPath with
    | error e =>
      rw [run_startupCheck_of_join_error hjoin htoken]
      rfl
    | ok url =>
      by_cases hsend : t'.Unsendable
      · rw [run_startupCheck_of_unsendable hjoin htoken hsend]
        rfl
      · obtain ⟨answer, events, hcalls⟩ := calls_startupCheck hjoin htoken hsend
        rw [hcalls] at h
        obtain rfl : t = t' := by simpa using h
        exact absurd ht hsend

theorem requests_forward_of_unsendable {request : Inbound}
    (h : .token (.ok t) ∈ ((forward backend request).run answers state).calls)
    (ht : t.Unsendable) : requests ((forward backend request).run answers state).calls = [] := by
  cases hjoin : backend.join (String.ofList request.target.forwarded) with
  | error e =>
    rw [run_forward_of_join_error hjoin]
    rfl
  | ok url =>
    cases htoken : (answers.token state).1 with
    | error e =>
      rw [run_forward_of_token_error hjoin htoken]
      rfl
    | ok t' =>
      by_cases hsend : t'.Unsendable
      · have hvalue := BearerToken.authorization_of_unsendable hsend
        rw [run_forward_of_value_error hjoin htoken hvalue]
        rfl
      · have hvalue := BearerToken.authorization_of_sendable hsend
        have hother : t ≠ t' := by
          rintro rfl
          exact hsend ht
        cases hreply : answers.reply (outbound request url t'.bearerValue)
            (answers.token state).2 with
        | mk answer s =>
          cases answer with
          | error e =>
            rw [run_forward_of_transport_error hjoin htoken hvalue hreply] at h
            simp [hother] at h
          | ok reply =>
            rw [run_forward_of_reply hjoin htoken hvalue hreply] at h
            simp [hother] at h

theorem requests_program_of_unsendable (o : Operation)
    (h : .token (.ok t) ∈ ((o.program backend).run answers state).calls) (ht : t.Unsendable) :
    requests ((o.program backend).run answers state).calls = [] := by
  cases o with
  | check => exact requests_startupCheck_of_unsendable h ht
  | forward request => exact requests_forward_of_unsendable h ht

end Unusable

/-- Two runs of an operation that only the broker can tell apart, by the authorization that it is
sent. With a token that cannot be sent it is sent nothing. -/
structure Indistinguishable {σ τ α : Type} (r : Outcome σ α) (r' : Outcome τ α) : Prop where
  result : r.result = r'.result
  events : events r.calls = events r'.calls
  tokenCalls : tokenCalls r.calls = tokenCalls r'.calls
  requests : List.Forall₂ Outbound.Alike (requests r.calls) (requests r'.calls)
  unusable : ∀ t, .token (.ok t) ∈ r.calls → t.Unsendable →
    Exchange.requests r.calls = [] ∧ Exchange.requests r'.calls = []

/-- Two runs of the same operation, as parts of two sequences. -/
inductive SameEntry {σ τ : Type} : Entry σ → Entry τ → Prop
  | intro (o : Operation) {r : Outcome σ o.Result} {r' : Outcome τ o.Result}
    (h : Indistinguishable r r') : SameEntry ⟨o, r⟩ ⟨o, r'⟩

section Sequence
variable {σ τ : Type} {R : σ → τ → Prop} {a : Answers σ} {b : Answers τ} {s : σ} {t : τ}

theorem indistinguishable_program (hab : Answers.Alike R a b) (hst : R s t) (backend : Endpoint)
    (o : Operation) :
    Indistinguishable ((o.program backend).run a s) ((o.program backend).run b t) := by
  have halike := (alike_program backend o).run hab hst
  have hrequests := requests_of_alike halike.calls
  constructor
  · exact halike.result
  · exact events_of_alike halike.calls
  · exact tokenCalls_of_alike halike.calls
  · exact hrequests
  · intro t hcall ht
    have hnone := requests_program_of_unsendable o hcall ht
    rw [hnone] at hrequests
    exact ⟨hnone, List.forall₂_nil_left_iff.mp hrequests⟩

end Sequence

/-- Any operations, run twice with sources that answer alike but for their tokens and with
transports that do not look at the authorization: results, errors, answers to callers and events are
the same, and so are the requests but for the bytes of an authorization that is marked sensitive. -/
theorem runAll_indistinguishable {σ τ : Type} {R : σ → τ → Prop} {a : Answers σ} {b : Answers τ}
    (hab : Answers.Alike R a b) {s : σ} {t : τ} (hst : R s t) (backend : Endpoint)
    (operations : List Operation) :
    List.Forall₂ SameEntry (runAll backend a s operations) (runAll backend b t operations) := by
  induction operations generalizing s t with
  | nil => exact .nil
  | cons o more ih =>
    have hnext := ((alike_program backend o).run hab hst).state
    exact .cons (.intro o (indistinguishable_program hab hst backend o)) (ih hnext)

/-- Scripts with tokens that differ. -/
def AlikeScripts : List (Except GateError BearerToken) × List (Except GateError Response) →
    List (Except GateError BearerToken) × List (Except GateError Response) → Prop :=
  fun s t => List.Forall₂ AlikeTokens s.1 t.1 ∧ s.2 = t.2

theorem scripted_alike : Answers.Alike AlikeScripts scripted scripted where
  token := by
    rintro ⟨ts, rs⟩ ⟨ts', rs'⟩ ⟨htokens, rfl⟩
    cases htokens with
    | nil => exact ⟨rfl, .nil, rfl⟩
    | cons h hmore => exact ⟨h, hmore, rfl⟩
  reply := by
    rintro ⟨ts, rs⟩ ⟨ts', rs'⟩ out out' ⟨htokens, rfl⟩ -
    cases rs with
    | nil => exact ⟨rfl, htokens, rfl⟩
    | cons r rs => exact ⟨rfl, htokens, rfl⟩

/-- A token that can be sent, one that cannot, and none. -/
def threeTokens (good bad : String) :
    List (Except GateError BearerToken) × List (Except GateError Response) :=
  ([.ok ⟨good⟩, .ok ⟨bad⟩, .error (.transport "gone")], [.ok ⟨200, [], .empty⟩])

theorem runAll_indistinguishable_differing :
    let operations := [.check, .forward (catalogRequest []), .check]
    let entries (good bad : String) :=
      runAll Endpoint.prefixed scripted (threeTokens good bad) operations
    let authorizations (good bad : String) := (entries good bad).map fun x =>
      (requests x.outcome.calls).flatMap fun out => out.fields.values .authorization
    List.Forall₂ SameEntry (entries "alpha" "be\nta") (entries "gamma" "\r") ∧
      authorizations "alpha" "be\nta" = [[BearerToken.bearerValue ⟨"alpha"⟩], [], []] ∧
      authorizations "gamma" "\r" = [[BearerToken.bearerValue ⟨"gamma"⟩], [], []] := by
  have hscripts : AlikeScripts (threeTokens "alpha" "be\nta") (threeTokens "gamma" "\r") := by
    refine ⟨.cons ?_ (.cons ?_ (.cons rfl .nil)), rfl⟩
    · exact iff_of_false (by decide +kernel) (by decide +kernel)
    · exact iff_of_true (by decide +kernel) (by decide +kernel)
  refine ⟨runAll_indistinguishable scripted_alike hscripts _ _, ?_, ?_⟩
  · decide +kernel
  · decide +kernel

end BrokerGate.Proxy
