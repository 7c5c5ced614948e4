import BrokerGate.Proofs.Proxy.Outcome
import BrokerGate.Proofs.Proxy.Relay
import BrokerGate.Proofs.Proxy.Startup

/-! The check before serving and a bare request for the catalog are one call to the broker. The two
do their steps in different orders and start from different fields, but the catalog path always
joins and no field is there to be stripped; so they ask for the same and fail for the same
reasons. -/
namespace BrokerGate.Proxy
open Text Http Exchange

/-- A request to read a target that brings neither fields nor a body, from nobody known. -/
def bareRequest (target : RequestTarget) : Inbound := ⟨.get, target, [], none, none⟩

/-- Forwarding a bare request sends what the check sends. -/
theorem outbound_bareRequest (target : RequestTarget) (url : Url) (t : BearerToken) :
    outbound (bareRequest target) url t.bearerValue = catalogCall url t := by
  have hpassed : passedFields (bareRequest target) = [] := rfl
  have hother : FieldName.authorization ≠ .apiVersion := by decide +kernel
  rw [outbound, hpassed, catalogCall]
  simp [bareRequest, Fields.set, Fields.erase, hother, apiVersion]

theorem get_ne_head : Method.get ≠ .head := by decide +kernel

theorem get_ne_connect : Method.get ≠ .connect := by decide +kernel

theorem failed_get (e : GateError) : failed .get e = withLength (errorResponse e) :=
  withoutUnwantedBody_of_method get_ne_head get_ne_connect _

/-- No failure is reported with the status that the check wants. -/
theorem status_errorResponse (e : GateError) : (withLength (errorResponse e)).status ≠ 200 := by
  have hstatus : (withLength (errorResponse e)).status = (classify e).status := by
    unfold withLength
    split <;> rfl
  rw [hstatus]
  cases e <;> simp [classify]

section Definitions
variable {σ : Type} (check : Outcome σ (Except GateError Unit)) (forwarded : Outcome σ Response)

/-- The same calls, and the same state of whoever answered them. -/
structure SameCalls : Prop where
  tokenCalls : tokenCalls forwarded.calls = tokenCalls check.calls
  requests : requests forwarded.calls = requests check.calls
  state : forwarded.state = check.state

/-- The check fails with an error, and the caller is told of exactly this error. -/
structure FailBoth (e : GateError) : Prop where
  checked : check.result = .error e
  answer : forwarded.result = withLength (errorResponse e)
  reports : Reports forwarded.result (classify e) e.message

/-- The check and the forwarding of a request, given the same answers, make the same calls and come
to corresponding ends. -/
structure Agree (answers : Answers σ) (state : σ) (url : Url) : Prop where
  calls : SameCalls check forwarded
  withoutToken : ∀ e, (answers.token state).1 = .error e → FailBoth check forwarded e.asCredential
  unusableToken : ∀ t, (answers.token state).1 = .ok t → t.Unsendable →
    FailBoth check forwarded (.credential "token is not a valid header value")
  undelivered : ∀ t e, (answers.token state).1 = .ok t → ¬ t.Unsendable →
    (answers.reply (catalogCall url t) (answers.token state).2).1 = .error e →
    FailBoth check forwarded e
  answered : ∀ t reply, (answers.token state).1 = .ok t → ¬ t.Unsendable →
    (answers.reply (catalogCall url t) (answers.token state).2).1 = .ok reply →
    Judged reply check.result ∧ Relays reply forwarded.result
  accepted : check.result = .ok () ↔ forwarded.result.status = 200

end Definitions

section Run
variable {σ : Type} {answers : Answers σ} {state : σ} {backend : Endpoint} {url : Url}
  {target : RequestTarget} {t : BearerToken} {e : GateError} {reply : Response}
  {check : Outcome σ (Except GateError Unit)} {forwarded : Outcome σ Response}

theorem failBoth_intro (hcheck : check.result = .error e)
    (hforwarded : forwarded.result = failed .get e) : FailBoth check forwarded e where
  checked := hcheck
  answer := by rw [hforwarded, failed_get]
  reports := by
    rw [hforwarded]
    exact reports_failed get_ne_head get_ne_connect e

theorem FailBoth.accepted_iff (h : FailBoth check forwarded e) :
    check.result = .ok () ↔ forwarded.result.status = 200 := by
  constructor
  · intro hok
    rw [h.checked] at hok
    cases hok
  · intro hstatus
    rw [h.answer] at hstatus
    exact absurd hstatus (status_errorResponse e)

theorem failBoth_of_token_error
    (hforward : backend.join (String.ofList (bareRequest target).target.forwarded) = .ok url)
    (htoken : (answers.token state).1 = .error e) :
    let check := (startupCheck backend).run answers state
    let forwarded := (forward backend (bareRequest target)).run answers state
    SameCalls check forwarded ∧ FailBoth check forwarded e.asCredential := by
  rw [run_startupCheck_of_token_error htoken, run_forward_of_token_error hforward htoken]
  exact ⟨⟨rfl, rfl, rfl⟩, failBoth_intro rfl rfl⟩

theorem failBoth_of_unsendable (hjoin : backend.join catalogPath = .ok url)
    (hforward : backend.join (String.ofList (bareRequest target).target.forwarded) = .ok url)
    (htoken : (answers.token state).1 = .ok t) (hsend : t.Unsendable) :
    let check := (startupCheck backend).run answers state
    let forwarded := (forward backend (bareRequest target)).run answers state
    SameCalls check forwarded ∧
      FailBoth check forwarded (.credential "token is not a valid header value") := by
  have hrun := run_forward_of_value_error hforward htoken
    (BearerToken.authorization_of_unsendable hsend)
  rw [run_startupCheck_of_unsendable hjoin htoken hsend, hrun]
  exact ⟨⟨rfl, rfl, rfl⟩, failBoth_intro rfl rfl⟩

theorem failBoth_of_transport_error (hjoin : backend.join catalogPath = .ok url)
    (hforward : backend.join (String.ofList (bareRequest target).target.forwarded) = .ok url)
    (htoken : (answers.token state).1 = .ok t) (hsend : ¬ t.Unsendable)
    (hreply : (answers.reply (catalogCall url t) (answers.token state).2).1 = .error e) :
    let check := (startupCheck backend).run answers state
    let forwarded := (forward backend (bareRequest target)).run answers state
    SameCalls check forwarded ∧ FailBoth check forwarded e := by
  have hpair : answers.reply (catalogCall url t) (answers.token state).2 = (.error e, _) :=
    Prod.ext hreply rfl
  have hrun := run_forward_of_transport_error hforward htoken
    (BearerToken.authorization_of_sendable hsend) (by rw [outbound_bareRequest]; exact hpair)
  rw [run_startupCheck_of_transport_error hjoin htoken hsend hpair, hrun, outbound_bareRequest]
  exact ⟨⟨rfl, rfl, rfl⟩, failBoth_intro rfl rfl⟩

/-- Once there is a reply the check judges it and the caller is given it. -/
theorem judged_and_relayed (hjoin : backend.join catalogPath = .ok url)
    (hforward : backend.join (String.ofList (bareRequest target).target.forwarded) = .ok url)
    (htoken : (answers.token state).1 = .ok t) (hsend : ¬ t.Unsendable)
    (hreply : (answers.reply (catalogCall url t) (answers.token state).2).1 = .ok reply) :
    let check := (startupCheck backend).run answers state
    let forwarded := (forward backend (bareRequest target)).run answers state
    SameCalls check forwarded ∧ Judged reply check.result ∧ Relays reply forwarded.result := by
  have hpair : answers.reply (catalogCall url t) (answers.token state).2 = (.ok reply, _) :=
    Prod.ext hreply rfl
  have hrelayed : withoutUnwantedBody (bareRequest target).method (relay reply) = relay reply :=
    withoutUnwantedBody_of_method get_ne_head get_ne_connect _
  have hrun := run_forward_of_reply hforward htoken
    (BearerToken.authorization_of_sendable hsend) (by rw [outbound_bareRequest]; exact hpair)
  rw [hrun, hrelayed, outbound_bareRequest]
  by_cases hstatus : reply.status = 200
  · rw [run_startupCheck_of_accepted hjoin htoken hsend hpair hstatus]
    exact ⟨⟨rfl, rfl, rfl⟩, judged_accepted hstatus, relays_relay reply⟩
  · rw [run_startupCheck_of_rejected hjoin htoken hsend hpair hstatus]
    exact ⟨⟨rfl, rfl, rfl⟩, judged_rejected hstatus, relays_relay reply⟩

/-- Whatever the answers are, the calls are the same, and the check accepts exactly what the caller
sees as accepted. -/
theorem sameCalls_and_accepted (hjoin : backend.join catalogPath = .ok url)
    (hforward : backend.join (String.ofList (bareRequest target).target.forwarded) = .ok url) :
    let check := (startupCheck backend).run answers state
    let forwarded := (forward backend (bareRequest target)).run answers state
    SameCalls check forwarded ∧ (check.result = .ok () ↔ forwarded.result.status = 200) := by
  cases htoken : (answers.token state).1 with
  | error e =>
    obtain ⟨hcalls, hfail⟩ := failBoth_of_token_error hforward htoken
    exact ⟨hcalls, hfail.accepted_iff⟩
  | ok t =>
    by_cases hsend : t.Unsendable
    · obtain ⟨hcalls, hfail⟩ := failBoth_of_unsendable hjoin hforward htoken hsend
      exact ⟨hcalls, hfail.accepted_iff⟩
    · cases hreply : (answers.reply (catalogCall url t) (answers.token state).2).1 with
      | error e =>
        obtain ⟨hcalls, hfail⟩ := failBoth_of_transport_error hjoin hforward htoken hsend hreply
        exact ⟨hcalls, hfail.accepted_iff⟩
      | ok reply =>
        obtain ⟨hcalls, hjudged, hrelays⟩ := judged_and_relayed hjoin hforward htoken hsend hreply
        refine ⟨hcalls, ?_⟩
        rw [hrelays.status]
        exact hjudged.accepted

end Run

/-- For every endpoint, the check and the forwarding of a bare request for the catalog ask for one
token and send the same request. Where the token source, the token or the transport fails, both
fail, the caller being told of the very error that the check returns; and the check succeeds exactly
if the caller is answered with status 200. -/
theorem check_agrees_with_forward {σ : Type} (answers : Answers σ) (state : σ) {raw : String}
    {backend : Endpoint} (hparse : Endpoint.parse raw = .ok backend) {target : RequestTarget}
    (htarget : target.forwarded = "/v2/catalog".toList) :
    ∃ url, backend.join "/v2/catalog" = .ok url ∧
      Agree ((startupCheck backend).run answers state)
        ((forward backend ⟨.get, target, [], none, none⟩).run answers state) answers state url := by
  obtain ⟨url, hjoin, -⟩ := exists_catalogUrl hparse
  have hforward : backend.join (String.ofList (bareRequest target).target.forwarded) = .ok url := by
    rw [bareRequest, htarget, String.ofList_toList]
    exact hjoin
  refine ⟨url, hjoin, ?_⟩
  have hbare : (⟨.get, target, [], none, none⟩ : Inbound) = bareRequest target := rfl
  rw [hbare]
  obtain ⟨hcalls, haccepted⟩ := sameCalls_and_accepted hjoin hforward
  exact {
    calls := hcalls
    withoutToken := fun e htoken => (failBoth_of_token_error hforward htoken).2
    unusableToken := fun t htoken hsend =>
      (failBoth_of_unsendable hjoin hforward htoken hsend).2
    undelivered := fun t e htoken hsend hreply =>
      (failBoth_of_transport_error hjoin hforward htoken hsend hreply).2
    answered := fun t reply htoken hsend hreply =>
      (judged_and_relayed hjoin hforward htoken hsend hreply).2
    accepted := haccepted }

/-- A transport that never reaches the broker. -/
def disconnected : Answers Unit :=
  { willing with reply := fun _ s => (.error (.transport "connection refused"), s) }

theorem check_agrees_with_forward_disconnected :
    Inbound.ofParts "GET" "/v2/catalog" [] none none =
        .ok ⟨.get, ⟨some "/v2/catalog".toList⟩, [], none, none⟩ ∧
      ((startupCheck Endpoint.prefixed).run disconnected ()).result =
        .error (.transport "connection refused") ∧
      Reports ((forward Endpoint.prefixed ⟨.get, ⟨some "/v2/catalog".toList⟩, [], none, none⟩).run
          disconnected ()).result ⟨502, "server_error", "upstream_error"⟩
        "broker request failed: connection refused" ∧
      (requests ((forward Endpoint.prefixed ⟨.get, ⟨some "/v2/catalog".toList⟩, [], none,
        none⟩).run disconnected ()).calls).length = 1 := by
  have hparse : Endpoint.parse "https://u:p@h.example:8443/gcp//" = .ok Endpoint.prefixed := by
    decide +kernel
  have hsend : ¬ (⟨"tok"⟩ : BearerToken).Unsendable := by decide +kernel
  have htarget : (⟨some "/v2/catalog".toList⟩ : RequestTarget).forwarded =
      "/v2/catalog".toList := by decide +kernel
  obtain ⟨url, hjoin, hagree⟩ := check_agrees_with_forward disconnected () hparse htarget
  have hfail := hagree.undelivered ⟨"tok"⟩ _ rfl hsend rfl
  have hrequest : Inbound.ofParts "GET" "/v2/catalog" [] none none =
      .ok ⟨.get, ⟨some "/v2/catalog".toList⟩, [], none, none⟩ := by
    have hmethod : Method.ofText? "GET" = some .get := by decide +kernel
    have htarget : RequestTarget.parse "/v2/catalog".toList = .ok ⟨some "/v2/catalog".toList⟩ := by
      decide +kernel
    simp only [Inbound.ofParts, hmethod, htarget]
    rfl
  have hmessage : GateError.message (.transport "connection refused") =
      "broker request failed: connection refused" := by decide +kernel
  refine ⟨hrequest, hfail.checked, hmessage ▸ hfail.reports, ?_⟩
  have htoken : (disconnected.token ()).1 = .ok ⟨"tok"⟩ := rfl
  obtain ⟨answer, events, hcalls⟩ := calls_startupCheck hjoin htoken hsend
  rw [hagree.calls.requests, hcalls]
  simp [requests]

end BrokerGate.Proxy
