import BrokerGate.Proofs.Credential.Token
import BrokerGate.Proofs.Endpoint.Display
import BrokerGate.Proofs.Endpoint.Forwardable
import BrokerGate.Proofs.Proxy.Forward
import BrokerGate.Proofs.Text.Utf8
import BrokerGate.Proxy.Startup

/-! What the check before serving does, whoever answers. The catalog path can be joined to every
endpoint, so the token is never fetched in vain; after that token source and transport alone decide
how the check ends. -/
namespace BrokerGate.Proxy
open Text Http Exchange

/-- The request of the check. -/
def catalogCall (url : Url) (t : BearerToken) : Outbound :=
  ⟨.get, url, [(.authorization, t.bearerValue), (.apiVersion, .ofText "2.14")], none⟩

theorem applyBrokerFields_nil {t : BearerToken} (h : ¬ t.Unsendable) :
    applyBrokerFields [] t =
      .ok [(.authorization, t.bearerValue), (.apiVersion, .ofText "2.14")] := by
  have hother : FieldName.authorization ≠ .apiVersion := by decide +kernel
  simp [applyBrokerFields, BearerToken.authorization_of_sendable h, Fields.set, Fields.erase,
    hother, apiVersion]

/-- The catalog path has neither dots nor characters that would be escaped. -/
theorem exists_catalogUrl {raw : String} {backend : Endpoint}
    (h : Endpoint.parse raw = .ok backend) : ∃ url, backend.join catalogPath = .ok url ∧
      url.text = backend.display ++ "/v2/catalog".toList := by
  obtain ⟨port, a, root, hsettled⟩ := Endpoint.settled_of_parse h
  have hcut : catalogPath.toList = catalogPath.toList ++ Url.suffixText '?' none := by
    rw [Url.suffixText, List.append_nil]
  have hforwardable : Endpoint.Forwardable catalogPath.toList none := by decide +kernel
  obtain ⟨url, hurl⟩ := (Endpoint.join_ok_iff hsettled (by decide +kernel) hcut).mpr hforwardable
  refine ⟨url, hurl, ?_⟩
  rw [hsettled.text_of_join hurl, Endpoint.slashed, if_pos (by decide +kernel)]
  rfl

section Run
variable {σ : Type} {answers : Answers σ} {state s : σ} {backend : Endpoint} {url : Url}
  {t : BearerToken} {e : GateError}

theorem run_startupCheck_of_token_error (htoken : (answers.token state).1 = .error e) :
    (startupCheck backend).run answers state =
      ⟨.error e.asCredential, [.token (.error e)], (answers.token state).2⟩ := by
  simp only [startupCheck, run, htoken]
  rfl

theorem run_startupCheck_of_unsendable (hjoin : backend.join catalogPath = .ok url)
    (htoken : (answers.token state).1 = .ok t) (hsend : t.Unsendable) :
    (startupCheck backend).run answers state =
      ⟨.error (.credential "token is not a valid header value"), [.token (.ok t)],
        (answers.token state).2⟩ := by
  simp only [startupCheck, run, htoken, hjoin, applyBrokerFields,
    BearerToken.authorization_of_unsendable hsend]
  rfl

theorem run_startupCheck_of_transport_error (hjoin : backend.join catalogPath = .ok url)
    (htoken : (answers.token state).1 = .ok t) (hsend : ¬ t.Unsendable)
    (hreply : answers.reply (catalogCall url t) (answers.token state).2 = (.error e, s)) :
    (startupCheck backend).run answers state =
      ⟨.error e, [.token (.ok t), .request (catalogCall url t) (.error e)], s⟩ := by
  rw [catalogCall] at hreply ⊢
  simp only [startupCheck, run, htoken, hjoin, applyBrokerFields_nil hsend, hreply]
  rfl

theorem run_startupCheck_of_accepted {reply : Response}
    (hjoin : backend.join catalogPath = .ok url) (htoken : (answers.token state).1 = .ok t)
    (hsend : ¬ t.Unsendable)
    (hreply : answers.reply (catalogCall url t) (answers.token state).2 = (.ok reply, s))
    (hstatus : reply.status = 200) :
    (startupCheck backend).run answers state =
      ⟨.ok (), [.token (.ok t), .request (catalogCall url t) (.ok reply),
        .event (passedEvent backend)], s⟩ := by
  rw [catalogCall] at hreply ⊢
  simp only [startupCheck, run, htoken, hjoin, applyBrokerFields_nil hsend, hreply, hstatus,
    if_true]

theorem run_startupCheck_of_rejected {reply : Response}
    (hjoin : backend.join catalogPath = .ok url) (htoken : (answers.token state).1 = .ok t)
    (hsend : ¬ t.Unsendable)
    (hreply : answers.reply (catalogCall url t) (answers.token state).2 = (.ok reply, s))
    (hstatus : reply.status ≠ 200) :
    (startupCheck backend).run answers state =
      ⟨.error (.rejection reply.status (rejectionText reply.body)),
        [.token (.ok t), .request (catalogCall url t) (.ok reply)], s⟩ := by
  rw [catalogCall] at hreply ⊢
  simp only [startupCheck, run, htoken, hjoin, applyBrokerFields_nil hsend, hreply, hstatus,
    if_false]
  rfl

end Run

/-- What a reply makes of the check: of its body nothing counts if it is accepted, and all of it is
shown if it is not, unless the body cannot be read to its end. -/
structure Judged (reply : Response) (result : Except GateError Unit) : Prop where
  accepted : result = .ok () ↔ reply.status = 200
  rejected : reply.status ≠ 200 → reply.body.broken = false →
    result = .error (.rejection reply.status (Utf8.toStringLossy reply.body.bytes))
  rejectedText : reply.status ≠ 200 → ∀ cs, reply.body.complete? = some (Utf8.encode cs) →
    result = .error (.rejection reply.status (String.ofList cs))
  unreadable : reply.status ≠ 200 → reply.body.broken = true →
    result = .error (.rejection reply.status "<unreadable body: error decoding response body>")

theorem rejectionText_of_complete {b : Body} (h : b.broken = false) :
    rejectionText b = Utf8.toStringLossy b.bytes := by
  simp [rejectionText, Body.complete?, h]

theorem rejectionText_of_broken {b : Body} (h : b.broken = true) :
    rejectionText b = "<unreadable body: error decoding response body>" := by
  simp [rejectionText, Body.complete?, h, unreadableBody]

theorem judged_accepted {reply : Response} (h : reply.status = 200) : Judged reply (.ok ()) where
  accepted := by simp [h]
  rejected := fun hno => absurd h hno
  rejectedText := fun hno => absurd h hno
  unreadable := fun hno => absurd h hno

theorem judged_rejected {reply : Response} (h : reply.status ≠ 200) :
    Judged reply (.error (.rejection reply.status (rejectionText reply.body))) where
  accepted := by simp [h]
  rejected := fun _ hbody => by rw [rejectionText_of_complete hbody]
  rejectedText := fun _ cs hbody => by
    simp [rejectionText, hbody, Utf8.toStringLossy]
  unreadable := fun _ hbody => by rw [rejectionText_of_broken hbody]

/-- How the check ends, by the answers that it gets: one token call, at most one request, and an
error that says which of the two failed. -/
structure Checked {σ : Type} (answers : Answers σ) (state : σ) (url : Url)
    (o : Outcome σ (Except GateError Unit)) : Prop where
  withoutToken : ∀ e, (answers.token state).1 = .error e →
    tokenCalls o.calls = 1 ∧ requests o.calls = [] ∧ o.result = .error e.asCredential ∧
      ∃ why, e.asCredential = .credential why
  unusableToken : ∀ t, (answers.token state).1 = .ok t → t.Unsendable →
    tokenCalls o.calls = 1 ∧ requests o.calls = [] ∧ ∃ why, o.result = .error (.credential why)
  sent : ∀ t, (answers.token state).1 = .ok t → ¬ t.Unsendable →
    tokenCalls o.calls = 1 ∧ requests o.calls = [catalogCall url t]
  undelivered : ∀ t e, (answers.token state).1 = .ok t → ¬ t.Unsendable →
    (answers.reply (catalogCall url t) (answers.token state).2).1 = .error e →
    o.result = .error e
  answered : ∀ t reply, (answers.token state).1 = .ok t → ¬ t.Unsendable →
    (answers.reply (catalogCall url t) (answers.token state).2).1 = .ok reply →
    Judged reply o.result

section Outcome
variable {σ : Type} {answers : Answers σ} {state : σ} {backend : Endpoint} {url : Url}

/-- With a token that can be sent one request goes out; after that the check only reports. -/
theorem calls_startupCheck {t : BearerToken} (hjoin : backend.join catalogPath = .ok url)
    (htoken : (answers.token state).1 = .ok t) (hsend : ¬ t.Unsendable) :
    ∃ answer, ∃ events : List Log.Event, ((startupCheck backend).run answers state).calls =
      .token (.ok t) :: .request (catalogCall url t) answer :: events.map .event := by
  cases hreply : answers.reply (catalogCall url t) (answers.token state).2 with
  | mk answer s =>
    cases answer with
    | error e =>
      rw [run_startupCheck_of_transport_error hjoin htoken hsend hreply]
      exact ⟨_, [], rfl⟩
    | ok reply =>
      by_cases hstatus : reply.status = 200
      · rw [run_startupCheck_of_accepted hjoin htoken hsend hreply hstatus]
        exact ⟨_, [passedEvent backend], rfl⟩
      · rw [run_startupCheck_of_rejected hjoin htoken hsend hreply hstatus]
        exact ⟨_, [], rfl⟩

/-- The ways a check can go: its result and its calls. -/
inductive CheckCourse (backend : Endpoint) (url : Url) : Except GateError Unit → List Call → Prop
  | withoutToken (e : GateError) :
    CheckCourse backend url (.error e.asCredential) [.token (.error e)]
  | unusableToken {t : BearerToken} (h : t.Unsendable) :
    CheckCourse backend url (.error (.credential "token is not a valid header value"))
      [.token (.ok t)]
  | undelivered (t : BearerToken) (e : GateError) :
    CheckCourse backend url (.error e) [.token (.ok t), .request (catalogCall url t) (.error e)]
  | rejected (t : BearerToken) (reply : Response) (h : reply.status ≠ 200) :
    CheckCourse backend url (.error (.rejection reply.status (rejectionText reply.body)))
      [.token (.ok t), .request (catalogCall url t) (.ok reply)]
  | accepted (t : BearerToken) (reply : Response) (h : reply.status = 200) :
    CheckCourse backend url (.ok ())
      [.token (.ok t), .request (catalogCall url t) (.ok reply), .event (passedEvent backend)]

theorem checkCourse_startupCheck (hjoin : backend.join catalogPath = .ok url) :
    CheckCourse backend url ((startupCheck backend).run answers state).result
      ((startupCheck backend).run answers state).calls := by
  cases htoken : (answers.token state).1 with
  | error e =>
    rw [run_startupCheck_of_token_error htoken]
    exact .withoutToken e
  | ok t =>
    by_cases hsend : t.Unsendable
    · rw [run_startupCheck_of_unsendable hjoin htoken hsend]
      exact .unusableToken hsend
    · cases hreply : (answers.reply (catalogCall url t) (answers.token state).2).1 with
      | error e =>
        rw [run_startupCheck_of_transport_error hjoin htoken hsend (Prod.ext hreply rfl)]
        exact .undelivered t e
      | ok reply =>
        by_cases hstatus : reply.status = 200
        · rw [run_startupCheck_of_accepted hjoin htoken hsend (Prod.ext hreply rfl) hstatus]
          exact .accepted t reply hstatus
        · rw [run_startupCheck_of_rejected hjoin htoken hsend (Prod.ext hreply rfl) hstatus]
          exact .rejected t reply hstatus

theorem checked_run (hjoin : backend.join catalogPath = .ok url) :
    Checked answers state url ((startupCheck backend).run answers state) where
  withoutToken := by
    intro e htoken
    have hcredential : ∃ why, e.asCredential = .credential why := by
      cases e <;> exact ⟨_, rfl⟩
    rw [run_startupCheck_of_token_error htoken]
    exact ⟨rfl, rfl, rfl, hcredential⟩
  unusableToken := by
    intro t htoken hsend
    rw [run_startupCheck_of_unsendable hjoin htoken hsend]
    exact ⟨rfl, rfl, _, rfl⟩
  sent := by
    intro t htoken hsend
    obtain ⟨answer, events, hcalls⟩ := calls_startupCheck hjoin htoken hsend
    rw [hcalls]
    simp [Exchange.tokenCalls, requests, Function.comp_def]
  undelivered := by
    intro t e htoken hsend hreply
    rw [run_startupCheck_of_transport_error hjoin htoken hsend (Prod.ext hreply rfl)]
  answered := by
    intro t reply htoken hsend hreply
    by_cases hstatus : reply.status = 200
    · rw [run_startupCheck_of_accepted hjoin htoken hsend (Prod.ext hreply rfl) hstatus]
      exact judged_accepted hstatus
    · rw [run_startupCheck_of_rejected hjoin htoken hsend (Prod.ext hreply rfl) hstatus]
      exact judged_rejected hstatus

/-- The check fails for the token, for the transport's own reason, or for the broker's answer. -/
theorem Checked.error_kind {o : Outcome σ (Except GateError Unit)} (h : Checked answers state url o)
    {e : GateError} (he : o.result = .error e) :
    (∃ why, e = .credential why) ∨ (∃ status body, e = .rejection status body) ∨
      ∃ out s, (answers.reply out s).1 = .error e := by
  cases htoken : (answers.token state).1 with
  | error cause =>
    obtain ⟨-, -, hresult, why, hwhy⟩ := h.withoutToken cause htoken
    rw [hresult, hwhy] at he
    cases he
    exact .inl ⟨why, rfl⟩
  | ok t =>
    by_cases hsend : t.Unsendable
    · obtain ⟨-, -, why, hresult⟩ := h.unusableToken t htoken hsend
      rw [hresult] at he
      cases he
      exact .inl ⟨why, rfl⟩
    · cases hreply : (answers.reply (catalogCall url t) (answers.token state).2).1 with
      | error cause =>
        rw [h.undelivered t cause htoken hsend hreply] at he
        cases he
        exact .inr (.inr ⟨_, _, hreply⟩)
      | ok reply =>
        have hjudged := h.answered t reply htoken hsend hreply
        have hstatus : reply.status ≠ 200 := fun hstatus => by
          rw [hjudged.accepted.mpr hstatus] at he
          cases he
        cases hbody : reply.body.broken with
        | false =>
          rw [hjudged.rejected hstatus hbody] at he
          cases he
          exact .inr (.inl ⟨_, _, rfl⟩)
        | true =>
          rw [hjudged.unreadable hstatus hbody] at he
          cases he
          exact .inr (.inl ⟨_, _, rfl⟩)

end Outcome

/-- For every endpoint the check has a URL to call, the endpoint as it is shown with the catalog
path behind it, and how it ends is settled by the answers to its two calls. If the transport fails
only as transports do, the check never blames the target, the endpoint or the configuration. -/
theorem startupCheck_outcome {σ : Type} (answers : Answers σ) (state : σ) {raw : String}
    {backend : Endpoint} (h : Endpoint.parse raw = .ok backend) :
    ∃ url, backend.join "/v2/catalog" = .ok url ∧
      url.text = backend.display ++ "/v2/catalog".toList ∧
      Checked answers state url ((startupCheck backend).run answers state) ∧
      ((∀ out s e, (answers.reply out s).1 = .error e → ∃ why, e = .transport why) →
        ∀ why, ((startupCheck backend).run answers state).result ≠ .error (.unforwardable why) ∧
          ((startupCheck backend).run answers state).result ≠ .error (.invalidBackend why) ∧
          ((startupCheck backend).run answers state).result ≠ .error (.configuration why)) := by
  obtain ⟨url, hjoin, htext⟩ := exists_catalogUrl h
  have hchecked : Checked answers state url _ := checked_run hjoin
  refine ⟨url, hjoin, htext, hchecked, fun htransport => ?_⟩
  -- of the ways to fail only the transport's own could be of another kind
  have hkinds : ∀ e, ((startupCheck backend).run answers state).result = .error e →
      (∃ why, e = .credential why) ∨ (∃ status body, e = .rejection status body) ∨
        ∃ why, e = .transport why := fun e he =>
    (hchecked.error_kind he).imp_right (Or.imp_right fun ⟨out, s, hs⟩ => htransport out s e hs)
  intro why
  refine ⟨fun he => ?_, fun he => ?_, fun he => ?_⟩
  all_goals simpa using hkinds _ he

/-- A broker that cannot find its catalog, and whose explanation breaks off. -/
def explaining : Answers Unit where
  token := fun s => (.ok ⟨"tok"⟩, s)
  reply := fun _ s => (.ok ⟨204, [], ⟨[Utf8.ofString "gone"], true⟩⟩, s)

theorem startupCheck_outcome_explaining :
    Endpoint.parse "https://u:p@h.example:8443/gcp//" = .ok Endpoint.prefixed ∧
      (∃ url, requests ((startupCheck Endpoint.prefixed).run explaining ()).calls =
        [catalogCall url ⟨"tok"⟩] ∧
        url.text = "https://u:p@h.example:8443/gcp/v2/catalog".toList) ∧
      ((startupCheck Endpoint.prefixed).run explaining ()).result =
        .error (.rejection 204 "<unreadable body: error decoding response body>") := by
  have hparse : Endpoint.parse "https://u:p@h.example:8443/gcp//" = .ok Endpoint.prefixed := by
    decide +kernel
  have hsend : ¬ (⟨"tok"⟩ : BearerToken).Unsendable := by decide +kernel
  obtain ⟨url, -, htext, hchecked, -⟩ := startupCheck_outcome explaining () hparse
  refine ⟨hparse, ⟨url, (hchecked.sent _ rfl hsend).2, ?_⟩, ?_⟩
  · rw [htext]
    decide +kernel
  · exact (hchecked.answered _ _ rfl hsend rfl).unreadable (by decide) rfl

end BrokerGate.Proxy
