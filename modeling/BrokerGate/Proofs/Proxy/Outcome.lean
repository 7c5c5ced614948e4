import BrokerGate.Proofs.Credential.Token
import BrokerGate.Proofs.Json.Read
import BrokerGate.Proofs.Proxy.Forward
import BrokerGate.Proofs.Text.Utf8

/-! What becomes of a request. Target, token source and transport determine one of five courses; in
four of them the caller is answered with a JSON document that names the failure. -/
namespace BrokerGate.Proxy
open Text Http Exchange

/-- An answer with a JSON document that classifies a failure, tells its message, and holds nothing
else. -/
structure Reports (r : Response) (c : Classification) (message : String) : Prop where
  status : r.status = c.status
  contentType : r.fields.values .contentType = [.ofText "application/json"]
  document : (r.body.complete?.bind Utf8.decode?).bind Json.parse? =
    some (.object [("error", .object
      [("code", .string c.code), ("message", .string message), ("type", .string c.type)])])

theorem errorDocument_numberless (e : GateError) : (errorDocument e).Numberless := by
  simp [errorDocument, Json.Numberless, Json.NumberlessMembers]

theorem reports_failed {m : Method} (hhead : m ≠ .head) (hconnect : m ≠ .connect)
    (e : GateError) : Reports (failed m e) (classify e) e.message := by
  have hlength : Fields.has (errorResponse e).fields .contentLength = false := by
    simp only [errorResponse]
    decide +kernel
  have hfailed : failed m e = { errorResponse e with
      fields := (errorResponse e).fields ++
        [(.contentLength, .ofText (toString (errorResponse e).body.bytes.length))] } := by
    rw [failed, withoutUnwantedBody_of_method hhead hconnect, withLength, hlength]
    rfl
  have hbody : (failed m e).body.complete? = some (Utf8.encode (errorDocument e).text) := by
    rw [hfailed]
    simp [errorResponse, Body.complete?, Body.ofBytes, Body.bytes]
  constructor
  · rw [hfailed]
    rfl
  · rw [hfailed, Fields.values_append, errorResponse]
    rfl
  · rw [hbody, Option.bind_some, Utf8.decode?_encode, Option.bind_some,
      Json.parse?_text (errorDocument_numberless e)]
    rfl

/-- How forwarding a request can go. -/
inductive Course
  | unforwardable (e : GateError)
  | withoutToken (e : GateError)
  | unusableToken (t : BearerToken)
  | undelivered (sent : Outbound) (e : GateError)
  | answered (sent : Outbound) (reply : Response)

namespace Course
variable {σ : Type} (answers : Answers σ) (state : σ) (backend : Endpoint) (request : Inbound)

/-- The target can be forwarded. -/
def Joins : Prop := ∃ url, backend.join (String.ofList request.target.forwarded) = .ok url

/-- The target can be forwarded, the token can be sent, and this is the request that goes out. -/
def Sends (out : Outbound) : Prop :=
  ∃ url t, backend.join (String.ofList request.target.forwarded) = .ok url ∧
    (answers.token state).1 = .ok t ∧ ¬ t.Unsendable ∧ out = outbound request url t.bearerValue

/-- The course that target, token source and transport determine. -/
def Taken : Course → Prop
  | .unforwardable e => backend.join (String.ofList request.target.forwarded) = .error e
  | .withoutToken e => Joins backend request ∧ (answers.token state).1 = .error e
  | .unusableToken t =>
    Joins backend request ∧ (answers.token state).1 = .ok t ∧ t.Unsendable
  | .undelivered out e => Sends answers state backend request out ∧
    (answers.reply out (answers.token state).2).1 = .error e
  | .answered out reply => Sends answers state backend request out ∧
    (answers.reply out (answers.token state).2).1 = .ok reply

/-- The calls that a course makes, and the answer to the caller. -/
def Yields (o : Outcome σ Response) : Course → Prop
  | .unforwardable e => tokenCalls o.calls = 0 ∧ requests o.calls = [] ∧
    Reports o.result ⟨400, "invalid_request_error", "invalid_request_target"⟩ e.message
  | .withoutToken e => tokenCalls o.calls = 1 ∧ requests o.calls = [] ∧
    Reports o.result ⟨500, "server_error", "credential_error"⟩
      ("failed to obtain token: " ++ match e with
        | .credential m => m
        | e => e.message)
  | .unusableToken t =>
    let message := "failed to obtain token: token is not a valid header value"
    tokenCalls o.calls = 1 ∧ requests o.calls = [] ∧
      Reports o.result ⟨500, "server_error", "credential_error"⟩ message ∧
      ¬ t.secret.toList <:+: message.toList
  | .undelivered out e => tokenCalls o.calls = 1 ∧ requests o.calls = [out] ∧
    Reports o.result (classify e) e.message ∧ ∀ m, e = .transport m →
      Reports o.result ⟨502, "server_error", "upstream_error"⟩ ("broker request failed: " ++ m)
  | .answered out reply => tokenCalls o.calls = 1 ∧ requests o.calls = [out] ∧
    o.result.status = reply.status ∧ o.result.body = reply.body

/-- The course that is taken, each condition looked at only where the ones before it hold. -/
def chosen : Course :=
  match backend.join (String.ofList request.target.forwarded) with
  | .error e => .unforwardable e
  | .ok url =>
    match (answers.token state).1 with
    | .error e => .withoutToken e
    | .ok t =>
      if t.Unsendable then .unusableToken t
      else
        let out := outbound request url t.bearerValue
        match (answers.reply out (answers.token state).2).1 with
        | .error e => .undelivered out e
        | .ok reply => .answered out reply

variable {answers state backend request}

theorem taken_chosen :
    (chosen answers state backend request).Taken answers state backend request := by
  rw [chosen.eq_def]
  split
  · rename_i e hjoin
    exact hjoin
  · rename_i url hjoin
    split
    · rename_i e htoken
      exact ⟨⟨url, hjoin⟩, htoken⟩
    · rename_i t htoken
      split
      · rename_i hsend
        exact ⟨⟨url, hjoin⟩, htoken, hsend⟩
      · rename_i hsend
        have hsends : Sends answers state backend request (outbound request url t.bearerValue) :=
          ⟨url, t, hjoin, htoken, hsend, rfl⟩
        dsimp only
        split
        · rename_i e hreply
          exact ⟨hsends, hreply⟩
        · rename_i reply hreply
          exact ⟨hsends, hreply⟩

theorem Taken.eq_chosen {c : Course} (h : c.Taken answers state backend request) :
    c = chosen answers state backend request := by
  cases c with
  | unforwardable e =>
    have hjoin : backend.join (String.ofList request.target.forwarded) = .error e := h
    simp only [chosen, hjoin]
  | withoutToken e =>
    obtain ⟨⟨url, hjoin⟩, htoken⟩ := h
    simp only [chosen, hjoin, htoken]
  | unusableToken t =>
    obtain ⟨⟨url, hjoin⟩, htoken, hsend⟩ := h
    simp only [chosen, hjoin, htoken, hsend, if_true]
  | undelivered out e =>
    obtain ⟨⟨url, t, hjoin, htoken, hsend, rfl⟩, hreply⟩ := h
    simp only [chosen, hjoin, htoken, hsend, if_false, hreply]
  | answered out reply =>
    obtain ⟨⟨url, t, hjoin, htoken, hsend, rfl⟩, hreply⟩ := h
    simp only [chosen, hjoin, htoken, hsend, if_false, hreply]

end Course

/-- A control stays a control in the bytes of every text that holds the token. -/
theorem unsendable_notInfix {t : BearerToken} (h : t.Unsendable) {message : String}
    (hmessage : ¬ (⟨message⟩ : BearerToken).Unsendable) :
    ¬ t.secret.toList <:+: message.toList := by
  rintro ⟨front, back, hcut⟩
  obtain ⟨b, hb, hcontrol⟩ := h
  refine hmessage ⟨b, ?_, hcontrol⟩
  rw [Utf8.ofString, ← hcut, Utf8.encode, List.flatMap_append, List.flatMap_append]
  exact List.mem_append_left _ (List.mem_append_right _ hb)

/-- Exactly one course is taken, and forwarding yields what belongs to it: an answer that reports
the failure, or the broker's status and body. -/
theorem forward_outcome {σ : Type} (answers : Answers σ) (state : σ) (backend : Endpoint)
    {request : Inbound} (hhead : request.method ≠ .head) (hconnect : request.method ≠ .connect) :
    (∃! c : Course, c.Taken answers state backend request) ∧
      ∀ c : Course, c.Taken answers state backend request →
        c.Yields ((forward backend request).run answers state) := by
  refine ⟨⟨_, Course.taken_chosen, fun c hc => hc.eq_chosen⟩, fun c hc => ?_⟩
  cases c with
  | unforwardable e =>
    have hjoin : backend.join (String.ofList request.target.forwarded) = .error e := hc
    obtain ⟨why, rfl⟩ := Endpoint.unforwardable_of_join hjoin
    rw [run_forward_of_join_error hjoin]
    exact ⟨rfl, rfl, reports_failed hhead hconnect _⟩
  | withoutToken e =>
    obtain ⟨⟨url, hjoin⟩, htoken⟩ := hc
    rw [run_forward_of_token_error hjoin htoken]
    refine ⟨rfl, rfl, ?_⟩
    have hreports := reports_failed hhead hconnect e.asCredential
    cases e <;> exact hreports
  | unusableToken t =>
    obtain ⟨⟨url, hjoin⟩, htoken, hsend⟩ := hc
    rw [run_forward_of_value_error hjoin htoken (BearerToken.authorization_of_unsendable hsend)]
    exact ⟨rfl, rfl, reports_failed hhead hconnect _,
      unsendable_notInfix hsend (by decide +kernel)⟩
  | undelivered out e =>
    obtain ⟨⟨url, t, hjoin, htoken, hsend, rfl⟩, hreply⟩ := hc
    rw [run_forward_of_transport_error hjoin htoken (BearerToken.authorization_of_sendable hsend)
      (Prod.ext hreply rfl)]
    have hreports := reports_failed hhead hconnect e
    refine ⟨rfl, rfl, hreports, ?_⟩
    rintro m rfl
    exact hreports
  | answered out reply =>
    obtain ⟨⟨url, t, hjoin, htoken, hsend, rfl⟩, hreply⟩ := hc
    rw [run_forward_of_reply hjoin htoken (BearerToken.authorization_of_sendable hsend)
      (Prod.ext hreply rfl), withoutUnwantedBody_of_method hhead hconnect]
    exact ⟨rfl, rfl, rfl, rfl⟩

/-- A source whose tokens end with the line that they stood on. -/
def unstripped : Answers Unit := { willing with token := fun s => (.ok ⟨"tok\n"⟩, s) }

theorem forward_outcome_unstripped :
    (∃! c : Course, c.Taken unstripped () Endpoint.prefixed (catalogRequest [])) ∧
      Reports ((forward Endpoint.prefixed (catalogRequest [])).run unstripped ()).result
        ⟨500, "server_error", "credential_error"⟩
        "failed to obtain token: token is not a valid header value" := by
  have hmethod : (catalogRequest []).method ≠ .head ∧ (catalogRequest []).method ≠ .connect := by
    decide +kernel
  obtain ⟨hone, hyields⟩ := forward_outcome unstripped () Endpoint.prefixed hmethod.1 hmethod.2
  have htaken : Course.Taken unstripped () Endpoint.prefixed (catalogRequest [])
      (.unusableToken ⟨"tok\n"⟩) := ⟨⟨_, join_catalogRequest []⟩, rfl, by decide +kernel⟩
  exact ⟨hone, (hyields _ htaken).2.2.1⟩

end BrokerGate.Proxy
