import BrokerGate.Proofs.Endpoint.Join
import BrokerGate.Proofs.Http.Target
import BrokerGate.Proofs.Proxy.ForwardedFor
import BrokerGate.Proofs.Proxy.HopByHop
import BrokerGate.Proxy.Forward

/-! What forwarding a request does, whoever answers. A run stops at the first failure; if there is
none, one request goes out, whose fields are the caller's that may pass and the proxy's own. -/
namespace BrokerGate.Proxy
open Text Http Exchange

/-- The answer to a caller whose request failed. -/
def failed (m : Method) (e : GateError) : Response :=
  withoutUnwantedBody m (withLength (errorResponse e))

theorem withoutUnwantedBody_of_method {m : Method} (hhead : m ≠ .head) (hconnect : m ≠ .connect)
    (r : Response) : withoutUnwantedBody m r = r := by
  simp [withoutUnwantedBody, hhead, hconnect]

/-- The request that goes out once there is an authorization. -/
def outbound (request : Inbound) (url : Url) (v : FieldValue) : Outbound :=
  ⟨request.method, url,
    ((passedFields request).set .authorization v).set .apiVersion (.ofText apiVersion),
    request.body⟩

section Run
variable {σ : Type} {answers : Answers σ} {state : σ} {backend : Endpoint} {request : Inbound}
  {url : Url} {token : BearerToken} {v : FieldValue} {e : GateError}

theorem run_forward_of_join_error
    (hjoin : backend.join (String.ofList request.target.forwarded) = .error e) :
    (forward backend request).run answers state =
      ⟨failed request.method e, [.event (failureEvent e)], state⟩ := by
  simp only [forward, exchange, hjoin]
  rfl

theorem run_forward_of_token_error
    (hjoin : backend.join (String.ofList request.target.forwarded) = .ok url)
    (htoken : (answers.token state).1 = .error e) :
    (forward backend request).run answers state =
      ⟨failed request.method e.asCredential,
        [.token (.error e), .event (failureEvent e.asCredential)], (answers.token state).2⟩ := by
  simp only [forward, exchange, hjoin, andThen, run, htoken]
  rfl

theorem run_forward_of_value_error
    (hjoin : backend.join (String.ofList request.target.forwarded) = .ok url)
    (htoken : (answers.token state).1 = .ok token) (hvalue : token.authorization = .error e) :
    (forward backend request).run answers state =
      ⟨failed request.method e, [.token (.ok token), .event (failureEvent e)],
        (answers.token state).2⟩ := by
  simp only [forward, exchange, hjoin, andThen, run, htoken, applyBrokerFields, hvalue]
  rfl

theorem run_forward_of_transport_error {s : σ}
    (hjoin : backend.join (String.ofList request.target.forwarded) = .ok url)
    (htoken : (answers.token state).1 = .ok token) (hvalue : token.authorization = .ok v)
    (hreply : answers.reply (outbound request url v) (answers.token state).2 = (.error e, s)) :
    (forward backend request).run answers state =
      ⟨failed request.method e, [.token (.ok token), .event (forwardEvent request),
        .request (outbound request url v) (.error e), .event (failureEvent e)], s⟩ := by
  rw [outbound] at hreply ⊢
  simp only [forward, exchange, hjoin, andThen, run, htoken, applyBrokerFields, hvalue, hreply]
  rfl

/-- If nothing fails, the caller is given the broker's response. -/
theorem run_forward_of_reply {reply : Response} {s : σ}
    (hjoin : backend.join (String.ofList request.target.forwarded) = .ok url)
    (htoken : (answers.token state).1 = .ok token) (hvalue : token.authorization = .ok v)
    (hreply : answers.reply (outbound request url v) (answers.token state).2 = (.ok reply, s)) :
    (forward backend request).run answers state =
      ⟨withoutUnwantedBody request.method (relay reply), [.token (.ok token),
        .event (forwardEvent request), .request (outbound request url v) (.ok reply)], s⟩ := by
  rw [outbound] at hreply ⊢
  simp only [forward, exchange, hjoin, andThen, run, htoken, applyBrokerFields, hvalue, hreply]
  rfl

theorem requests_run_forward
    (hjoin : backend.join (String.ofList request.target.forwarded) = .ok url)
    (htoken : (answers.token state).1 = .ok token) (hvalue : token.authorization = .ok v) :
    requests ((forward backend request).run answers state).calls = [outbound request url v] := by
  cases hreply : answers.reply (outbound request url v) (answers.token state).2 with
  | mk answer s =>
    cases answer with
    | error e =>
      rw [run_forward_of_transport_error hjoin htoken hvalue hreply]
      rfl
    | ok reply =>
      rw [run_forward_of_reply hjoin htoken hvalue hreply]
      rfl

end Run

section Fields
variable {request : Inbound} {url : Url} {v : FieldValue} {n : FieldName}

/-- Names whose values the proxy sets itself. -/
def ownNames (request : Inbound) : List FieldName :=
  (if request.peer.isSome then [.forwardedFor] else []) ++ [.authorization, .apiVersion]

/-- The caller's fields that are sent. -/
def takenFields (request : Inbound) : Fields :=
  ((stripHopByHop request.fields).erase .host).eraseAll (ownNames request)

/-- Behind the fields that are taken from the caller stand those that the proxy sets. -/
theorem outbound_fields (request : Inbound) (url : Url) (v : FieldValue) : ∃ own : Fields,
    own.map Prod.fst = ownNames request ∧
      (outbound request url v).fields = takenFields request ++ own := by
  have hauth : FieldName.authorization ∉ [FieldName.forwardedFor] := by decide +kernel
  have hversion : FieldName.apiVersion ∉ [FieldName.forwardedFor, .authorization] := by
    decide +kernel
  rw [outbound, passedFields]
  cases hpeer : request.peer with
  | none =>
    refine ⟨[(.authorization, v), (.apiVersion, .ofText apiVersion)], by simp [ownNames, hpeer], ?_⟩
    rw [appendForwardedFor, ← List.append_nil ((stripHopByHop request.fields).erase .host),
      Fields.set_append _ _ (by simp),
      Fields.set_append _ _ (List.not_mem_of_not_mem_cons hversion)]
    simp [takenFields, Fields.eraseAll, ownNames, hpeer]
  | some peer =>
    rw [appendForwardedFor_some]
    generalize FieldValue.mk (Utf8.encode (forwardedForValue _ peer)) false = hops
    refine ⟨[(.forwardedFor, hops), (.authorization, v), (.apiVersion, .ofText apiVersion)],
      by simp [ownNames, hpeer], ?_⟩
    rw [← List.append_nil ((stripHopByHop request.fields).erase .host),
      Fields.set_append _ _ (by simp), Fields.set_append _ _ hauth, Fields.set_append _ _ hversion]
    simp [takenFields, Fields.eraseAll, ownNames, hpeer]

theorem values_authorization : (outbound request url v).fields.values .authorization = [v] := by
  rw [outbound, Fields.values_set_other _ _ (by decide +kernel), Fields.values_set_self]

theorem values_apiVersion :
    (outbound request url v).fields.values .apiVersion = [.ofText apiVersion] := by
  rw [outbound, Fields.values_set_self]

theorem values_outbound (hn : n ∉ ownNames request) : (outbound request url v).fields.values n =
    ((stripHopByHop request.fields).erase .host).values n := by
  obtain ⟨own, hown, hfields⟩ := outbound_fields request url v
  have hnone : own.values n = [] := Fields.values_of_notMem (by rwa [hown])
  rw [hfields, Fields.values_append, takenFields, Fields.values_eraseAll hn, hnone, List.append_nil]

theorem has_takenFields_iff : (takenFields request).has n = true ↔ n ∉ ownNames request ∧
    n ≠ .host ∧ request.fields.has n = true ∧ ¬ Stripped request.fields n := by
  rw [takenFields, Fields.has_eraseAll_iff, Fields.has_erase_iff, has_stripHopByHop_iff]

/-- Of the caller's fields none with a name is sent exactly if the proxy sets it itself or leaves it
to the client, if there is none, or if stripping takes it out. -/
theorem has_takenFields_eq_false_iff : (takenFields request).has n = false ↔
    n ∈ ownNames request ∨ n = .host ∨ request.fields.has n = false ∨
      n ∈ hopByHopNames ∨ ReadablyListed request.fields n := by
  rw [← Bool.not_eq_true, has_takenFields_iff]
  simp only [not_and_or, not_not, ne_eq, Stripped, Bool.not_eq_true]

theorem takenFields_sublist (request : Inbound) : (takenFields request).Sublist request.fields :=
  ((Fields.eraseAll_sublist _ _).trans List.filter_sublist).trans List.filter_sublist

/-- Of the caller's fields those are sent whose names are neither stripped nor `Host`. -/
theorem has_outbound_iff (hn : n ∉ ownNames request) :
    (outbound request url v).fields.has n = true ↔
      n ≠ .host ∧ request.fields.has n = true ∧ ¬ Stripped request.fields n := by
  rw [← has_stripHopByHop_iff, ← Fields.has_erase_iff, Fields.has_iff, values_outbound hn,
    Fields.has_iff]

theorem ownNames_not_fixed (request : Inbound) :
    ∀ n ∈ ownNames request, n ∉ hopByHopNames ∧ n ≠ .host := by
  have hall : ∀ n ∈ [FieldName.forwardedFor] ++ [.authorization, .apiVersion],
      n ∉ hopByHopNames ∧ n ≠ .host := by decide +kernel
  intro n hn
  refine hall n (List.mem_append.mpr ((List.mem_append.mp hn).imp_left fun hn => ?_))
  split at hn
  · exact hn
  · cases hn

end Fields

/-- The request to the broker that stands for one of a caller. -/
structure StandsFor (request : Inbound) (url : Url) (token : BearerToken) (out : Outbound) :
    Prop where
  method : out.method = request.method
  url : out.url = url
  body : out.body = request.body
  authorization : (out.fields.values .authorization).map FieldValue.bytes =
    [Utf8.ofString ("Bearer " ++ token.secret)]
  apiVersion : (out.fields.values .apiVersion).map FieldValue.bytes = [Utf8.ofString "2.14"]
  host : out.fields.has .host = false
  hopByHop : ∀ n ∈ hopByHopNames, out.fields.has n = false
  listed : ∀ n ∉ ownNames request, ReadablyListed request.fields n → out.fields.has n = false
  others : ∀ n ∉ ownNames request, n ≠ .host → n ∉ hopByHopNames →
    ¬ ReadablyListed request.fields n → out.fields.values n = request.fields.values n
  known : ∀ n ∉ ownNames request, out.fields.has n = true → request.fields.has n = true

theorem bytes_of_authorization {token : BearerToken} {v : FieldValue}
    (h : token.authorization = .ok v) : v.bytes = Utf8.ofString ("Bearer " ++ token.secret) := by
  rw [BearerToken.authorization] at h
  split at h
  · rename_i w hw
    cases h
    rw [FieldValue.ofBytes?] at hw
    split at hw
    · cases hw
      rfl
    · cases hw
  · cases h

theorem standsFor_outbound {request : Inbound} {url : Url} {token : BearerToken} {v : FieldValue}
    (h : token.authorization = .ok v) : StandsFor request url token (outbound request url v) where
  method := rfl
  url := rfl
  body := rfl
  authorization := by rw [values_authorization, List.map_singleton, bytes_of_authorization h]
  apiVersion := by
    rw [values_apiVersion]
    rfl
  host := by
    have hn : .host ∉ ownNames request := fun hn => (ownNames_not_fixed request _ hn).2 rfl
    rw [← Bool.not_eq_true, has_outbound_iff hn]
    exact fun h => h.1 rfl
  hopByHop := by
    intro n hfixed
    have hn : n ∉ ownNames request := fun hn => (ownNames_not_fixed request n hn).1 hfixed
    rw [← Bool.not_eq_true, has_outbound_iff hn]
    exact fun h => h.2.2 (.inl hfixed)
  listed := by
    intro n hn hlisted
    rw [← Bool.not_eq_true, has_outbound_iff hn]
    exact fun h => h.2.2 (.inr hlisted)
  others := by
    intro n hn hhost hfixed hlisted
    rw [values_outbound hn, Fields.values_erase_other _ hhost,
      values_stripHopByHop (not_or.mpr ⟨hfixed, hlisted⟩)]
  known := fun n hn hhas => ((has_outbound_iff hn).mp hhas).2.1

/-- One request is sent for a request whose target and token can be used: to the URL of its path
and query, with the proxy's own authorization and version, and with those of the caller's fields
that concern more than the connection. Of a target that is a whole URL only what follows the
authority counts, and the root stands for a target without path and query. -/
theorem forward_sends {σ : Type} (answers : Answers σ) (state : σ) {backend : Endpoint}
    {request : Inbound} {url : Url} {token : BearerToken} {v : FieldValue}
    (hjoin : backend.join (String.ofList request.target.forwarded) = .ok url)
    (htoken : (answers.token state).1 = .ok token) (hvalue : token.authorization = .ok v) :
    (∃ out, requests ((forward backend request).run answers state).calls = [out] ∧
      StandsFor request url token out) ∧
      (request.target.pathQuery = none → request.target.forwarded = ['/']) ∧
      ∀ s a r : List Char, (∀ c ∈ s, RequestTarget.isSchemeByte c = true) →
        (∀ c ∈ a, RequestTarget.endsTargetAuthority c = false) →
        (∀ c ∈ r.head?, RequestTarget.endsTargetAuthority c = true) →
        RequestTarget.parse (s ++ ':' :: '/' :: '/' :: (a ++ r)) = .ok request.target →
          request.target.forwarded = RequestTarget.rootIfEmpty (r.takeWhile (· ≠ '#')) := by
  refine ⟨⟨_, requests_run_forward hjoin htoken hvalue, standsFor_outbound hvalue⟩, ?_, ?_⟩
  · intro hnone
    rw [RequestTarget.forwarded_eq, hnone]
    rfl
  · intro s a r hs ha hr hparse
    rw [RequestTarget.forwarded_eq, RequestTarget.parse_absolute hs ha hr hparse,
      Option.getD_some]

/-- A source that always has a token, and a broker that answers everything with 200. -/
def willing : Answers Unit where
  token := fun s => (.ok ⟨"tok"⟩, s)
  reply := fun _ s => (.ok ⟨200, [], .empty⟩, s)

/-- A request for the broker's catalog. -/
def catalogRequest (fs : Fields) : Inbound := ⟨.get, ⟨some "/v2/catalog".toList⟩, fs, none, none⟩

theorem join_catalogRequest (fs : Fields) :
    Endpoint.prefixed.join (String.ofList (catalogRequest fs).target.forwarded) =
      .ok { Endpoint.prefixed.base with
        path := .segments ["gcp".toList, "v2".toList, "catalog".toList] } := by
  change Endpoint.prefixed.join (String.ofList "/v2/catalog".toList) = _
  decide +kernel

theorem authorization_tok : BearerToken.authorization ⟨"tok"⟩ =
    .ok ⟨Utf8.ofString "Bearer tok", true⟩ := by decide +kernel

theorem forward_sends_listed : ∃ out,
    requests ((forward Endpoint.prefixed (catalogRequest
      [(.connection, .ofText "X-Drop ,close"), (⟨"x-drop"⟩, .ofText "1"),
        (.authorization, .ofText "Basic Zg==")])).run willing ()).calls = [out] ∧
    (out.fields.values .authorization).map FieldValue.bytes = [Utf8.ofString "Bearer tok"] ∧
    out.fields.has ⟨"x-drop"⟩ = false := by
  obtain ⟨⟨out, hout, hs⟩, -⟩ := forward_sends willing () (join_catalogRequest
    [(.connection, .ofText "X-Drop ,close"), (⟨"x-drop"⟩, .ofText "1"),
      (.authorization, .ofText "Basic Zg==")]) rfl authorization_tok
  refine ⟨out, hout, hs.authorization, hs.listed ⟨"x-drop"⟩ (by decide +kernel)
    ⟨.ofText "X-Drop ,close", by decide +kernel, by decide +kernel, [], [], Utf8.ofString "X-Drop",
      [32], Utf8.ofString ",close", ?_⟩⟩
  decide +kernel

end BrokerGate.Proxy
