import BrokerGate.Proofs.Proxy.Forward

/-! Fields that a `Connection` value lists, in requests and in replies. They are kept back as long
as a value that lists them can be read as text: one byte outside visible ASCII voids the whole
value. -/
namespace BrokerGate.Proxy
open Text Http Exchange

section Run
variable {σ : Type} {answers : Answers σ} {state : σ} {backend : Endpoint} {request : Inbound}

/-- Whatever happens, no other request than this one is sent, and a reply to it is relayed. -/
theorem forward_calls {out : Outbound} {answer : Except GateError Response}
    (h : .request out answer ∈ ((forward backend request).run answers state).calls) :
    (∃ url v, out = outbound request url v) ∧ ∀ reply, answer = .ok reply →
      ((forward backend request).run answers state).result =
        withoutUnwantedBody request.method (relay reply) := by
  cases hjoin : backend.join (String.ofList request.target.forwarded) with
  | error e =>
    rw [run_forward_of_join_error hjoin] at h
    simp at h
  | ok url =>
    cases htoken : (answers.token state).1 with
    | error e =>
      rw [run_forward_of_token_error hjoin htoken] at h
      simp at h
    | ok token =>
      cases hvalue : token.authorization with
      | error e =>
        rw [run_forward_of_value_error hjoin htoken hvalue] at h
        simp at h
      | ok v =>
        cases hreply : answers.reply (outbound request url v) (answers.token state).2 with
        | mk r s =>
          cases r with
          | error e =>
            rw [run_forward_of_transport_error hjoin htoken hvalue hreply] at h
            obtain ⟨rfl, rfl⟩ : out = outbound request url v ∧ answer = .error e := by
              simpa using h
            exact ⟨⟨url, v, rfl⟩, fun reply hr => by cases hr⟩
          | ok reply =>
            rw [run_forward_of_reply hjoin htoken hvalue hreply] at h ⊢
            obtain ⟨rfl, rfl⟩ : out = outbound request url v ∧ answer = .ok reply := by
              simpa using h
            refine ⟨⟨url, v, rfl⟩, fun r hr => ?_⟩
            cases hr
            rfl

theorem mem_requests {calls : List Call} {out : Outbound} (h : out ∈ requests calls) :
    ∃ answer, .request out answer ∈ calls := by
  obtain ⟨call, hcall, hout⟩ := List.mem_filterMap.mp h
  cases call with
  | request sent answer =>
    cases hout
    exact ⟨answer, hcall⟩
  | token | event => cases hout

theorem fields_withoutUnwantedBody (m : Method) (r : Response) :
    (withoutUnwantedBody m r).fields = r.fields := by
  rw [withoutUnwantedBody]
  split <;> rfl

end Run

/-- A name is kept back, in either direction, exactly if it is one of the fixed ones, if a
`Connection` value that can be read as text lists it, or if there is no field to keep back. On the
way to the broker `Host` and the names that the proxy sets itself are not taken over either. -/
theorem kept_back_iff {σ : Type} (answers : Answers σ) (state : σ) (backend : Endpoint)
    (request : Inbound) :
    (∀ out ∈ requests ((forward backend request).run answers state).calls,
      ∃ taken own : Fields, out.fields = taken ++ own ∧ taken.Sublist request.fields ∧
        own.map Prod.fst = ownNames request ∧ ∀ n, taken.has n = false ↔
          n ∈ ownNames request ∨ n = .host ∨ request.fields.has n = false ∨
            n ∈ hopByHopNames ∨ ReadablyListed request.fields n) ∧
      ∀ (out : Outbound) (reply : Response),
        .request out (.ok reply) ∈ ((forward backend request).run answers state).calls →
          ∀ n, ((forward backend request).run answers state).result.fields.has n = false ↔
            reply.fields.has n = false ∨ n ∈ hopByHopNames ∨ ReadablyListed reply.fields n := by
  constructor
  · intro out hout
    obtain ⟨answer, hcall⟩ := mem_requests hout
    obtain ⟨⟨url, v, rfl⟩, -⟩ := forward_calls hcall
    obtain ⟨own, hown, hfields⟩ := outbound_fields request url v
    exact ⟨takenFields request, own, hfields, takenFields_sublist request, hown,
      fun n => has_takenFields_eq_false_iff⟩
  · intro out reply hcall n
    rw [(forward_calls hcall).2 reply rfl, fields_withoutUnwantedBody, relay,
      has_stripHopByHop_eq_false_iff]

/-- A list that marks one of its fields, in a value with the given bytes behind the name. -/
def marking (rest : Utf8.Bytes) : Fields :=
  [(.connection, ⟨Utf8.ofString "x-drop" ++ 44 :: rest, false⟩), (⟨"x-drop"⟩, .ofText "1")]

theorem lists_marking (rest : Utf8.Bytes) :
    Lists ⟨Utf8.ofString "x-drop" ++ 44 :: rest, false⟩ ⟨"x-drop"⟩ := by
  refine ⟨[], [], Utf8.ofString "x-drop", [], 44 :: rest, by simp, by simp, by simp, by simp, ?_⟩
  decide +kernel

theorem requests_marking (rest : Utf8.Bytes) : ∃ url v,
    requests ((forward Endpoint.prefixed (catalogRequest (marking rest))).run willing ()).calls =
      [outbound (catalogRequest (marking rest)) url v] :=
  ⟨_, _, requests_run_forward (join_catalogRequest _) rfl authorization_tok⟩

theorem kept_back_iff_marking : ∃ out taken own,
    requests ((forward Endpoint.prefixed (catalogRequest (marking []))).run willing ()).calls =
      [out] ∧ out.fields = taken ++ own ∧ taken.has ⟨"x-drop"⟩ = false := by
  obtain ⟨url, v, hout⟩ := requests_marking []
  obtain ⟨taken, own, hfields, -, -, hiff⟩ :=
    (kept_back_iff willing () Endpoint.prefixed (catalogRequest (marking []))).1
      _ (by rw [hout]; exact List.mem_singleton_self _)
  have hlisted : ReadablyListed (marking []) ⟨"x-drop"⟩ :=
    ⟨_, Fields.mem_values.mpr (List.mem_cons_self ..), by decide +kernel, lists_marking []⟩
  exact ⟨_, taken, own, hout, hfields, (hiff _).mpr (.inr (.inr (.inr (.inr hlisted))))⟩

/-- One byte after a listed name lets the field pass, to the broker and back to the caller. -/
theorem marked_field_crosses : Listed (marking [0xFF]) ⟨"x-drop"⟩ ∧
    (∃ out, requests ((forward Endpoint.prefixed
      (catalogRequest (marking [0xFF]))).run willing ()).calls = [out] ∧
      out.fields.has ⟨"x-drop"⟩ = true) ∧
    (relay ⟨200, marking [0xFF], .empty⟩).fields.has ⟨"x-drop"⟩ = true := by
  have hlisted : Listed (marking [0xFF]) ⟨"x-drop"⟩ :=
    ⟨_, Fields.mem_values.mpr (List.mem_cons_self ..), lists_marking [0xFF]⟩
  obtain ⟨url, v, hout⟩ := requests_marking [0xFF]
  have hunread : ∀ w ∈ (marking [0xFF]).values .connection, w.isReadable = false := by
    decide +kernel
  have hpass : ¬ Stripped (marking [0xFF]) ⟨"x-drop"⟩ := by
    rintro (hfixed | ⟨w, hw, hread, -⟩)
    · exact absurd hfixed (by decide +kernel)
    · rw [hunread w hw] at hread
      cases hread
  refine ⟨hlisted, ⟨_, hout, ?_⟩, ?_⟩
  · rw [has_outbound_iff (by decide +kernel)]
    exact ⟨by decide +kernel, by decide +kernel, hpass⟩
  · rw [relay, has_stripHopByHop_iff]
    exact ⟨by decide +kernel, hpass⟩

end BrokerGate.Proxy
