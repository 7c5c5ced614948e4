import BrokerGate.Proofs.Credential.Command
import BrokerGate.Proofs.Proxy.Secrecy

/-! Tokens of commands on their way to the broker. Blanks inside a token are kept, so that one can
have several lines; an operation that fetches such a token fails to obtain one. -/
namespace BrokerGate.Proxy
open Text Http Exchange Credential

/-- The operation failed for want of a token. -/
def Operation.FailsToObtain : (o : Operation) → o.Result → Prop
  | .check, result => ∃ why, result = .error (.credential why)
  | .forward request, result => ∃ why, result = failed request.method (.credential why)

/-- The operation failed for want of a token and asked nothing of the broker. -/
structure Operation.Withheld {σ : Type} (o : Operation) (r : Outcome σ o.Result) : Prop where
  requests : Exchange.requests r.calls = []
  result : o.FailsToObtain r.result

theorem unsendable_of_lines {t : BearerToken}
    (h : '\n' ∈ t.secret.toList ∨ '\r' ∈ t.secret.toList) : t.Unsendable := by
  have hbyte : ∀ c ∈ t.secret.toList, ∀ b ∈ String.utf8EncodeChar c,
      b ∈ Utf8.ofString t.secret := fun c hc b hb => List.mem_flatMap.mpr ⟨c, hc, hb⟩
  rcases h with h | h
  · exact ⟨10, hbyte _ h _ (by decide), by decide⟩
  · exact ⟨13, hbyte _ h _ (by decide), by decide⟩

section Withheld
variable {σ : Type} {answers : Answers σ} {state : σ} {backend : Endpoint} {t : BearerToken}

theorem startupCheck_failsToObtain {raw : String} (hparse : Endpoint.parse raw = .ok backend)
    (h : .token (.ok t) ∈ ((startupCheck backend).run answers state).calls) (ht : t.Unsendable) :
    Operation.check.FailsToObtain ((startupCheck backend).run answers state).result := by
  obtain ⟨url, hjoin, -⟩ := exists_catalogUrl hparse
  have hchecked : Checked answers state url _ := checked_run hjoin
  cases htoken : (answers.token state).1 with
  | error e =>
    rw [run_startupCheck_of_token_error htoken] at h
    simp at h
  | ok t' =>
    by_cases hsend : t'.Unsendable
    · exact (hchecked.unusableToken t' htoken hsend).2.2
    · -- otherwise the token would have been sent
      have hsent := (hchecked.sent t' htoken hsend).2
      rw [requests_startupCheck_of_unsendable h ht] at hsent
      cases hsent

theorem forward_failsToObtain {request : Inbound}
    (h : .token (.ok t) ∈ ((forward backend request).run answers state).calls)
    (ht : t.Unsendable) : (Operation.forward request).FailsToObtain
      ((forward backend request).run answers state).result := by
  cases hjoin : backend.join (String.ofList request.target.forwarded) with
  | error e =>
    rw [run_forward_of_join_error hjoin] at h
    simp at h
  | ok url =>
    cases htoken : (answers.token state).1 with
    | error e =>
      rw [run_forward_of_token_error hjoin htoken] at h
      simp at h
    | ok t' =>
      by_cases hsend : t'.Unsendable
      · rw [run_forward_of_value_error hjoin htoken (BearerToken.authorization_of_unsendable hsend)]
        exact ⟨_, rfl⟩
      · have hsent :=
          requests_run_forward hjoin htoken (BearerToken.authorization_of_sendable hsend)
        rw [requests_forward_of_unsendable h ht] at hsent
        cases hsent

theorem withheld_of_unsendable {raw : String} (hparse : Endpoint.parse raw = .ok backend)
    (o : Operation) (h : .token (.ok t) ∈ ((o.program backend).run answers state).calls)
    (ht : t.Unsendable) : o.Withheld ((o.program backend).run answers state) where
  requests := requests_program_of_unsendable o h ht
  result := by
    cases o with
    | check => exact startupCheck_failsToObtain hparse h ht
    | forward request => exact forward_failsToObtain h ht

end Withheld

/-- A command gives the text that a run printed before it ended well, without the blanks around it;
nothing else that a run does or prints makes a token. If the token has several lines, the check or
the forwarding that fetched it fails to obtain one and sends nothing. -/
theorem command_tokens (program : String) (args : List String) : CommandTokens program args ∧
    ∀ t : BearerToken, ('\n' ∈ t.secret.toList ∨ '\r' ∈ t.secret.toList) →
      ∀ (σ : Type) (answers : Answers σ) (state : σ) (raw : String) (backend : Endpoint)
        (o : Operation), Endpoint.parse raw = .ok backend →
        .token (.ok t) ∈ ((o.program backend).run answers state).calls →
          o.Withheld ((o.program backend).run answers state) :=
  ⟨commandTokens program args, fun _ hlines _ _ _ _ _ o hparse h =>
    withheld_of_unsendable hparse o h (unsendable_of_lines hlines)⟩

/-- A source with a token of two lines. -/
def twoLines : Answers Unit := { willing with token := fun s => (.ok ⟨"a\nb"⟩, s) }

/-- A helper that prints two lines is believed, but its token is not sent; one that prints a token
and then fails is not believed. -/
theorem command_tokens_two_lines :
    commandToken "helper" (.ended (.exited 0) (Utf8.ofString "\n a\nb\t\n") []) = .ok ⟨"a\nb"⟩ ∧
      (∃ reason : String, "no login".toList <:+: reason.toList ∧
        commandToken "helper" (.ended (.exited 3) (Utf8.ofString "tok")
          (Utf8.ofString " no login\n")) = .error (.credential reason)) ∧
      Operation.check.Withheld ((startupCheck Endpoint.prefixed).run twoLines ()) ∧
      (Operation.forward (catalogRequest [])).Withheld
        ((forward Endpoint.prefixed (catalogRequest [])).run twoLines ()) := by
  obtain ⟨htokens, hwithheld⟩ := command_tokens "helper" []
  have hholds : HoldsToken (Utf8.ofString "\n a\nb\t\n") "a\nb" :=
    ⟨⟨"\n ", "\t\n", by decide +kernel, by decide +kernel⟩, ⟨'a', by decide, by decide⟩,
      ⟨'b', by decide, by decide⟩⟩
  have hparse : Endpoint.parse "https://u:p@h.example:8443/gcp//" = .ok Endpoint.prefixed := by
    decide +kernel
  have hunsendable : (⟨"a\nb"⟩ : BearerToken).Unsendable := by decide +kernel
  refine ⟨(htokens.token_iff _ _).mpr ⟨_, _, rfl, hholds⟩, ?_, ?_, ?_⟩
  · obtain ⟨reason, hcontains, hreason⟩ :=
      htokens.unsuccessful (.exited 3) (Utf8.ofString " no login\n") (by decide)
    have hshown : trimmed (Utf8.toStringLossy (Utf8.ofString " no login\n")) = "no login" := by
      decide +kernel
    rw [hshown] at hcontains
    exact ⟨reason, hcontains, hreason _⟩
  · refine hwithheld ⟨"a\nb"⟩ (.inl (by decide)) Unit twoLines () _ _ .check hparse ?_
    obtain ⟨url, hjoin, -⟩ := exists_catalogUrl hparse
    change Call.token (.ok ⟨"a\nb"⟩) ∈ ((startupCheck Endpoint.prefixed).run twoLines ()).calls
    rw [run_startupCheck_of_unsendable hjoin rfl hunsendable]
    exact List.mem_singleton_self _
  · refine hwithheld ⟨"a\nb"⟩ (.inl (by decide)) Unit twoLines () _ _
      (.forward (catalogRequest [])) hparse ?_
    change Call.token (.ok ⟨"a\nb"⟩) ∈
      ((forward Endpoint.prefixed (catalogRequest [])).run twoLines ()).calls
    rw [run_forward_of_value_error (join_catalogRequest []) rfl
      (BearerToken.authorization_of_unsendable hunsendable)]
    exact List.mem_cons_self

end BrokerGate.Proxy
