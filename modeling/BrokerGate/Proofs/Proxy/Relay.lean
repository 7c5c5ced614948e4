import BrokerGate.Proofs.Proxy.Crossing

/-! What a caller is given of a broker's reply: everything but the fields that concern the
connection to the broker. -/
namespace BrokerGate.Proxy
open Text Http Exchange

/-- A response stands for a reply: same status, same body up to where it ends or breaks off, and the
reply's fields, under each name all of them in their order or none. -/
structure Relays (reply r : Response) : Prop where
  status : r.status = reply.status
  kept : ∀ n ∉ hopByHopNames, ¬ ReadablyListed reply.fields n →
    r.fields.values n = reply.fields.values n
  keptBack : ∀ n, n ∈ hopByHopNames ∨ ReadablyListed reply.fields n → r.fields.has n = false
  known : ∀ n, r.fields.has n = true → reply.fields.has n = true
  bytes : r.body.bytes = reply.body.bytes
  broken : r.body.broken = true ↔ reply.body.broken = true
  complete : ∀ bs, r.body.complete? = some bs ↔ reply.body.complete? = some bs
  contentLength : ¬ ReadablyListed reply.fields .contentLength →
    r.fields.values .contentLength = reply.fields.values .contentLength

theorem relays_relay (reply : Response) : Relays reply (relay reply) where
  status := rfl
  kept := fun n hfixed hlisted => values_stripHopByHop (not_or.mpr ⟨hfixed, hlisted⟩)
  keptBack := fun n h => by
    rw [relay, has_stripHopByHop_eq_false_iff]
    exact .inr h
  known := fun n h => (has_stripHopByHop_iff.mp h).1
  bytes := rfl
  broken := Iff.rfl
  complete := fun bs => Iff.rfl
  contentLength := fun h => by
    have hfixed : FieldName.contentLength ∉ hopByHopNames := by decide +kernel
    exact values_stripHopByHop (not_or.mpr ⟨hfixed, h⟩)

/-- A reply of the broker is passed on as it is, up to fields of the connection; a body that breaks
off still breaks off, after the same bytes. -/
theorem reply_relayed {σ : Type} (answers : Answers σ) (state : σ) (backend : Endpoint)
    {request : Inbound} (hhead : request.method ≠ .head) (hconnect : request.method ≠ .connect)
    {out : Outbound} {reply : Response}
    (h : .request out (.ok reply) ∈ ((forward backend request).run answers state).calls) :
    Relays reply ((forward backend request).run answers state).result := by
  obtain ⟨-, hresult⟩ := forward_calls h
  rw [hresult reply rfl, withoutUnwantedBody_of_method hhead hconnect]
  exact relays_relay reply

/-- A broker that gives one reply to everything. -/
def replying (reply : Response) : Answers Unit :=
  { willing with reply := fun _ s => (.ok reply, s) }

/-- Two cookies, a field that concerns the connection, and a body that breaks off. -/
def truncated : Response where
  status := 418
  fields := [(.connection, .ofText "close, X-Hop"), (⟨"set-cookie"⟩, .ofText "a=1"),
    (⟨"x-hop"⟩, .ofText "1"), (⟨"set-cookie"⟩, ⟨[0xFF], false⟩), (.contentLength, .ofText "9")]
  body := ⟨[Utf8.ofString "par", Utf8.ofString "t"], true⟩

theorem reply_relayed_truncated :
    let r := ((forward Endpoint.prefixed (catalogRequest [])).run (replying truncated) ()).result
    r.status = 418 ∧ r.fields.values ⟨"set-cookie"⟩ = [.ofText "a=1", ⟨[0xFF], false⟩] ∧
      r.fields.has ⟨"x-hop"⟩ = false ∧ r.body.bytes = Utf8.ofString "part" ∧
      r.body.complete? ≠ some (Utf8.ofString "part") := by
  have htoken : ((replying truncated).token ()).1 = .ok ⟨"tok"⟩ := rfl
  have hrun := run_forward_of_reply (join_catalogRequest []) htoken authorization_tok rfl
  obtain ⟨out, hcall⟩ : ∃ out, .request out (.ok truncated) ∈
      ((forward Endpoint.prefixed (catalogRequest [])).run (replying truncated) ()).calls := by
    rw [hrun]
    exact ⟨_, .tail _ (.tail _ (.head _))⟩
  have hmethod : (catalogRequest []).method ≠ .head ∧ (catalogRequest []).method ≠ .connect := by
    decide +kernel
  have hr := reply_relayed (replying truncated) () Endpoint.prefixed hmethod.1 hmethod.2 hcall
  have hlisted : ReadablyListed truncated.fields ⟨"x-hop"⟩ := by
    rw [← mem_connectionListed_iff]
    decide +kernel
  have hcookie : ¬ ReadablyListed truncated.fields ⟨"set-cookie"⟩ := by
    rw [← mem_connectionListed_iff]
    decide +kernel
  refine ⟨hr.status, ?_, hr.keptBack _ (.inr hlisted), ?_, ?_⟩
  · rw [hr.kept _ (by decide +kernel) hcookie]
    decide +kernel
  · rw [hr.bytes]
    decide +kernel
  · rw [Ne, hr.complete]
    decide +kernel

end BrokerGate.Proxy
