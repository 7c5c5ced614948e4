import BrokerGate.Proofs.Proxy.Crossing

/-! The list of hops that a request has come over. Each proxy that knows its caller writes one
value: what can be read of the list so far, and the caller's address behind it. The next proxy can
read that value, so along a chain of proxies the list only grows. -/
namespace BrokerGate.Proxy
open Text Utf8 Http Exchange

/-- A proxy sends this request for that one of a caller, whoever answers. -/
def SentFor (request : Inbound) (out : Outbound) : Prop :=
  ∃ (σ : Type) (answers : Answers σ) (state : σ) (backend : Endpoint),
    out ∈ requests ((forward backend request).run answers state).calls

/-- The list of hops goes out as one value, at whose end is the caller's address. What a readable
`Connection` value lists concerns the connection only, even if it is the list of hops. -/
structure AddsHop (request : Inbound) (peer : IpAddress) (out : Outbound) (v : FieldValue) :
    Prop where
  only : out.fields.values .forwardedFor = [v]
  legal : FieldValue.ofBytes? v.bytes = some v
  last : lastAddress? v = some peer.text
  kept : ¬ ReadablyListed request.fields .forwardedFor → v.bytes =
    hopList (hopEntries (request.fields.values .forwardedFor) ++ [encode peer.text])
  fresh : ReadablyListed request.fields .forwardedFor → v.bytes = encode peer.text

/-- A request that is handed on from proxy to proxy: each sends one for the request that it
received, and the values of the list of hops arrive at the next one as they were sent. -/
inductive HandedOn (first : Inbound) : List Inbound → Outbound → Prop
  | sent {out : Outbound} : SentFor first out → HandedOn first [] out
  | next {later : List Inbound} {out sent : Outbound} {request : Inbound} :
      HandedOn first later out →
      (request.fields.values .forwardedFor).map FieldValue.bytes =
        (out.fields.values .forwardedFor).map FieldValue.bytes →
      SentFor request sent → HandedOn first (later ++ [request]) sent

section Hop
variable {request : Inbound} {out : Outbound} {peer : IpAddress}

theorem stripped_forwardedFor_iff (fs : Fields) :
    Stripped fs .forwardedFor ↔ ReadablyListed fs .forwardedFor :=
  or_iff_right (by decide +kernel)

theorem values_sent (h : SentFor request out) : out.fields.values .forwardedFor =
    (passedFields request).values .forwardedFor := by
  obtain ⟨σ, answers, state, backend, hout⟩ := h
  obtain ⟨answer, hcall⟩ := mem_requests hout
  obtain ⟨⟨url, v, rfl⟩, -⟩ := forward_calls hcall
  rw [outbound, Fields.values_set_other _ _ (by decide +kernel),
    Fields.values_set_other _ _ (by decide +kernel)]

theorem values_passed_of_listed (h : ReadablyListed request.fields .forwardedFor) :
    ((stripHopByHop request.fields).erase .host).values .forwardedFor = [] := by
  rw [Fields.values_erase_other _ (by decide +kernel),
    values_stripHopByHop_of_stripped ((stripped_forwardedFor_iff _).mpr h)]

theorem values_passed_of_not_listed (h : ¬ ReadablyListed request.fields .forwardedFor) :
    ((stripHopByHop request.fields).erase .host).values .forwardedFor =
      request.fields.values .forwardedFor := by
  rw [Fields.values_erase_other _ (by decide +kernel),
    values_stripHopByHop fun hs => h ((stripped_forwardedFor_iff _).mp hs)]

theorem exists_addsHop (h : SentFor request out) (hpeer : request.peer = some peer) :
    ∃ v, AddsHop request peer out v := by
  have hout := values_sent h
  rw [passedFields, hpeer, appendForwardedFor_some, Fields.values_set_self] at hout
  refine ⟨_, hout, ofBytes?_forwardedForValue _ _, lastAddress?_forwardedForValue _ _,
    fun hlisted => ?_, fun hlisted => ?_⟩
  · rw [encode_forwardedForValue, values_passed_of_not_listed hlisted]
  · rw [encode_forwardedForValue, values_passed_of_listed hlisted]
    exact hopList_singleton _

theorem values_of_unknown (h : SentFor request out) (hpeer : request.peer = none) :
    (¬ ReadablyListed request.fields .forwardedFor →
      out.fields.values .forwardedFor = request.fields.values .forwardedFor) ∧
    (ReadablyListed request.fields .forwardedFor → out.fields.values .forwardedFor = []) := by
  have hout := values_sent h
  rw [passedFields, hpeer, appendForwardedFor] at hout
  exact ⟨fun hlisted => hout.trans (values_passed_of_not_listed hlisted),
    fun hlisted => hout.trans (values_passed_of_listed hlisted)⟩

end Hop

section Chain
variable {first : Inbound} {later : List Inbound} {out : Outbound}

/-- The next proxy takes the value that was sent for one entry. -/
theorem AddsHop.hopEntries_value {request : Inbound} {peer : IpAddress} {v : FieldValue}
    (h : AddsHop request peer out v) : hopEntries [v] = [v.bytes] := by
  have hlast := h.last
  rw [lastAddress?, Option.map_eq_some_iff] at hlast
  obtain ⟨entry, hentry, htrim⟩ := hlast
  obtain ⟨cs, htext, hpieces⟩ := Option.bind_eq_some_iff.mp hentry
  obtain ⟨hread, rfl⟩ := FieldValue.text?_eq_some_iff.mp htext
  have hne : v.bytes ≠ [] := by
    intro hnil
    rw [hnil] at hpieces
    cases hpieces
    exact peer.text_ne_nil htrim.symm
  simp [hopEntries, hread, hne]

/-- Whether a value is taken into the list depends on its bytes alone. -/
theorem hopEntries_congr {vs ws : List FieldValue}
    (h : vs.map FieldValue.bytes = ws.map FieldValue.bytes) : hopEntries vs = hopEntries ws := by
  have hfilter (us : List FieldValue) : hopEntries us = (us.map FieldValue.bytes).filter
      fun bs => bs.all FieldValue.isReadableByte && !bs.isEmpty := by
    rw [List.filter_map]
    rfl
  rw [hfilter, hfilter, h]

/-- From the first proxy on nothing is lost: behind what could be read there, all callers follow in
their order. -/
theorem handedOn_value (h : HandedOn first later out) {peers : List IpAddress}
    (hpeers : (first :: later).map Inbound.peer = peers.map some)
    (hlisted : ∀ r ∈ first :: later, ¬ ReadablyListed r.fields .forwardedFor) :
    ∃ v, out.fields.values .forwardedFor = [v] ∧ hopEntries [v] = [v.bytes] ∧ v.bytes =
      hopList (hopEntries (first.fields.values .forwardedFor) ++
        peers.map fun p => encode p.text) := by
  induction h generalizing peers with
  | sent hsent =>
    obtain ⟨p, rfl⟩ := List.length_eq_one_iff.mp <| by
      simpa using congrArg List.length hpeers.symm
    obtain ⟨v, hv⟩ := exists_addsHop hsent (by simpa using hpeers)
    exact ⟨v, hv.only, hv.hopEntries_value, hv.kept (hlisted first List.mem_cons_self)⟩
  | @next later out sent request hchain harrives hsent ih =>
    rw [← List.cons_append, List.map_append] at hpeers
    obtain ⟨before, rest, rfl, hbefore, hrest⟩ := List.append_eq_map_iff.mp hpeers
    obtain ⟨p, rfl⟩ := List.length_eq_one_iff.mp <| by
      simpa using congrArg List.length hrest
    obtain ⟨u, hu, hentry, hbytes⟩ := ih hbefore.symm fun r hr => hlisted r <| by
      rw [← List.cons_append]
      exact List.mem_append_left _ hr
    obtain ⟨v, hv⟩ := exists_addsHop hsent (by simpa using hrest.symm)
    refine ⟨v, hv.only, hv.hopEntries_value, ?_⟩
    have harrived : hopEntries (request.fields.values .forwardedFor) = [u.bytes] := by
      rw [hopEntries_congr harrives, hu, hentry]
    have hne : hopEntries (first.fields.values .forwardedFor) ++
        before.map (fun p => encode p.text) ≠ [] := by
      intro hnil
      obtain ⟨-, hnone⟩ := List.append_eq_nil_iff.mp hnil
      rw [List.map_eq_nil_iff.mp hnone] at hbefore
      cases hbefore
    rw [hv.kept (hlisted request (by simp)), harrived, hbytes, List.singleton_append,
      hopList_hopList hne, List.map_append, List.append_assoc]
    rfl

end Chain

/-- The list of hops cannot be forged behind its last entry. Every request that is sent for a known
caller has one value of it, a legal one, that ends with the caller's address; a chain of proxies
appends all callers in order to what the first of them could read. -/
theorem hops_traced :
    (∀ (request : Inbound) (out : Outbound), SentFor request out →
      (∀ peer, request.peer = some peer → ∃ v, AddsHop request peer out v) ∧
      (request.peer = none →
        (¬ ReadablyListed request.fields .forwardedFor →
          out.fields.values .forwardedFor = request.fields.values .forwardedFor) ∧
        (ReadablyListed request.fields .forwardedFor → out.fields.values .forwardedFor = []))) ∧
    (∀ (fs : Fields) (peer : IpAddress),
      (FieldValue.ofBytes? (encode (forwardedForValue fs peer))).isSome = true) ∧
    ∀ (first : Inbound) (later : List Inbound) (out : Outbound) (peers : List IpAddress),
      HandedOn first later out → (first :: later).map Inbound.peer = peers.map some →
      (∀ r ∈ first :: later, ¬ ReadablyListed r.fields .forwardedFor) →
      (out.fields.values .forwardedFor).map FieldValue.bytes =
        [hopList (hopEntries (first.fields.values .forwardedFor) ++
          peers.map fun p => encode p.text)] := by
  refine ⟨fun request out hsent => ⟨fun peer => exists_addsHop hsent, values_of_unknown hsent⟩,
    fun fs peer => ?_, fun first later out peers hchain hpeers hlisted => ?_⟩
  · rw [ofBytes?_forwardedForValue]
    rfl
  · obtain ⟨v, hv, -, hbytes⟩ := handedOn_value hchain hpeers hlisted
    rw [hv, List.map_singleton, hbytes]

/-- A request for the broker's catalog from a known caller. -/
def catalogRequestFrom (peer : IpAddress) (fs : Fields) : Inbound :=
  { catalogRequest fs with peer := some peer }

theorem sentFor_catalogRequestFrom (peer : IpAddress) (fs : Fields) :
    ∃ out, SentFor (catalogRequestFrom peer fs) out := by
  have hrun : requests ((forward Endpoint.prefixed (catalogRequestFrom peer fs)).run
      willing ()).calls = _ :=
    requests_run_forward (join_catalogRequest fs) rfl authorization_tok
  exact ⟨_, Unit, willing, (), Endpoint.prefixed, by rw [hrun]; exact List.mem_singleton_self _⟩

theorem not_readablyListed {fs : Fields} {n : FieldName} (h : fs.values .connection = []) :
    ¬ ReadablyListed fs n := by
  rintro ⟨v, hv, -⟩
  rw [h] at hv
  cases hv

/-- Of three values that the caller made up, one is readable and not empty; the first proxy adds
192.0.2.7, and the second one ::1. -/
theorem hops_traced_two_proxies : ∃ first second : Inbound, ∃ out sent : Outbound,
    first.fields.values .forwardedFor = [.ofText "10.0.0.1", .ofText "", ⟨[0xFF], false⟩] ∧
    SentFor first out ∧ HandedOn first [second] sent ∧
    (∃ v, out.fields.values .forwardedFor = [v] ∧ lastAddress? v = some "192.0.2.7".toList) ∧
    (sent.fields.values .forwardedFor).map FieldValue.bytes =
      [ofString "10.0.0.1, 192.0.2.7, ::1"] := by
  let client : IpAddress := .v4 { value := 0xC0000207 }
  let gateway : IpAddress := .v6 ⟨[0, 0, 0, 0, 0, 0, 0, 1], rfl, by decide⟩
  let first := catalogRequestFrom client [(.forwardedFor, .ofText "10.0.0.1"),
    (.forwardedFor, .ofText ""), (.forwardedFor, ⟨[0xFF], false⟩)]
  obtain ⟨out, hout⟩ : ∃ out, SentFor first out := sentFor_catalogRequestFrom _ _
  obtain ⟨v, hv⟩ := (hops_traced.1 first out hout).1 client rfl
  let second := catalogRequestFrom gateway [(.forwardedFor, v)]
  obtain ⟨sent, hsent⟩ : ∃ sent, SentFor second sent := sentFor_catalogRequestFrom _ _
  have hchain : HandedOn first ([] ++ [second]) sent := .next (.sent hout) (by
    rw [hv.only]
    rfl) hsent
  refine ⟨first, second, out, sent, rfl, hout, hchain, ⟨v, hv.only, hv.last.trans ?_⟩, ?_⟩
  · decide +kernel
  · rw [hops_traced.2.2 first _ sent [client, gateway] hchain rfl]
    · decide +kernel
    · have hfirst : ¬ ReadablyListed first.fields .forwardedFor :=
        not_readablyListed (by decide +kernel)
      have hsecond : ¬ ReadablyListed second.fields .forwardedFor := not_readablyListed rfl
      simp [hfirst, hsecond]

end BrokerGate.Proxy
