import BrokerGate.Proofs.Credential.Blank
import BrokerGate.Proofs.Program.Plan
import BrokerGate.Proofs.Proxy.Traffic

/-! Settings that were found valid lead to tokens with something to see in them. A blank one is
fetched, and sent to the broker, only where a metadata server grants it. -/
namespace BrokerGate.Program
open Text Http Config Exchange Credential Proxy

/-- A token that a source gives in some surroundings. -/
def Fetches (tokens : TokenSettings) (t : BearerToken) : Prop :=
  ∃ (σ : Type) (world : Surroundings σ) (state : σ), (fetch world state tokens).token = .ok t

/-- A token of blanks that a metadata server grants in some surroundings. -/
def BlankGranted (tokens : TokenSettings) (t : String) : Prop :=
  ∃ (σ : Type) (world : Surroundings σ) (state : σ), GrantsBlank world state tokens t

section Settings
variable {s : Settings} {tokens : TokenSettings}

theorem checkTokenSource_of_validate (h : s.validate = .ok ()) :
    Settings.checkTokenSource s.tokenSource = .ok () := by
  obtain ⟨_, _, h⟩ := bind_eq_ok.mp h
  obtain ⟨_, hsource, _⟩ := bind_eq_ok.mp h
  exact hsource

theorem blankGranted_iff (hvalid : Settings.checkTokenSource (some tokens) = .ok ())
    {t : BearerToken} (h : Fetches tokens t) :
    allBlank t.secret = true ↔ BlankGranted tokens t.secret := by
  obtain ⟨σ, world, state, hfetch⟩ := h
  constructor
  · exact fun hblank => ⟨σ, world, state, (allBlank_iff_grantsBlank hvalid hfetch).mp hblank⟩
  · rintro ⟨-, -, -, -, -, -, -, hblank⟩
    exact hblank

end Settings

section Traffic
variable {raw : String} {backend : Endpoint} {turns : List (Turn Operation)}
  {traffic : Traffic Operation.Result} {i : Nat} {out : Outbound}

/-- A request to the broker carries a token that its operation was given. -/
theorem token_of_sent (hparse : Endpoint.parse raw = .ok backend)
    (hrun : Traffic.run (Operation.program backend) turns = some traffic)
    (hsent : (i, .sent out) ∈ traffic.log) : ∃ t : BearerToken,
      out.fields.values .authorization = [t.bearerValue] ∧ .moves i (.token (.ok t)) ∈ turns := by
  obtain ⟨url, hjoin, -⟩ := exists_catalogUrl hparse
  obtain ⟨k, hk⟩ := List.mem_iff_getElem?.mp hsent
  obtain ⟨t, hquiet, hout⟩ := quiet_before hjoin hrun hk
  refine ⟨t, hout, ?_⟩
  have hgiven : Act.given (.ok t) ∈ Traffic.quiet (Traffic.lifeline i (traffic.log.take k)) := by
    rw [hquiet]
    simp
  have hlog := List.mem_of_mem_take (Traffic.mem_lifeline.mp ((Traffic.mem_quiet rfl).mp hgiven))
  rcases Traffic.turn_of_given hrun hlog with hnone | hturn
  · cases hnone
  · exact hturn

end Traffic

/-- Each fetch from a source that was found valid fails to obtain a token, or gives one that is
blank exactly if a metadata server grants a blank one. However checks and requests take turns, what
they send to the broker carries a blank token exactly if one was granted so to that operation. -/
theorem tokens_visible {s : Settings} {tokens : TokenSettings} {backend : Endpoint}
    (hvalid : s.validate = .ok ()) (hsource : s.tokenSource = some tokens)
    (hbackend : s.endpoint = .ok backend) :
    (∀ (σ : Type) (world : Surroundings σ) (state : σ) (n : Nat),
      ∀ f ∈ fetchTimes world tokens state n, ∃ st, f = fetch world st tokens ∧
        ((∃ reason, f.token = .error (.credential reason)) ∨ ∃ t, f.token = .ok t ∧
          (allBlank t.secret = true ↔ GrantsBlank world st tokens t.secret))) ∧
    ∀ turns traffic, Traffic.run (Operation.program backend) turns = some traffic →
      (∀ i t, .moves i (.token (.ok t)) ∈ turns → Fetches tokens t) →
      ∀ i out, (i, .sent out) ∈ traffic.log → ∃ t : BearerToken,
        out.fields.values .authorization = [t.bearerValue] ∧
          .moves i (.token (.ok t)) ∈ turns ∧
          (BlankBearer t.bearerValue ↔ BlankGranted tokens t.secret) := by
  have hcheck := hsource ▸ checkTokenSource_of_validate hvalid
  constructor
  · intro σ world state n f hf
    obtain ⟨st, rfl⟩ := exists_fetch_of_mem hf
    refine ⟨st, rfl, ?_⟩
    cases htoken : (fetch world st tokens).token with
    | error e =>
      obtain ⟨reason, rfl⟩ := credential_of_fetch htoken
      exact .inl ⟨reason, rfl⟩
    | ok t => exact .inr ⟨t, rfl, allBlank_iff_grantsBlank hcheck htoken⟩
  · intro turns traffic hrun hanswers i out hsent
    obtain ⟨raw, -, hparse⟩ := backendUrl_of_endpoint hbackend
    obtain ⟨t, hout, hturn⟩ := token_of_sent hparse hrun hsent
    exact ⟨t, hout, hturn, blankBearer_iff.trans (blankGranted_iff hcheck (hanswers i _ hturn))⟩

/-- A metadata server, and a broker to ask. -/
def metadataSettings : Settings :=
  { Settings.default with
    backendUrl := some "https://u:p@h.example:8443/gcp//"
    tokenSource := some (.metadata metadataAddress) }

theorem validate_metadataSettings : metadataSettings.validate = .ok () :=
  eq_ok_of_toOption (by decide +kernel)

theorem endpoint_metadataSettings : metadataSettings.endpoint = .ok Endpoint.prefixed := by
  decide +kernel

/-- A check up to its request, with the token that it is given. -/
def checkTurns (t : String) : List (Turn Operation) :=
  [.begins .check, .moves 0 .itself, .moves 0 .itself, .moves 0 (.token (.ok ⟨t⟩)),
    .moves 0 .itself, .moves 0 .itself]

theorem exists_sent {t : String}
    (h : (Traffic.run (Operation.program Endpoint.prefixed) (checkTurns t)).any
      (fun s => s.log.any fun e => e.1 = 0 && e.2.isTransportCall) = true) :
    ∃ traffic out, Traffic.run (Operation.program Endpoint.prefixed) (checkTurns t) = some traffic ∧
      (0, .sent out) ∈ traffic.log := by
  obtain ⟨traffic, hrun, hany⟩ := (Option.any_eq_true ..).mp h
  obtain ⟨⟨i, a⟩, hmem, ha⟩ := List.any_eq_true.mp hany
  simp only [Bool.and_eq_true, decide_eq_true_eq] at ha
  obtain ⟨rfl, ha⟩ := ha
  cases a with
  | sent out => exact ⟨traffic, out, hrun, hmem⟩
  | _ => cases ha

theorem token_of_checkTurns {secret : String} {i : Nat} {t : BearerToken}
    (h : .moves i (.token (.ok t)) ∈ checkTurns secret) : t = ⟨secret⟩ := by
  simp only [checkTurns, List.mem_cons, List.not_mem_nil, or_false, reduceCtorEq, false_or,
    Turn.moves.injEq, Cause.token.injEq, Except.ok.injEq, and_false] at h
  exact h.2

/-- Two fetches, and a check with the token that they give. -/
theorem tokens_visible_granted :
    (∀ f ∈ fetchTimes (oneAnswer grantedBody) (.metadata metadataAddress) () 2,
      (∃ reason, f.token = .error (.credential reason)) ∨ ∃ t, f.token = .ok t ∧
        (allBlank t.secret = true ↔
          GrantsBlank (oneAnswer grantedBody) () (.metadata metadataAddress) t.secret)) ∧
    ∃ traffic out, Traffic.run (Operation.program Endpoint.prefixed) (checkTurns "t") =
        some traffic ∧ (0, .sent out) ∈ traffic.log ∧ ∃ v,
          out.fields.values .authorization = [v] ∧ ¬ BlankBearer v := by
  obtain ⟨hfetches, hrequests⟩ :=
    tokens_visible validate_metadataSettings rfl endpoint_metadataSettings
  constructor
  · intro f hf
    obtain ⟨⟨⟩, -, hf⟩ := hfetches Unit (oneAnswer grantedBody) () 2 f hf
    exact hf
  · obtain ⟨traffic, out, hrun, hsent⟩ := exists_sent (t := "t") (by decide +kernel)
    have htoken : (fetch (oneAnswer grantedBody) () (.metadata metadataAddress)).token =
        .ok ⟨"t"⟩ := eq_ok_of_toOption (by decide +kernel)
    obtain ⟨t, hout, hturn, -⟩ := hrequests (checkTurns "t") traffic hrun
      (fun i t h => token_of_checkTurns h ▸ ⟨Unit, oneAnswer grantedBody, (), htoken⟩)
      0 out hsent
    obtain rfl : t = ⟨"t"⟩ := token_of_checkTurns hturn
    refine ⟨traffic, out, hrun, hsent, _, hout, ?_⟩
    rw [blankBearer_iff]
    decide +kernel

/-- A token of one space. -/
def blankBody : String := "\x7b\"access_token\":\" \"\x7d"

/-- A metadata server grants a token of one space, and the check sends it. -/
theorem blank_token_sent :
    metadataSettings.validate = .ok () ∧
      (fetch (oneAnswer blankBody) () (.metadata metadataAddress)).token = .ok ⟨" "⟩ ∧
      allBlank " " = true ∧
      ∃ traffic out, Traffic.run (Operation.program Endpoint.prefixed) (checkTurns " ") =
          some traffic ∧ (0, .sent out) ∈ traffic.log ∧ ∃ v,
            out.fields.values .authorization = [v] ∧ BlankBearer v := by
  have htoken : (fetch (oneAnswer blankBody) () (.metadata metadataAddress)).token = .ok ⟨" "⟩ :=
    eq_ok_of_toOption (by decide +kernel)
  obtain ⟨traffic, out, hrun, hsent⟩ := exists_sent (t := " ") (by decide +kernel)
  obtain ⟨raw, -, hparse⟩ := backendUrl_of_endpoint endpoint_metadataSettings
  obtain ⟨t, hout, hturn⟩ := token_of_sent hparse hrun hsent
  obtain rfl : t = ⟨" "⟩ := token_of_checkTurns hturn
  refine ⟨validate_metadataSettings, htoken, by decide +kernel, traffic, out, hrun, hsent, _, hout,
    ?_⟩
  rw [blankBearer_iff]
  decide +kernel

end BrokerGate.Program
