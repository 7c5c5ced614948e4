import BrokerGate.Proofs.Credential.Metadata
import BrokerGate.Proofs.Credential.Token
import BrokerGate.Proofs.Text.Split
import BrokerGate.Proofs.Text.Utf8

/-! Blank tokens. A fixed token is judged with the settings, and what a command prints is trimmed. A
metadata server may grant a token of blanks, as it is only asked for one that is not empty. -/
namespace BrokerGate.Credential
open Text Utf8 Http Config

/-- A metadata server grants a token of blanks. -/
inductive GrantsBlank {σ : Type} (world : Surroundings σ) (state : σ) :
    TokenSettings → String → Prop
  | intro {url : Option String} {reply : Response} {body : Bytes} {t : String} {n : Option Nat}
    (hanswer : Answered world state url reply) (hbody : Delivers reply body)
    (hgrants : Grants body ⟨t, n⟩) (hne : t ≠ "") (hblank : allBlank t = true) :
    GrantsBlank world state (.metadata url) t

/-- A header value with a token of blanks. -/
def BlankBearer (v : FieldValue) : Prop :=
  ∃ blank, allBlank blank = true ∧ v.bytes = ofString ("Bearer " ++ blank)

theorem blankBearer_iff {t : BearerToken} :
    BlankBearer t.bearerValue ↔ allBlank t.secret = true := by
  constructor
  · rintro ⟨blank, hblank, hbytes⟩
    have hdecoded := congrArg decode? hbytes
    change decode? (ofString ("Bearer " ++ t.secret)) = _ at hdecoded
    rw [ofString, ofString, decode?_encode, decode?_encode, Option.some_inj, String.toList_append,
      String.toList_append] at hdecoded
    rwa [String.toList_inj.mp (List.append_cancel_left hdecoded)]
  · exact fun h => ⟨t.secret, h, rfl⟩

theorem allBlank_trimBlank {cs : List Char} (h : trimBlank cs ≠ []) :
    allBlank (String.ofList (trimBlank cs)) = false := by
  obtain ⟨c, more, hcs⟩ := List.exists_cons_of_ne_nil h
  have hc : isBlank c = false := head?_trimBy cs c (by
    change (trimBlank cs).head? = some c
    rw [hcs, List.head?_cons])
  rw [allBlank, String.toList_ofList, hcs, List.all_cons, hc, Bool.false_and]

/-- What a command prints is no token if nothing of it is left when it is trimmed. -/
theorem allBlank_of_printedToken {outcome : CommandOutcome} {t : BearerToken}
    (h : printedToken outcome = .ok t) : allBlank t.secret = false := by
  unfold printedToken at h
  split at h
  · cases h
  · split at h
    · cases h
    · dsimp only at h
      split at h
      · cases h
      · next hne =>
        cases h
        exact allBlank_trimBlank (by simpa using hne)
  · cases h

section Fetch
variable {σ : Type} {world : Surroundings σ} {state : σ} {tokens : TokenSettings} {t : BearerToken}

theorem allBlank_of_checkTokenSource {token : String}
    (h : Settings.checkTokenSource (some (.fixed token)) = .ok ()) : allBlank token = false := by
  rw [Settings.checkTokenSource] at h
  split at h
  · cases h
  · next hblank => exact Bool.not_eq_true _ ▸ hblank

/-- A source that gives no token fails to obtain one. -/
theorem credential_of_fetch {e : GateError} (h : (fetch world state tokens).token = .error e) :
    ∃ reason, e = .credential reason := by
  cases tokens with
  | fixed token => cases h
  | command program args =>
    change commandToken program (world.run program args state).1 = .error e at h
    obtain ⟨f, -, rfl⟩ := eq_error_of_mapError h
    exact ⟨_, rfl⟩
  | metadata url => exact credential_of_fetch_metadata h

/-- The token of a source that was found valid is blank exactly if a metadata server grants a blank
one. -/
theorem allBlank_iff_grantsBlank (hvalid : Settings.checkTokenSource (some tokens) = .ok ())
    (h : (fetch world state tokens).token = .ok t) :
    allBlank t.secret = true ↔ GrantsBlank world state tokens t.secret := by
  constructor
  · intro hblank
    cases tokens with
    | fixed token =>
      cases h
      rw [allBlank_of_checkTokenSource hvalid] at hblank
      cases hblank
    | command program args =>
      change commandToken program (world.run program args state).1 = .ok t at h
      rw [allBlank_of_printedToken (eq_ok_of_mapError h)] at hblank
      cases hblank
    | metadata url =>
      obtain ⟨reply, body, n, hreply, hbody, hgrants, hne⟩ := fetch_eq_ok_iff.mp h
      exact .intro hreply hbody hgrants hne hblank
  · rintro ⟨-, -, -, -, hblank⟩
    exact hblank

/-- Each of several fetches is one in some state of the surroundings. -/
theorem exists_fetch_of_mem {f : Fetched σ} {n : Nat}
    (h : f ∈ fetchTimes world tokens state n) : ∃ st, f = fetch world st tokens := by
  induction n generalizing state with
  | zero => cases h
  | succ n ih =>
    rcases List.mem_cons.mp h with rfl | h
    · exact ⟨state, rfl⟩
    · exact ih h

end Fetch

end BrokerGate.Credential
