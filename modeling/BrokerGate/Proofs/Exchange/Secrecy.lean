import BrokerGate.Exchange
import BrokerGate.Proofs.Credential.Token
import Mathlib.Data.List.Forall2

/-! Two runs whose tokens differ. Programs that treat all tokens alike, run by sources and
transports that answer alike, come to the same results and events, and send the same requests but
for the bytes of one field that is marked sensitive. -/
namespace BrokerGate
open Text Http Exchange

namespace Http

/-- Fields without the bytes of the authorization. -/
def Fields.veiled (fs : Fields) : Fields :=
  fs.map fun f => if f.1 = .authorization then (f.1, { f.2 with bytes := [] }) else f

section Veiled
variable {fs fs' : Fields} {n : FieldName} {v v' : FieldValue}

@[simp] theorem Fields.veiled_append (fs fs' : Fields) :
    Fields.veiled (fs ++ fs') = Fields.veiled fs ++ Fields.veiled fs' := by
  simp [Fields.veiled]

theorem Fields.veiled_erase (fs : Fields) (n : FieldName) :
    Fields.veiled (fs.erase n) = (Fields.veiled fs).erase n := by
  induction fs with
  | nil => rfl
  | cons f fs ih =>
    have hname : (if f.1 = .authorization then (f.1, { f.2 with bytes := [] }) else f).1 = f.1 := by
      split <;> rfl
    simp only [Fields.veiled, Fields.erase, List.map_cons, List.filter_cons] at ih ⊢
    rw [hname]
    split
    · rw [List.map_cons, ih]
    · exact ih

theorem Fields.veiled_set_congr (h : Fields.veiled fs = Fields.veiled fs') (n : FieldName)
    (v : FieldValue) : Fields.veiled (fs.set n v) = Fields.veiled (fs'.set n v) := by
  unfold Fields.set
  rw [Fields.veiled_append, Fields.veiled_append, Fields.veiled_erase, Fields.veiled_erase, h]

/-- Of the authorization only its mark can be seen. -/
theorem Fields.veiled_set_authorization (h : v.sensitive = v'.sensitive) (fs : Fields) :
    Fields.veiled (fs.set .authorization v) = Fields.veiled (fs.set .authorization v') := by
  unfold Fields.set
  rw [Fields.veiled_append, Fields.veiled_append]
  simp [Fields.veiled, h]

end Veiled

/-- A request without the bytes of its authorization. -/
def Outbound.veiled (out : Outbound) : Outbound := { out with fields := out.fields.veiled }

/-- The one authorization of a request is marked sensitive. -/
def Outbound.Guarded (out : Outbound) : Prop :=
  ∃ v, out.fields.values .authorization = [v] ∧ v.sensitive = true

/-- Requests that are the same but for their authorizations, which are marked sensitive. -/
structure Outbound.Alike (out out' : Outbound) : Prop where
  veiled : out.veiled = out'.veiled
  guarded : out.Guarded
  guarded' : out'.Guarded

end Http

namespace Exchange

/-- Answers to two calls for a token: tokens that both can be sent or both cannot, or one and the
same failure. -/
def AlikeTokens : Except GateError BearerToken → Except GateError BearerToken → Prop
  | .ok t, .ok t' => t.Unsendable ↔ t'.Unsendable
  | .error e, .error e' => e = e'
  | _, _ => False

/-- Two programs that do the same with all tokens, apart from handing them to the transport. -/
inductive Alike {α : Type} : Exchange α → Exchange α → Prop
  | done (a : α) : Alike (.done a) (.done a)
  | note (e : Log.Event) {x y : Exchange α} (h : Alike x y) : Alike (.note e x) (.note e y)
  | fetch {next next' : Except GateError BearerToken → Exchange α}
    (h : ∀ t t', AlikeTokens t t' → Alike (next t) (next' t')) : Alike (.fetch next) (.fetch next')
  | send {out out' : Outbound} {next next' : Except GateError Response → Exchange α}
    (hout : out.Alike out') (h : ∀ r, Alike (next r) (next' r)) :
    Alike (.send out next) (.send out' next')

/-- Two sources and transports that answer alike as long as their states correspond: the tokens may
differ, and the transport does not look at the authorization. -/
structure Answers.Alike {σ τ : Type} (R : σ → τ → Prop) (a : Answers σ) (b : Answers τ) : Prop where
  token : ∀ s t, R s t → AlikeTokens (a.token s).1 (b.token t).1 ∧ R (a.token s).2 (b.token t).2
  reply : ∀ s t out out', R s t → out.veiled = out'.veiled →
    (a.reply out s).1 = (b.reply out' t).1 ∧ R (a.reply out s).2 (b.reply out' t).2

inductive AlikeCalls : Call → Call → Prop
  | token {t t' : Except GateError BearerToken} (h : AlikeTokens t t') :
    AlikeCalls (.token t) (.token t')
  | request {out out' : Outbound} (h : out.Alike out') (r : Except GateError Response) :
    AlikeCalls (.request out r) (.request out' r)
  | event (e : Log.Event) : AlikeCalls (.event e) (.event e)

/-- Two runs with the same result and with calls that differ in nothing but tokens. -/
structure AlikeOutcomes {σ τ α : Type} (R : σ → τ → Prop) (o : Outcome σ α) (o' : Outcome τ α) :
    Prop where
  result : o.result = o'.result
  calls : List.Forall₂ AlikeCalls o.calls o'.calls
  state : R o.state o'.state

section Alike
variable {α β σ τ : Type} {R : σ → τ → Prop} {a : Answers σ} {b : Answers τ} {s : σ} {t : τ}
  {x y : Exchange α} {calls calls' : List Call}

theorem Alike.andThen {f g : α → Exchange β} (h : Alike x y) (hf : ∀ a, Alike (f a) (g a)) :
    Alike (x.andThen f) (y.andThen g) := by
  induction h with
  | done a => exact hf a
  | note e h ih => exact .note e ih
  | fetch h ih => exact .fetch ih
  | send hout h ih => exact .send hout ih

/-- Each answer leaves the two programs alike, so that the runs stay in step to their end. -/
theorem Alike.run (h : Alike x y) (hab : Answers.Alike R a b) (hst : R s t) :
    AlikeOutcomes R (x.run a s) (y.run b t) := by
  induction h generalizing s t with
  | done a => exact ⟨rfl, .nil, hst⟩
  | note e h ih =>
    obtain ⟨hresult, hcalls, hstate⟩ := ih hst
    exact ⟨hresult, .cons (.event e) hcalls, hstate⟩
  | fetch h ih =>
    obtain ⟨htoken, hnext⟩ := hab.token s t hst
    obtain ⟨hresult, hcalls, hstate⟩ := ih _ _ htoken hnext
    exact ⟨hresult, .cons (.token htoken) hcalls, hstate⟩
  | @send out out' next next' hout h ih =>
    have hreply := hab.reply s t out out' hst hout.veiled
    unfold Exchange.run
    generalize a.reply out s = p at hreply ⊢
    generalize b.reply out' t = q at hreply ⊢
    obtain ⟨r, s⟩ := p
    obtain ⟨r', t⟩ := q
    obtain ⟨rfl, hnext⟩ := hreply
    obtain ⟨hresult, hcalls, hstate⟩ := ih r hnext
    exact ⟨hresult, .cons (.request hout r) hcalls, hstate⟩

theorem tokenCalls_of_alike (h : List.Forall₂ AlikeCalls calls calls') :
    tokenCalls calls = tokenCalls calls' := by
  induction h with
  | nil => rfl
  | cons hcall _ ih =>
    unfold tokenCalls at ih ⊢
    rw [List.countP_cons, List.countP_cons, ih]
    cases hcall <;> rfl

theorem events_of_alike (h : List.Forall₂ AlikeCalls calls calls') :
    events calls = events calls' := by
  induction h with
  | nil => rfl
  | cons hcall _ ih =>
    unfold events at ih ⊢
    rw [List.filterMap_cons, List.filterMap_cons, ih]
    cases hcall <;> rfl

theorem requests_of_alike (h : List.Forall₂ AlikeCalls calls calls') :
    List.Forall₂ Outbound.Alike (requests calls) (requests calls') := by
  induction h with
  | nil => exact .nil
  | cons hcall _ ih =>
    cases hcall with
    | token h => exact ih
    | request h r => exact .cons h ih
    | event e => exact ih

end Alike

end Exchange

end BrokerGate
