import BrokerGate.Config.Load
import BrokerGate.Proofs.Config.Differ
import BrokerGate.Proofs.Config.Veiled

/-! Settings whose layers differ in a fixed token only. What is read of them differs in the token
only, and so does not differ at all in what is shown of it, unless a failure is about the token
itself: a token that is no text is quoted by the failure that says so. -/
namespace BrokerGate.Config
open Entries Value Text

/-- A mismatch that says of a scalar, by naming it, that it is no text. -/
def Mismatch.Quotes (s : Scalar) (m : Mismatch) : Prop :=
  (∀ t, s ≠ .text t) ∧ ∃ expected, m = .type (.scalar s) expected

/-- A misfit that quotes the scalar at a path of a value. -/
def Misfit.Quotes (v : Value) (p : List String) (m : Misfit) : Prop :=
  ∃ o s, v.at? p = some (.scalar o s) ∧ m.mismatch.Quotes s

/-- Token settings without the token. -/
def TokenSettings.redacted : TokenSettings → TokenSettings
  | .fixed _ => .fixed ""
  | t => t

def TokenFields.redacted (f : TokenFields) : TokenFields :=
  { f with token := f.token.map fun _ => "" }

def Settings.redacted (s : Settings) : Settings :=
  { s with tokenSource := s.tokenSource.map .redacted }

def tokenPath : List String := ["token_source", "token"]

/-- What is shown of settings is the same without the token. -/
theorem debugText_redacted (s : Settings) : s.redacted.debugText = s.debugText := by
  obtain ⟨port, host, backendUrl, proxyUrl, timeoutSecs, tokenSource, log⟩ := s
  cases tokenSource with
  | none => rfl
  | some t => cases t <;> rfl

theorem readKey_eq {α : Type} (key : String) (read : Value → Read α) (v : Value) :
    readKey key read v = (read v).mapError (.under key) := by
  unfold readKey
  cases read v <;> rfl

section Token
variable {B B' : Mismatch → Prop} {kind : TokenKind} {o : Source} {s s' : Scalar}

theorem heldString_scalar (o : Source) (s : Scalar) :
    (∃ m, heldString (.scalar o s) = .error m ∧ m.Quotes s) ∨
      ∃ t, heldString (.scalar o s) = .ok t := by
  cases s with
  | text t => exact .inr ⟨t, rfl⟩
  | _ => exact .inl ⟨_, rfl, nofun, _, rfl⟩

theorem narrow_scalar (o : Source) (s : Scalar) :
    (∃ m, narrow (.scalar o s) = .error m ∧ m.mismatch.Quotes s) ∨
      narrow (.scalar o s) = .ok () := by
  cases s with
  | wide n => exact .inl ⟨_, rfl, nofun, _, rfl⟩
  | wideSigned n => exact .inl ⟨_, rfl, nofun, _, rfl⟩
  | _ => exact .inr rfl

theorem heldField_veiled (kind : TokenKind) {f f' : TokenFields} (e : String × Value)
    (h : f.redacted = f'.redacted) :
    Veiled B B' TokenFields.redacted (heldField kind f e) (heldField kind f' e) := by
  obtain ⟨token, program, args, url⟩ := f
  obtain ⟨token', program', args', url'⟩ := f'
  simp only [TokenFields.redacted, TokenFields.mk.injEq] at h
  obtain ⟨htoken, rfl, rfl, rfl⟩ := h
  unfold heldField
  split
  case h_5 => exact .of_ok (by simp [TokenFields.redacted, htoken])
  all_goals
    refine (Veiled.refl _).map fun a a' ha => ?_
    cases ha
    simp [TokenFields.redacted, htoken]

theorem heldField_token (kind : TokenKind) (o : Source) (s s' : Scalar) (f : TokenFields) :
    Veiled (Mismatch.Quotes s) (Mismatch.Quotes s') TokenFields.redacted
      (heldField kind f ("token", .scalar o s)) (heldField kind f ("token", .scalar o s')) := by
  cases kind with
  | fixed =>
    have hside : ∀ s, (∃ m, heldField .fixed f ("token", .scalar o s) = .error m ∧ m.Quotes s) ∨
        (heldField .fixed f ("token", .scalar o s)).map TokenFields.redacted =
          .ok { f with token := some "" } := by
      intro s
      simp only [heldField]
      rcases heldString_scalar o s with ⟨m, hm, hquotes⟩ | ⟨t, ht⟩
      · exact .inl ⟨m, by rw [hm]; rfl, hquotes⟩
      · exact .inr (by rw [ht]; rfl)
    exact .of_sides (hside s) (hside s')
  | command => exact .of_ok rfl
  | metadata => exact .of_ok rfl

theorem finishToken_veiled {f f' : TokenFields} (h : f.redacted = f'.redacted) :
    Veiled B B' TokenSettings.redacted (finishToken kind f) (finishToken kind f') := by
  obtain ⟨token, program, args, url⟩ := f
  obtain ⟨token', program', args', url'⟩ := f'
  simp only [TokenFields.redacted, TokenFields.mk.injEq] at h
  obtain ⟨htoken, rfl, rfl, rfl⟩ := h
  cases kind with
  | fixed =>
    cases token with
    | none =>
      cases token' with
      | none => exact .of_map rfl
      | some t' => cases htoken
    | some t =>
      cases token' with
      | none => cases htoken
      | some t' => exact .of_ok rfl
  | command => exact .of_map rfl
  | metadata => exact .of_map rfl

theorem fromEntries_veiled (front back : Entries) :
    Veiled (Mismatch.Quotes s) (Mismatch.Quotes s') TokenSettings.redacted
      (fromEntries kind (front ++ ("token", .scalar o s) :: back))
      (fromEntries kind (front ++ ("token", .scalar o s') :: back)) := by
  have hfields := Veiled.foldlM_at (fun f f' e h => heldField_veiled kind e h)
    (heldField_token kind o s s') front back {}
  exact hfields.bind fun f f' h => finishToken_veiled h

theorem tokenEntry_token (byIndex : Bool) (o : Source) (s s' : Scalar) (held : Option TokenKind) :
    Veiled (fun m => m.mismatch.Quotes s) (fun m => m.mismatch.Quotes s') id
      (tokenEntry byIndex held ("token", .scalar o s))
      (tokenEntry byIndex held ("token", .scalar o s')) := by
  have hside : ∀ s, (∃ m, tokenEntry byIndex held ("token", .scalar o s) = .error m ∧
      m.mismatch.Quotes s) ∨
        (tokenEntry byIndex held ("token", .scalar o s)).map id = .ok held := by
    intro s
    rw [tokenEntry, if_neg (show ¬ "token" = "type" by decide), readKey_eq]
    rcases narrow_scalar o s with ⟨m, hm, hquotes⟩ | hok
    · exact .inl ⟨m.under "token", by rw [hm]; rfl, hquotes⟩
    · exact .inr (by rw [hok]; rfl)
  exact .of_sides (hside s) (hside s')

theorem readToken_table (byIndex : Bool) (o : Source) (es : Entries) :
    readToken byIndex (.table o es) = (es.foldlM (tokenEntry byIndex) none).bind fun
      | none => .error ⟨[], o, .missing "type"⟩
      | some kind => (fromEntries kind es).mapError fun m => ⟨[], o, m⟩ := by
  unfold readToken
  dsimp only [bind]
  congr 1
  funext held
  cases held with
  | none => rfl
  | some kind => cases hread : fromEntries kind es <;> simp only [hread] <;> rfl

theorem readToken_veiled (byIndex : Bool) {u v : Value} (h : DifferAt ["token"] u v)
    (hu : u.Sorted) (hv : v.Sorted) :
    Veiled (Misfit.Quotes u ["token"]) (Misfit.Quotes v ["token"]) TokenSettings.redacted
      (readToken byIndex u) (readToken byIndex v) := by
  rcases h.split hu hv with rfl | ⟨o, front, back, a, b, hab, -, -, hat, hat', rfl, rfl⟩
  · exact .of_map rfl
  · cases hab with
    | same => exact .of_map rfl
    | scalar o' s s' =>
      rw [readToken_table, readToken_table]
      -- the kind is looked for first; the token has no part in it unless it fits no setting at all
      have hkind := Veiled.foldlM_at (fun k k' e h => by cases h; exact .of_map rfl)
        (tokenEntry_token byIndex o' s s') front back none
      refine (hkind.mono (fun m hm => ⟨o', s, hat, hm⟩) fun m hm => ⟨o', s', hat', hm⟩).bind
        fun held held' hheld => ?_
      cases hheld
      cases held with
      | none => exact .of_map rfl
      | some kind =>
        exact (fromEntries_veiled front back).mapError _ (fun m hm => ⟨o', s, hat, hm⟩)
          fun m hm => ⟨o', s', hat', hm⟩

end Token

section Settings
variable {s s' : Settings}

theorem readEntry_veiled {B B' : Misfit → Prop} (e : String × Value)
    (h : s.redacted = s'.redacted) :
    Veiled B B' Settings.redacted (readEntry s e) (readEntry s' e) := by
  obtain ⟨port, host, backendUrl, proxyUrl, timeoutSecs, tokenSource, log⟩ := s
  obtain ⟨port', host', backendUrl', proxyUrl', timeoutSecs', tokenSource', log'⟩ := s'
  simp only [Settings.redacted, Settings.mk.injEq] at h
  obtain ⟨rfl, rfl, rfl, rfl, rfl, htoken, rfl⟩ := h
  unfold readEntry
  dsimp only
  split
  case h_8 => exact .of_ok (by simp [Settings.redacted, htoken])
  all_goals
    refine (Veiled.refl _).map fun a a' ha => ?_
    cases ha
    simp [Settings.redacted, htoken]

theorem readOption_of_table {α : Type} (read : Value → Read α) (o : Source) (es : Entries) :
    readOption read (.table o es) = (read (.table o es)).map some := rfl

theorem readEntry_tokenSource {u v : Value} (s : Settings) (h : DifferAt ["token"] u v)
    (hu : u.Sorted) (hv : v.Sorted) :
    Veiled (Misfit.Quotes u ["token"]) (Misfit.Quotes v ["token"]) Settings.redacted
      (readEntry s ("token_source", u)) (readEntry s ("token_source", v)) := by
  have htokens : Veiled (Misfit.Quotes u ["token"]) (Misfit.Quotes v ["token"])
      (Option.map TokenSettings.redacted) (readOption (readToken true) u)
        (readOption (readToken true) v) := by
    have hread := readToken_veiled true h hu hv
    cases h with
    | same => exact .of_map rfl
    | table o _ _ _ _ =>
      rw [readOption_of_table, readOption_of_table]
      exact hread.map fun t t' ht => congrArg some ht
  simp only [readEntry, readKey_eq]
  refine (htokens.mapError (Misfit.under "token_source") (fun m hm => hm) fun m hm => hm).map
    fun t t' ht => ?_
  simp only [Settings.redacted, ht]

/-- Settings are read from values that differ in the token alike, but for the token, unless it is no
text. -/
theorem ofValue_veiled {u v : Value} (h : DifferAt tokenPath u v) (hu : u.Sorted)
    (hv : v.Sorted) :
    Veiled (Misfit.Quotes u tokenPath) (Misfit.Quotes v tokenPath) Settings.redacted
      (Settings.ofValue u) (Settings.ofValue v) := by
  rcases h.split hu hv with rfl | ⟨o, front, back, a, b, hab, ha, hb, hat, hat', rfl, rfl⟩
  · exact .of_map rfl
  · have hentry : ∀ s, Veiled
        (Misfit.Quotes (.table o (front ++ ("token_source", a) :: back)) tokenPath)
        (Misfit.Quotes (.table o (front ++ ("token_source", b) :: back)) tokenPath)
        Settings.redacted (readEntry s ("token_source", a)) (readEntry s ("token_source", b)) := by
      intro s
      refine (readEntry_tokenSource s hab ha hb).mono ?_ ?_
      · rintro m ⟨o', t, ht, hquotes⟩
        exact ⟨o', t, hat.trans ht, hquotes⟩
      · rintro m ⟨o', t, ht, hquotes⟩
        exact ⟨o', t, hat'.trans ht, hquotes⟩
    exact Veiled.foldlM_at (fun s s' e h => readEntry_veiled e h) hentry front back .default

/-- Of two failures the first is that the token is blank, which the other token is not, so that the
second is the one that comes next. -/
structure BlankFirst (s s' : Settings) (e e' : GateError) : Prop where
  blank : ∃ t, s.tokenSource = some (.fixed t) ∧ allBlank t = true
  visible : ∃ t, s'.tokenSource = some (.fixed t) ∧ allBlank t = false
  timeout : s.timeoutSecs = some 0
  first : e = .configuration "static token is empty"
  next : e' = .configuration "timeout_secs must be positive"

section Validate
variable {x : Endpoint} {t t' : String} {e e' : GateError}

theorem validate_of_blank (hendpoint : s.endpoint = .ok x)
    (hsource : s.tokenSource = some (.fixed t)) (hblank : allBlank t = true) :
    s.validate = .error (.configuration "static token is empty") := by
  have hcheck : Settings.checkTokenSource s.tokenSource =
      .error (.configuration "static token is empty") := by
    rw [hsource]
    exact if_pos hblank
  unfold Settings.validate
  rw [hendpoint, hcheck]
  rfl

theorem validate_of_visible (hendpoint : s.endpoint = .ok x)
    (hsource : s.tokenSource = some (.fixed t)) (hvisible : allBlank t = false)
    (he : s.validate = .error e) :
    s.timeoutSecs = some 0 ∧ e = .configuration "timeout_secs must be positive" := by
  have hcheck : Settings.checkTokenSource s.tokenSource = .ok () := by
    rw [hsource]
    exact if_neg (by simp [hvisible])
  unfold Settings.validate at he
  rw [hendpoint, hcheck] at he
  by_cases htimeout : s.timeoutSecs = some 0
  · simp only [bind, Except.bind, htimeout, if_true] at he
    cases he
    exact ⟨htimeout, rfl⟩
  · simp only [bind, Except.bind, htimeout, if_false] at he
    cases he

theorem blankFirst_of_errors (hendpoint : s.endpoint = .ok x) (hendpoint' : s'.endpoint = .ok x)
    (htimeout : s.timeoutSecs = s'.timeoutSecs) (hsource : s.tokenSource = some (.fixed t))
    (hsource' : s'.tokenSource = some (.fixed t')) (hblank : allBlank t = true)
    (hvisible : allBlank t' = false) (he : s.validate = .error e)
    (he' : s'.validate = .error e') : BlankFirst s s' e e' := by
  rw [validate_of_blank hendpoint hsource hblank] at he
  cases he
  obtain ⟨hzero, hnext⟩ := validate_of_visible hendpoint' hsource' hvisible he'
  exact ⟨⟨t, hsource, hblank⟩, ⟨t', hsource', hvisible⟩, htimeout.trans hzero, rfl, hnext⟩

theorem eq_or_fixed_of_redacted {a b : TokenSettings} (h : a.redacted = b.redacted) :
    a = b ∨ ∃ t t', a = .fixed t ∧ b = .fixed t' := by
  cases a with
  | fixed t =>
    cases b with
    | fixed t' => exact .inr ⟨t, t', rfl, rfl⟩
    | command => cases h
    | metadata => cases h
  | command program args =>
    cases b with
    | command => exact .inl h
    | fixed => cases h
    | metadata => cases h
  | metadata url =>
    cases b with
    | metadata => exact .inl h
    | fixed => cases h
    | command => cases h

theorem checkTokenSource_redacted {a b : Option TokenSettings}
    (h : a.map TokenSettings.redacted = b.map TokenSettings.redacted) :
    Settings.checkTokenSource a = Settings.checkTokenSource b ∨
      ∃ t t', a = some (.fixed t) ∧ b = some (.fixed t') ∧ allBlank t ≠ allBlank t' := by
  cases a with
  | none =>
    cases b with
    | none => exact .inl rfl
    | some b => cases h
  | some a =>
    cases b with
    | none => cases h
    | some b =>
      rcases eq_or_fixed_of_redacted (Option.some.inj h) with rfl | ⟨t, t', rfl, rfl⟩
      · exact .inl rfl
      · by_cases heq : allBlank t = allBlank t'
        · exact .inl (by simp only [Settings.checkTokenSource, heq])
        · exact .inr ⟨t, t', rfl, rfl, heq⟩

/-- Settings that differ in the token are refused alike, unless one of the tokens is blank. -/
theorem validate_redacted (h : s.redacted = s'.redacted)
    (he : s.validate = .error e) (he' : s'.validate = .error e') :
    e = e' ∨ BlankFirst s s' e e' ∨ BlankFirst s' s e' e := by
  obtain ⟨-, -, hurl, -, htimeout, hsource, -⟩ := Settings.mk.inj h
  have hendpoint : s.endpoint = s'.endpoint := by rw [Settings.endpoint, Settings.endpoint, hurl]
  rcases checkTokenSource_redacted hsource with hcheck | ⟨t, t', ht, ht', hne⟩
  · have hvalidate : s.validate = s'.validate := by
      rw [Settings.validate, Settings.validate, hendpoint, hcheck, htimeout]
    rw [hvalidate, he'] at he
    cases he
    exact .inl rfl
  · cases hx : s.endpoint with
    | error cause =>
      have hx' : s'.endpoint = .error cause := hendpoint.symm.trans hx
      rw [Settings.validate, hx] at he
      rw [Settings.validate, hx'] at he'
      cases he
      cases he'
      exact .inl rfl
    | ok x =>
      have hx' : s'.endpoint = .ok x := hendpoint.symm.trans hx
      cases hblank : allBlank t with
      | true =>
        have hvisible : allBlank t' = false := by simpa [hblank] using hne.symm
        exact .inr (.inl (blankFirst_of_errors hx hx' htimeout ht ht' hblank hvisible he he'))
      | false =>
        have hblank' : allBlank t' = true := by simpa [hblank] using hne.symm
        exact .inr (.inr (blankFirst_of_errors hx' hx htimeout.symm ht' ht hblank' hblank he' he))

end Validate

end Settings

end BrokerGate.Config
