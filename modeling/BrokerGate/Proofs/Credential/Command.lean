import BrokerGate.Credential.Source
import BrokerGate.Proofs.Except
import BrokerGate.Proofs.Text.Split
import BrokerGate.Proofs.Text.Utf8

/-! Tokens that commands print. A run counts only if it ends well, whatever it printed before; what
it printed has to be a text, and the token is that text without the blanks around it. -/
namespace BrokerGate.Credential
open Text Utf8 Config

/-- The token that printed bytes hold: a text that neither begins nor ends with a blank, with
nothing but blanks around it. -/
structure HoldsToken (out : Bytes) (token : String) : Prop where
  framed : ∃ lead trail : String, allBlank (lead ++ trail) = true ∧
    out = ofString (lead ++ token ++ trail)
  first : ∃ c ∈ token.toList.head?, isBlank c = false
  last : ∃ c ∈ token.toList.getLast?, isBlank c = false

/-- What the runs of a command come to, one after another. -/
def outcomes {σ : Type} (world : Surroundings σ) (program : String) (args : List String)
    (state : σ) : Nat → List CommandOutcome
  | 0 => []
  | n + 1 =>
    let (outcome, state) := world.run program args state
    outcome :: outcomes world program args state n

/-- What tokens have to do with the runs of a command. -/
structure CommandTokens (program : String) (args : List String) : Prop where
  /-- A fetch is one run, and its token depends on nothing but what that run comes to. -/
  runs : ∀ (σ : Type) (world : Surroundings σ) (state : σ) (n : Nat),
    (outcomes world program args state n).length = n ∧
      (fetchTimes world (.command program args) state n).map (fun f => (f.acts, f.token)) =
        (outcomes world program args state n).map fun o =>
          ([.ran program args], commandToken program o)
  given_iff : ∀ outcome, (∃ t, commandToken program outcome = .ok t) ↔
    ∃ text err, outcome = .ended (.exited 0) (ofString text) err ∧ allBlank text = false
  token_iff : ∀ outcome t, commandToken program outcome = .ok t ↔
    ∃ out err, outcome = .ended (.exited 0) out err ∧ HoldsToken out t.secret
  padded : ∀ out err err' t lead trail, allBlank (lead ++ trail) = true →
    commandToken program (.ended (.exited 0) out err) = .ok t →
      commandToken program (.ended (.exited 0) (ofString lead ++ out ++ ofString trail) err') =
        .ok t
  named : ∀ outcome e, commandToken program outcome = .error e →
    ∃ reason, e = .credential reason ∧ program.toList <:+: reason.toList
  /-- What a run has printed before it failed does not matter. -/
  unsuccessful : ∀ ending err, ending ≠ .exited 0 → ∃ reason : String,
    (trimmed (toStringLossy err)).toList <:+: reason.toList ∧
      ∀ out, commandToken program (.ended ending out err) = .error (.credential reason)
  /-- Of a run that did not fail it matters only whether it printed a text. -/
  successful : ∃ unreadable blank : GateError, ∀ out err e,
    commandToken program (.ended (.exited 0) out err) = .error e →
      ((∃ text, out = ofString text) → e = blank) ∧
        ((¬ ∃ text, out = ofString text) → e = unreadable)

section Text

theorem forall_isBlank_iff {text : String} :
    (∀ c ∈ text.toList, isBlank c = true) ↔ allBlank text = true := List.all_eq_true.symm

theorem trimBlank_eq_nil_iff {text : String} :
    trimBlank text.toList = [] ↔ allBlank text = true :=
  trimBy_eq_nil_iff.trans forall_isBlank_iff

theorem blanks_of_append {lead trail : String} (h : allBlank (lead ++ trail) = true) :
    (∀ c ∈ lead.toList, isBlank c = true) ∧ ∀ c ∈ trail.toList, isBlank c = true := by
  rw [allBlank, String.toList_append, List.all_append, Bool.and_eq_true] at h
  exact ⟨List.all_eq_true.mp h.1, List.all_eq_true.mp h.2⟩

theorem trimmed_padded {lead trail : String} (h : allBlank (lead ++ trail) = true)
    (text : String) : trimmed (lead ++ text ++ trail) = trimmed text := by
  obtain ⟨hlead, htrail⟩ := blanks_of_append h
  rw [trimmed, String.toList_append, String.toList_append, trimBlank, trimBy_padded hlead htrail]
  rfl

/-- The text without the blanks around it is the token it holds. -/
theorem holdsToken_iff {out : Bytes} {token : String} : HoldsToken out token ↔
    ∃ text, out = ofString text ∧ allBlank text = false ∧ token = trimmed text := by
  constructor
  · rintro ⟨⟨lead, trail, hblank, rfl⟩, ⟨c, hc, hfirst⟩, ⟨d, hd, hlast⟩⟩
    have hne : token.toList ≠ [] := by
      intro hnil
      rw [hnil] at hc
      cases hc
    have htrim : trimBlank token.toList = token.toList :=
      trimBy_eq_self (fun x hx => Option.mem_unique hc hx ▸ hfirst)
        (fun x hx => Option.mem_unique hd hx ▸ hlast)
    refine ⟨_, rfl, ?_, ?_⟩
    · rw [← Bool.not_eq_true, ← forall_isBlank_iff, String.toList_append, String.toList_append]
      intro hall
      have hc' := hall c (by simp [List.mem_of_mem_head? hc])
      rw [hfirst] at hc'
      cases hc'
    · rw [trimmed_padded hblank, trimmed, htrim, String.ofList_toList]
  · rintro ⟨text, rfl, hblank, rfl⟩
    have hne : trimBlank text.toList ≠ [] := by
      rw [Ne, trimBlank_eq_nil_iff, hblank]
      exact Bool.false_ne_true
    obtain ⟨l, r, htext, hall⟩ := exists_trimBy isBlank text.toList
    refine ⟨⟨String.ofList l, String.ofList r, ?_, ?_⟩, ?_, ?_⟩
    · rw [← forall_isBlank_iff, String.toList_append, String.toList_ofList, String.toList_ofList]
      exact hall
    · congr 1
      rw [← String.toList_inj, String.toList_append, String.toList_append, trimmed,
        String.toList_ofList, String.toList_ofList, String.toList_ofList]
      exact htext
    · rw [trimmed, String.toList_ofList]
      exact ⟨_, List.head?_eq_some_head hne, head?_trimBy _ _ (List.head?_eq_some_head hne)⟩
    · rw [trimmed, String.toList_ofList]
      exact ⟨_, List.getLast?_eq_some_getLast hne,
        getLast?_trimBy _ _ (List.getLast?_eq_some_getLast hne)⟩

end Text

section Outcome
variable {program : String} {out err : Bytes} {t : BearerToken}

/-- A text that is printed is a token unless it is blank. -/
theorem printedToken_of_text (text : String) (err : Bytes) :
    printedToken (.ended (.exited 0) (ofString text) err) =
      if allBlank text then .error .blank else .ok ⟨trimmed text⟩ := by
  have hblank : (trimBlank text.toList).isEmpty = allBlank text := by
    rw [Bool.eq_iff_iff, List.isEmpty_iff, trimBlank_eq_nil_iff]
  rw [printedToken, decode?_ofString, ← hblank]
  rfl

theorem printedToken_of_not_text (h : ¬ ∃ text, out = ofString text) (err : Bytes) :
    printedToken (.ended (.exited 0) out err) = .error .notText := by
  rw [printedToken, decode?_eq_none_iff.mpr h]

theorem printedToken_of_unsuccessful {ending : Ending} (h : ending ≠ .exited 0)
    (out err : Bytes) :
    printedToken (.ended ending out err) = .error (.unsuccessful ending err) := by
  unfold printedToken
  split
  · next heq => cases heq
  · next heq =>
    cases heq
    exact absurd rfl h
  · next heq =>
    cases heq
    rfl

theorem printedToken_eq_ok_iff {outcome : CommandOutcome} : printedToken outcome = .ok t ↔
    ∃ text err, outcome = .ended (.exited 0) (ofString text) err ∧ allBlank text = false ∧
      t = ⟨trimmed text⟩ := by
  constructor
  · intro h
    cases outcome with
    | notStarted reason => cases h
    | ended ending out err =>
      by_cases hending : ending = .exited 0
      · subst hending
        by_cases htext : ∃ text, out = ofString text
        · obtain ⟨text, rfl⟩ := htext
          rw [printedToken_of_text] at h
          cases hblank : allBlank text with
          | true =>
            rw [hblank] at h
            cases h
          | false =>
            rw [hblank] at h
            cases h
            exact ⟨text, err, rfl, hblank, rfl⟩
        · rw [printedToken_of_not_text htext] at h
          cases h
      · rw [printedToken_of_unsuccessful hending] at h
        cases h
  · rintro ⟨text, err, rfl, hblank, rfl⟩
    rw [printedToken_of_text, hblank]
    rfl

theorem commandToken_eq_ok_iff {outcome : CommandOutcome} :
    commandToken program outcome = .ok t ↔ printedToken outcome = .ok t := by
  refine ⟨eq_ok_of_mapError, fun h => ?_⟩
  rw [commandToken, h]
  rfl

theorem program_infix_message (program : String) (f : CommandFailure) :
    program.toList <:+: (f.message program).toList := by
  cases f with
  | notStarted reason =>
    exact ⟨"failed to run ".toList, (": " ++ reason).toList,
      by simp [CommandFailure.message, String.toList_append]⟩
  | unsuccessful ending err =>
    exact ⟨[], (" exited with " ++ ending.text ++ ": " ++ trimmed (toStringLossy err)).toList,
      by simp [CommandFailure.message, String.toList_append]⟩
  | notText =>
    exact ⟨[], " printed a non UTF-8 token".toList,
      by simp [CommandFailure.message, String.toList_append]⟩
  | blank =>
    exact ⟨[], " printed an empty token".toList,
      by simp [CommandFailure.message, String.toList_append]⟩

theorem commandToken_padded {lead trail : String} (hblank : allBlank (lead ++ trail) = true)
    (h : commandToken program (.ended (.exited 0) out err) = .ok t) (err' : Bytes) :
    commandToken program (.ended (.exited 0) (ofString lead ++ out ++ ofString trail) err') =
      .ok t := by
  obtain ⟨text, _, heq, htext, rfl⟩ := printedToken_eq_ok_iff.mp (commandToken_eq_ok_iff.mp h)
  cases heq
  obtain ⟨hlead, htrail⟩ := blanks_of_append hblank
  have hpadded : allBlank (lead ++ text ++ trail) = false := by
    rw [← Bool.not_eq_true, ← trimBlank_eq_nil_iff, String.toList_append, String.toList_append,
      trimBlank, trimBy_padded hlead htrail]
    exact fun hnil => by simp [trimBlank_eq_nil_iff.mp hnil] at htext
  rw [commandToken_eq_ok_iff, printedToken_eq_ok_iff]
  refine ⟨lead ++ text ++ trail, err', ?_, hpadded, by rw [trimmed_padded hblank]⟩
  rw [ofString_append, ofString_append]

theorem fetchTimes_command {σ : Type} (world : Surroundings σ) (program : String)
    (args : List String) (state : σ) (n : Nat) :
    (outcomes world program args state n).length = n ∧
      (fetchTimes world (.command program args) state n).map (fun f => (f.acts, f.token)) =
        (outcomes world program args state n).map fun o =>
          ([.ran program args], commandToken program o) := by
  induction n generalizing state with
  | zero => exact ⟨rfl, rfl⟩
  | succ n ih =>
    obtain ⟨hlength, hmap⟩ := ih (world.run program args state).2
    exact ⟨congrArg (· + 1) hlength, congrArg (_ :: ·) hmap⟩

/-- A command gives a token if it ends well and has printed a text that is not blank, and each fetch
is a run of its own. Why there is none is told by the first of these that fails, and depends on
nothing that comes behind it. -/
theorem commandTokens (program : String) (args : List String) : CommandTokens program args where
  runs := fun _ world state n => fetchTimes_command world program args state n
  given_iff := by
    intro outcome
    simp only [commandToken_eq_ok_iff, printedToken_eq_ok_iff]
    constructor
    · rintro ⟨t, text, err, houtcome, hblank, -⟩
      exact ⟨text, err, houtcome, hblank⟩
    · rintro ⟨text, err, houtcome, hblank⟩
      exact ⟨_, text, err, houtcome, hblank, rfl⟩
  token_iff := by
    intro outcome t
    rw [commandToken_eq_ok_iff, printedToken_eq_ok_iff]
    constructor
    · rintro ⟨text, err, rfl, hblank, rfl⟩
      exact ⟨_, err, rfl, holdsToken_iff.mpr ⟨text, rfl, hblank, rfl⟩⟩
    · rintro ⟨out, err, rfl, hholds⟩
      obtain ⟨text, rfl, hblank, hsecret⟩ := holdsToken_iff.mp hholds
      exact ⟨text, err, rfl, hblank, congrArg BearerToken.mk hsecret⟩
  padded := fun _ _ err' _ _ _ hblank h => commandToken_padded hblank h err'
  named := by
    intro outcome e h
    obtain ⟨f, -, rfl⟩ := eq_error_of_mapError h
    exact ⟨_, rfl, program_infix_message program f⟩
  unsuccessful := by
    intro ending err hending
    refine ⟨(CommandFailure.unsuccessful ending err).message program, ?_, fun out => ?_⟩
    · refine ⟨(program ++ " exited with " ++ ending.text ++ ": ").toList, [], ?_⟩
      rw [List.append_nil, ← String.toList_append]
      rfl
    · rw [commandToken, printedToken_of_unsuccessful hending]
      rfl
  successful := by
    refine ⟨.credential (CommandFailure.notText.message program),
      .credential (CommandFailure.blank.message program), ?_⟩
    intro out err e h
    constructor
    · rintro ⟨text, rfl⟩
      rw [commandToken, printedToken_of_text] at h
      cases hblank : allBlank text with
      | true =>
        rw [hblank] at h
        exact (Except.error.inj h).symm
      | false =>
        rw [hblank] at h
        cases h
    · intro htext
      rw [commandToken, printedToken_of_not_text htext] at h
      exact (Except.error.inj h).symm

end Outcome

end BrokerGate.Credential
