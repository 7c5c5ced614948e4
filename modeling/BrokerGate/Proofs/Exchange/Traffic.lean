import BrokerGate.Proofs.Exchange.Log

/-! Operations that take turns do not disturb each other. What happens to one of them, read off the
common log, is the beginning of what happens to it if it runs alone and is given the same
answers. -/
namespace BrokerGate
open Http Log Exchange

namespace Exchange
variable {α : Type}

/-- Answers that have been written down beforehand. -/
def scripted :
    Answers (List (Except GateError BearerToken) × List (Except GateError Response)) where
  token
    | (t :: ts, rs) => (t, ts, rs)
    | ([], rs) => (.error (.credential ""), [], rs)
  reply _
    | (ts, r :: rs) => (r, ts, rs)
    | (ts, []) => (.error (.transport ""), ts, [])

/-- What is logged of the calls of an operation. -/
def acts (calls : List Call) : List Act :=
  calls.flatMap fun
    | .token answer => [.asked, .given answer]
    | .request request answer => [.sent request, .answered answer]
    | .event e => [.noted e]

/-- Alone, the operation does this and ends so, should it be given the right answers. -/
def Runs (x : Exchange α) (l : List Act) (a : α) : Prop :=
  ∃ script, acts (x.run scripted script).calls = l ∧ (x.run scripted script).result = a

theorem runs_done (a : α) : Runs (.done a) [] a := ⟨([], []), rfl, rfl⟩

theorem runs_note {e : Event} {next : Exchange α} {l : List Act} {a : α} (h : Runs next l a) :
    Runs (.note e next) (.noted e :: l) a := by
  obtain ⟨script, rfl, rfl⟩ := h
  exact ⟨script, rfl, rfl⟩

theorem runs_fetch {next : Except GateError BearerToken → Exchange α}
    {t : Except GateError BearerToken} {l : List Act} {a : α} (h : Runs (next t) l a) :
    Runs (.fetch next) (.asked :: .given t :: l) a := by
  obtain ⟨⟨ts, rs⟩, rfl, rfl⟩ := h
  exact ⟨(t :: ts, rs), rfl, rfl⟩

theorem runs_send {request : Outbound} {next : Except GateError Response → Exchange α}
    {r : Except GateError Response} {l : List Act} {a : α} (h : Runs (next r) l a) :
    Runs (.send request next) (.sent request :: .answered r :: l) a := by
  obtain ⟨⟨ts, rs⟩, rfl, rfl⟩ := h
  exact ⟨(ts, r :: rs), rfl, rfl⟩

namespace Stage

/-- What an operation at some stage may still do, and how it may end. -/
def Completes : Stage α → List Act → α → Prop
  | working rest, l, a => Runs rest l a
  | acting rest, l, a => Runs rest l a
  | awaitingToken next, l, a => ∃ t rest, l = .given t :: rest ∧ Runs (next t) rest a
  | awaitingReply next, l, a => ∃ r rest, l = .answered r :: rest ∧ Runs (next r) rest a
  | finished b, l, a => l = [] ∧ b = a

theorem exists_completes (st : Stage α) : ∃ l a, st.Completes l a := by
  have hruns (x : Exchange α) : ∃ l a, Runs x l a := ⟨_, _, ([], []), rfl, rfl⟩
  cases st with
  | working rest => exact hruns rest
  | acting rest => exact hruns rest
  | awaitingToken next =>
    obtain ⟨l, a, h⟩ := hruns (next (.error (.credential "")))
    exact ⟨_, a, _, l, rfl, h⟩
  | awaitingReply next =>
    obtain ⟨l, a, h⟩ := hruns (next (.error (.transport "")))
    exact ⟨_, a, _, l, rfl, h⟩
  | finished a => exact ⟨[], a, rfl, rfl⟩

/-- A step does nothing that the operation could not do at that point. -/
theorem completes_of_step {cause : Cause} {st st' : Stage α} {l rest : List Act} {a : α}
    (hstep : st.step cause = some (st', l)) (h : st'.Completes rest a) :
    st.Completes (l ++ rest) a := by
  rw [step.eq_def] at hstep
  split at hstep
  case h_1 => cases hstep; exact h
  case h_2 =>
    cases hstep
    obtain ⟨rfl, rfl⟩ := h
    exact runs_done _
  case h_3 => cases hstep; exact runs_note h
  case h_4 =>
    cases hstep
    obtain ⟨t, rest, rfl, h⟩ := h
    exact runs_fetch h
  case h_5 =>
    cases hstep
    obtain ⟨r, rest, rfl, h⟩ := h
    exact runs_send h
  case h_6 => cases hstep; exact ⟨_, _, rfl, h⟩
  case h_7 => cases hstep; exact ⟨_, _, rfl, h⟩
  case h_8 => cases hstep

end Stage

end Exchange

namespace Traffic
variable {ι : Type} {α : ι → Type} {program : (o : ι) → Exchange (α o)} {s s' : Traffic α}
  {i j : Nat}

theorem quiet_acts_events (events : List Event) : quiet (acts (events.map .event)) = [] := by
  induction events with
  | nil => rfl
  | cons e events ih => exact ih

/-- Every turn either begins an operation or moves one. -/
theorem step_cases {turn : Turn ι} (h : step program s turn = some s') :
    (∃ o, turn = .begins o ∧ s' = ⟨s.tasks ++ [⟨o, .working (program o)⟩],
        s.log ++ [(s.tasks.length, .began)]⟩) ∨
      ∃ i cause task stage l, turn = .moves i cause ∧ s.tasks[i]? = some task ∧
        task.stage.step cause = some (stage, l) ∧
        s' = ⟨s.tasks.set i ⟨task.operation, stage⟩, s.log ++ l.map fun a => (i, a)⟩ := by
  cases turn with
  | begins o =>
    cases h
    exact .inl ⟨o, rfl, rfl⟩
  | moves i cause =>
    obtain ⟨task, htask, h⟩ := Option.bind_eq_some_iff.mp h
    obtain ⟨⟨stage, l⟩, hstep, h⟩ := Option.bind_eq_some_iff.mp h
    cases h
    exact .inr ⟨i, cause, task, stage, l, rfl, htask, hstep, rfl⟩

/-- What happened to each operation since it began, whatever may happen to it from here on, is what
happens to it alone. -/
structure Sound (program : (o : ι) → Exchange (α o)) (s : Traffic α) : Prop where
  known : ∀ e ∈ s.log, e.1 < s.tasks.length
  led : ∀ i task, s.tasks[i]? = some task → ∃ l, lifeline i s.log = .began :: l ∧
    ∀ rest a, task.stage.Completes rest a → Runs (program task.operation) (l ++ rest) a

theorem sound_start : Sound program ⟨[], []⟩ where
  known := fun _ he => by cases he
  led := fun _ _ h => by cases h

theorem Sound.begins (h : Sound program s) (o : ι) :
    Sound program ⟨s.tasks ++ [⟨o, .working (program o)⟩],
      s.log ++ [(s.tasks.length, .began)]⟩ where
  known := by
    intro e he
    rw [List.length_append, List.length_singleton]
    rcases List.mem_append.mp he with he | he
    · have := h.known e he
      omega
    · cases List.mem_singleton.mp he
      omega
  led := by
    intro i task htask
    rw [lifeline_append]
    by_cases hi : i < s.tasks.length
    · rw [List.getElem?_append_left hi] at htask
      obtain ⟨l, hl, hruns⟩ := h.led i task htask
      have hnew : lifeline i [(s.tasks.length, Act.began)] = [] := by
        apply lifeline_eq_nil
        intro e he
        cases List.mem_singleton.mp he
        omega
      exact ⟨l, by rw [hl, hnew, List.append_nil], hruns⟩
    · -- the new operation: nothing was logged under its number before
      obtain rfl : i = s.tasks.length := by
        have := (List.getElem?_eq_some_iff.mp htask).1
        rw [List.length_append, List.length_singleton] at this
        omega
      have hold : lifeline s.tasks.length s.log = [] := by
        apply lifeline_eq_nil
        intro e he
        have := h.known e he
        omega
      rw [List.getElem?_concat_length] at htask
      cases htask
      refine ⟨[], ?_, fun rest a hrest => hrest⟩
      rw [hold, List.nil_append]
      exact lifeline_own _ [.began]

theorem Sound.moves (h : Sound program s) {task : Task α} {cause : Cause}
    {stage : Stage (α task.operation)} {l : List Act} (htask : s.tasks[i]? = some task)
    (hstep : task.stage.step cause = some (stage, l)) :
    Sound program ⟨s.tasks.set i ⟨task.operation, stage⟩, s.log ++ l.map fun a => (i, a)⟩ where
  known := by
    intro e he
    rw [List.length_set]
    rcases List.mem_append.mp he with he | he
    · exact h.known e he
    · obtain ⟨a, -, rfl⟩ := List.mem_map.mp he
      exact (List.getElem?_eq_some_iff.mp htask).1
  led := by
    intro j other hother
    rw [lifeline_append]
    by_cases hj : i = j
    · subst hj
      rw [List.getElem?_set_self (List.getElem?_eq_some_iff.mp htask).1] at hother
      cases hother
      obtain ⟨done, hdone, hruns⟩ := h.led i task htask
      refine ⟨done ++ l, by rw [hdone, lifeline_own]; rfl, fun rest a hrest => ?_⟩
      rw [List.append_assoc]
      exact hruns _ a (Stage.completes_of_step hstep hrest)
    · rw [List.getElem?_set_ne hj] at hother
      rw [lifeline_other hj, List.append_nil]
      exact h.led j other hother

theorem Sound.step {turn : Turn ι} (h : Sound program s) (hstep : step program s turn = some s') :
    Sound program s' := by
  rcases step_cases hstep with ⟨o, -, rfl⟩ | ⟨i, cause, task, stage, l, -, htask, hmove, rfl⟩
  · exact h.begins o
  · exact h.moves htask hmove

theorem Sound.foldlM {turns : List (Turn ι)} (h : Sound program s)
    (hrun : turns.foldlM (Traffic.step program) s = some s') : Sound program s' := by
  induction turns generalizing s with
  | nil =>
    cases hrun
    exact h
  | cons turn turns ih =>
    rw [List.foldlM_cons] at hrun
    obtain ⟨next, hstep, hrest⟩ := Option.bind_eq_some_iff.mp hrun
    exact ih (h.step hstep) hrest

theorem sound_of_run {turns : List (Turn ι)} (h : run program turns = some s) : Sound program s :=
  sound_start.foldlM h

/-- Only an answer to a call for a token brings one. -/
theorem cause_of_given {α : Type} {st st' : Stage α} {cause : Cause} {l : List Act}
    {answer : Except GateError BearerToken} (hstep : st.step cause = some (st', l))
    (hmem : Act.given answer ∈ l) : cause = .token answer := by
  rw [Stage.step.eq_def] at hstep
  split at hstep
  case h_6 =>
    cases hstep
    cases List.mem_singleton.mp hmem
    rfl
  case h_8 => cases hstep
  all_goals
    cases hstep
    simp at hmem

/-- Every token that an operation is given is the answer in one of the turns. -/
theorem turn_of_given {turns : List (Turn ι)} {answer : Except GateError BearerToken}
    (hrun : turns.foldlM (Traffic.step program) s = some s') (hmem : (i, .given answer) ∈ s'.log) :
    (i, .given answer) ∈ s.log ∨ .moves i (.token answer) ∈ turns := by
  induction turns generalizing s with
  | nil =>
    cases hrun
    exact .inl hmem
  | cons turn turns ih =>
    rw [List.foldlM_cons] at hrun
    obtain ⟨next, hstep, hrest⟩ := Option.bind_eq_some_iff.mp hrun
    rcases ih hrest with hmem | hmem
    · rcases step_cases hstep with ⟨o, rfl, rfl⟩ | ⟨j, cause, task, stage, l, rfl, -, hmove, rfl⟩
      · exact .inl (by simpa using hmem)
      · rcases List.mem_append.mp hmem with hmem | hmem
        · exact .inl hmem
        · obtain ⟨a, ha, heq⟩ := List.mem_map.mp hmem
          cases heq
          rw [cause_of_given hmove ha]
          exact .inr List.mem_cons_self
    · exact .inr (List.mem_cons_of_mem _ hmem)

section Alone
variable {turns : List (Turn ι)} {task : Task α}

/-- Among others an operation does the beginning of what it does alone. -/
theorem lifeline_prefix (h : run program turns = some s) (htask : s.tasks[i]? = some task) :
    ∃ script, lifeline i s.log <+:
      .began :: acts ((program task.operation).run scripted script).calls := by
  obtain ⟨l, hl, hruns⟩ := (sound_of_run h).led i task htask
  -- any way to go on will do: what was done so far does not depend on it
  obtain ⟨rest, a, hrest⟩ := task.stage.exists_completes
  obtain ⟨script, hacts, -⟩ := hruns rest a hrest
  refine ⟨script, rest, ?_⟩
  rw [hl, hacts, List.cons_append]

/-- An operation that has finished did what it does alone, and has the result that it has alone. -/
theorem lifeline_finished (h : run program turns = some s) {o : ι} {a : α o}
    (htask : s.tasks[i]? = some ⟨o, .finished a⟩) :
    ∃ script, lifeline i s.log = .began :: acts ((program o).run scripted script).calls ∧
      ((program o).run scripted script).result = a := by
  obtain ⟨l, hl, hruns⟩ := (sound_of_run h).led i _ htask
  obtain ⟨script, hacts, hresult⟩ := hruns [] a ⟨rfl, rfl⟩
  refine ⟨script, ?_, hresult⟩
  rw [hl, hacts, List.append_nil]

end Alone

end Traffic

end BrokerGate
