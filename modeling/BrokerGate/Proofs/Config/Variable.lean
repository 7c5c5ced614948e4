import BrokerGate.Config.Variable
import BrokerGate.Proofs.Config.Merge
import BrokerGate.Proofs.Text.Split
import Mathlib.Data.List.Pairwise

/-! The layer of environment variables. If no variable sets what lies within another one's value,
each variable sets its own key, and their order does not matter. -/
namespace BrokerGate.Config
open Text Entries Value

section Nested
variable {p q : List String} {v w z : Value}

theorem merge_nested (z : Value) (k : String) (ks : List String) (v : Value) :
    z.merge (nested (k :: ks) v) =
      .table .environment (put k (overlay (get? z.entries k) (nested ks v)) z.entries) := by
  cases z <;> rfl

theorem at?_nested (p : List String) (v : Value) : (nested p v).at? p = some v := by
  induction p with
  | nil => rfl
  | cons k ks ih =>
    rw [nested, at?_table_cons, get?_cons, if_pos rfl]
    exact ih

theorem at?_nested_apart (h : Apart p q) (v : Value) : (nested p v).at? q = none := by
  induction p generalizing q with
  | nil => exact absurd List.nil_prefix h.1
  | cons k ks ih =>
    cases q with
    | nil => exact absurd List.nil_prefix h.2
    | cons j js =>
      rw [nested, at?_table_cons, get?_cons]
      by_cases hk : k = j
      · subst hk
        rw [if_pos rfl]
        exact ih (apart_cons.mp h)
      · rw [if_neg hk]
        rfl

theorem at?_merge_nested (z : Value) (p : List String) (v : Value) :
    (z.merge (nested p v)).at? p = some (overlay (z.at? p) v) := by
  induction p generalizing z with
  | nil => rfl
  | cons k ks ih =>
    rw [merge_nested, at?_table_cons, get?_put_self, at?]
    cases get? z.entries k with
    | none => exact at?_nested ks v
    | some w => exact ih w

/-- Setting one key leaves what stands beside it. -/
theorem at?_merge_nested_apart (h : Apart p q) (z v : Value) :
    (z.merge (nested p v)).at? q = z.at? q := by
  induction p generalizing q z with
  | nil => exact absurd List.nil_prefix h.1
  | cons k ks ih =>
    cases q with
    | nil => exact absurd List.nil_prefix h.2
    | cons j js =>
      rw [merge_nested, at?_table_cons, at?]
      by_cases hk : j = k
      · subst hk
        rw [get?_put_self]
        cases get? z.entries j with
        | none => exact at?_nested_apart (apart_cons.mp h) v
        | some w => exact ih (apart_cons.mp h) w
      · rw [get?_put_other _ _ hk]

theorem blocks_nested_apart (h : Apart p q) (v : Value) : (nested p v).blocks q = false := by
  induction p generalizing q with
  | nil => exact absurd List.nil_prefix h.1
  | cons k ks ih =>
    cases q with
    | nil => rfl
    | cons j js =>
      rw [nested, blocks_table_cons, get?_cons]
      by_cases hk : k = j
      · subst hk
        rw [if_pos rfl]
        exact ih (apart_cons.mp h)
      · rw [if_neg hk]
        rfl

theorem blocks_merge_nested_apart (h : Apart p q) (hz : z.blocks q = false) (v : Value) :
    (z.merge (nested p v)).blocks q = false := by
  induction p generalizing q z with
  | nil => exact absurd List.nil_prefix h.1
  | cons k ks ih =>
    cases q with
    | nil => rfl
    | cons j js =>
      obtain ⟨-, hbelow⟩ := Bool.or_eq_false_iff.mp hz
      rw [merge_nested, blocks_table_cons]
      by_cases hk : j = k
      · subst hk
        rw [get?_put_self, Option.any_some]
        cases hget : get? z.entries j with
        | none => exact blocks_nested_apart (apart_cons.mp h) v
        | some w =>
          rw [hget] at hbelow
          exact ih (apart_cons.mp h) hbelow
      · rw [get?_put_other _ _ hk]
        exact hbelow

theorem merge_empty_nested (h : Apart p q) (v : Value) :
    (table .environment []).merge (nested p v) = nested p v := by
  cases p with
  | nil => exact absurd List.nil_prefix h.1
  | cons k ks => exact merge_nested _ k ks v

/-- Keys that lie apart can be set in any order. -/
theorem merge_nested_comm (h : Apart p q) (z v w : Value) :
    (z.merge (nested p v)).merge (nested q w) = (z.merge (nested q w)).merge (nested p v) := by
  induction p generalizing q z with
  | nil => exact absurd List.nil_prefix h.1
  | cons k ks ih =>
    cases q with
    | nil => exact absurd List.nil_prefix h.2
    | cons j js =>
      simp only [merge_nested, entries_table]
      by_cases hk : j = k
      · subst hk
        have hapart := apart_cons.mp h
        rw [get?_put_self, get?_put_self, put_put_self, put_put_self]
        congr 2
        cases get? z.entries j with
        | some old => exact ih hapart old
        | none =>
          -- the first of the two may as well be set in an empty table
          have hempty := ih hapart (.table .environment [])
          rw [merge_empty_nested hapart v, merge_empty_nested hapart.symm w] at hempty
          exact hempty
      · rw [get?_put_other _ _ hk, get?_put_other _ _ (Ne.symm hk), put_comm (Ne.symm hk)]

theorem sorted_nested (p : List String) (h : v.Sorted) : (nested p v).Sorted := by
  induction p with
  | nil => exact h
  | cons k ks ih =>
    refine .table _ (List.pairwise_singleton _ _) fun e he => ?_
    cases List.mem_singleton.mp he
    exact ih

end Nested

theorem sorted_ofList {es : List (String × Value)} (h : ∀ e ∈ es, e.2.Sorted) (o : Source) :
    (table o (Entries.ofList es)).Sorted :=
  .table o (ascending_ofList es) fun e he => h e (mem_ofList he)

/-- Numbers that are too wide to be read. -/
def Scalar.isWide : Scalar → Bool
  | .wide _ | .wideSigned _ => true
  | _ => false

/-- A property of all values that a text can be read as, as it is handed up from the parts. -/
structure HandedUp (P : Value → Prop) : Prop where
  scalar : ∀ s : Scalar, s.isWide = false → P (scalarOf s)
  list : ∀ items : List Value, (∀ v ∈ items, P v) → P (.list .environment items)
  table : ∀ es : Entries, (∀ e ∈ es, P e.2) → P (.table .environment (Entries.ofList es))

section Text
variable {P : Value → Prop} {fuel : Nat} {cs rest : List Char} {v : Value} {vs : List Value}
  {es : List (String × Value)}

theorem isWide_bareScalar (cs : List Char) : (bareScalar cs).isWide = false := by
  unfold bareScalar
  dsimp only
  split
  · rfl
  · split
    · split_ifs <;> rfl
    · split <;> rfl

theorem HandedUp.value_succ (hP : HandedUp P)
    (hitems : ∀ cs vs rest, itemsAt fuel cs = some (vs, rest) → ∀ v ∈ vs, P v)
    (hentries : ∀ cs es rest, entriesAt fuel cs = some (es, rest) → ∀ e ∈ es, P e.2)
    (h : valueAt (fuel + 1) cs = some (v, rest)) : P v := by
  rw [valueAt] at h
  dsimp only at h
  split at h
  case h_3 =>
    obtain ⟨p, hp, hv⟩ := Option.map_eq_some_iff.mp h
    cases hv
    exact hP.table _ (hentries _ _ _ hp)
  case h_4 =>
    obtain ⟨p, hp, hv⟩ := Option.map_eq_some_iff.mp h
    cases hv
    exact hP.list _ (hitems _ _ _ hp)
  case h_5 =>
    split at h
    · cases h
      exact hP.scalar _ rfl
    · cases h
  case h_7 => cases h
  case h_8 =>
    cases h
    exact hP.scalar _ (isWide_bareScalar _)
  all_goals
    cases h
    exact hP.scalar _ rfl

theorem HandedUp.items_succ
    (hvalue : ∀ cs v rest, valueAt fuel cs = some (v, rest) → P v)
    (hitems : ∀ cs vs rest, itemsAt fuel cs = some (vs, rest) → ∀ v ∈ vs, P v)
    (h : itemsAt (fuel + 1) cs = some (vs, rest)) : ∀ v ∈ vs, P v := by
  rw [itemsAt.eq_def] at h
  split at h
  · cases h
  · cases h
    exact fun v hv => nomatch hv
  · next hfuel hopen =>
    cases hfuel
    -- a value, and either a comma or the end
    split at h
    · next w rest' hw =>
      obtain ⟨q, hq, hvs⟩ := Option.map_eq_some_iff.mp h
      cases hvs
      intro v hv
      rcases List.mem_cons.mp hv with rfl | hv
      · exact hvalue _ _ _ hw
      · exact hitems _ _ _ hq v hv
    · next w rest' hw =>
      cases h
      intro v hv
      cases List.mem_singleton.mp hv
      exact hvalue _ _ _ hw
    · cases h

theorem HandedUp.entries_succ
    (hvalue : ∀ cs v rest, valueAt fuel cs = some (v, rest) → P v)
    (hentries : ∀ cs es rest, entriesAt fuel cs = some (es, rest) → ∀ e ∈ es, P e.2)
    (h : entriesAt (fuel + 1) cs = some (es, rest)) : ∀ e ∈ es, P e.2 := by
  rw [entriesAt.eq_def] at h
  split at h
  · cases h
  · cases h
    exact fun e he => nomatch he
  · next hfuel hopen =>
    cases hfuel
    -- a key, its sign, a value, and either a comma or the end
    split at h
    · cases h
    · split at h
      · split at h
        · next w rest' hw =>
          obtain ⟨q, hq, hes⟩ := Option.map_eq_some_iff.mp h
          cases hes
          intro e he
          rcases List.mem_cons.mp he with rfl | he
          · exact hvalue _ _ _ hw
          · exact hentries _ _ _ hq e he
        · next w rest' hw =>
          cases h
          intro e he
          cases List.mem_singleton.mp he
          exact hvalue _ _ _ hw
        · cases h
      · cases h

/-- What is handed up holds of whatever a number of steps can read. -/
theorem HandedUp.valueAt (hP : HandedUp P) (fuel : Nat) :
    (∀ cs v rest, Config.valueAt fuel cs = some (v, rest) → P v) ∧
      (∀ cs vs rest, itemsAt fuel cs = some (vs, rest) → ∀ v ∈ vs, P v) ∧
      ∀ cs es rest, entriesAt fuel cs = some (es, rest) → ∀ e ∈ es, P e.2 := by
  induction fuel with
  | zero =>
    refine ⟨fun cs v rest h => ?_, fun cs vs rest h => ?_, fun cs es rest h => ?_⟩
    · cases h
    · rw [itemsAt] at h
      cases h
    · rw [entriesAt] at h
      cases h
  | succ fuel ih =>
    obtain ⟨hvalue, hitems, hentries⟩ := ih
    exact ⟨fun cs v rest h => hP.value_succ hitems hentries h,
      fun cs vs rest h => HandedUp.items_succ hvalue hitems h,
      fun cs es rest h => HandedUp.entries_succ hvalue hentries h⟩

theorem HandedUp.variableValue (hP : HandedUp P) (text : String) :
    P (Config.variableValue text) := by
  unfold Config.variableValue
  dsimp only
  split
  · next v h => exact (hP.valueAt _).1 _ _ _ h
  · exact hP.scalar _ rfl

/-- Whatever the text of a variable is read as has its tables sorted. -/
theorem sorted_variableValue (text : String) : (Config.variableValue text).Sorted := by
  have hsorted : HandedUp Sorted :=
    ⟨fun s _ => .scalar _ s, fun items _ => .list _ items, fun _ hes => sorted_ofList hes _⟩
  exact hsorted.variableValue text

end Text

/-- Sets what a variable sets. -/
def setVariable (z : Value) (x : String × String) : Value :=
  match variablePath? x.1 with
  | some p => z.merge (nested p (variableValue x.2))
  | none => z

theorem environmentLayer_eq (environment : List (String × String)) :
    environmentLayer environment = environment.foldl setVariable (.table .environment []) := rfl

theorem variablePath?_ne_nil (name : String) : variablePath? name ≠ some [] := by
  intro h
  unfold variablePath? at h
  dsimp only at h
  split at h
  · cases h
  · simp only [Option.ite_none_left_eq_some, Option.some.injEq, List.map_eq_nil_iff] at h
    exact pieces_ne_nil _ _ h.2

/-- No key is set twice, and none lies within another. -/
def Separate (environment : List (String × String)) : Prop :=
  environment.Pairwise fun x y =>
    ∀ p q, variablePath? x.1 = some p → variablePath? y.1 = some q → Apart p q

theorem separate_of_paths {environment : List (String × String)}
    (paths : List (Option (List String)))
    (hpaths : environment.map (fun x => variablePath? x.1) = paths)
    (hpairs : paths.Pairwise fun p q => ∀ a b, p = some a → q = some b → Apart a b) :
    Separate environment := by
  rw [← hpaths] at hpairs
  exact List.pairwise_map.mp hpairs

section Environment
variable {environment environment' : List (String × String)} {x y : String × String}
  {p ks : List String} {j k : String}

theorem setVariable_of_path (h : variablePath? x.1 = some p) (z : Value) :
    setVariable z x = z.merge (nested p (variableValue x.2)) := by
  rw [setVariable, h]

theorem setVariable_of_no_path (h : variablePath? x.1 = none) (z : Value) :
    setVariable z x = z := by
  rw [setVariable, h]

theorem get?_setVariable_self (h : variablePath? x.1 = some (k :: ks)) (z : Value) :
    get? (setVariable z x).entries k =
      some (overlay (get? z.entries k) (nested ks (variableValue x.2))) := by
  rw [setVariable_of_path h, merge_nested, entries_table, get?_put_self]

theorem get?_setVariable_other (h : variablePath? x.1 = some (k :: ks)) (hj : j ≠ k) (z : Value) :
    get? (setVariable z x).entries j = get? z.entries j := by
  rw [setVariable_of_path h, merge_nested, entries_table, get?_put_other _ _ hj]

theorem setVariable_comm
    (h : ∀ p q, variablePath? x.1 = some p → variablePath? y.1 = some q → Apart p q) (z : Value) :
    setVariable (setVariable z x) y = setVariable (setVariable z y) x := by
  cases hx : variablePath? x.1 with
  | none => rw [setVariable_of_no_path hx, setVariable_of_no_path hx]
  | some p =>
    cases hy : variablePath? y.1 with
    | none => rw [setVariable_of_no_path hy, setVariable_of_no_path hy]
    | some q =>
      rw [setVariable_of_path hx, setVariable_of_path hy, setVariable_of_path hy,
        setVariable_of_path hx]
      exact merge_nested_comm (h p q hx hy) z _ _

/-- The order of variables does not matter. -/
theorem environmentLayer_perm (hsep : Separate environment)
    (hperm : environment.Perm environment') :
    environmentLayer environment = environmentLayer environment' := by
  have hcomm : ∀ x ∈ environment, ∀ y ∈ environment, ∀ z,
      setVariable (setVariable z x) y = setVariable (setVariable z y) x := by
    intro x hx y hy
    have hpairs := hsep.imp fun h => setVariable_comm h
    refine hpairs.forall_of_forall_of_flip (fun x _ z => rfl) ?_ hx hy
    exact hpairs.imp fun h z => (h z).symm
  exact hperm.foldl_eq' hcomm _

theorem at?_foldl_of_apart (h : ∀ x ∈ environment, ∀ q, variablePath? x.1 = some q → Apart q p)
    (z : Value) : (environment.foldl setVariable z).at? p = z.at? p := by
  induction environment generalizing z with
  | nil => rfl
  | cons x xs ih =>
    rw [List.foldl_cons, ih fun y hy => h y (List.mem_cons_of_mem _ hy)]
    cases hx : variablePath? x.1 with
    | none => rw [setVariable_of_no_path hx]
    | some q =>
      rw [setVariable_of_path hx]
      exact at?_merge_nested_apart (h x List.mem_cons_self q hx) z _

theorem blocks_foldl_of_apart
    (h : ∀ x ∈ environment, ∀ q, variablePath? x.1 = some q → Apart q p) {z : Value}
    (hz : z.blocks p = false) : (environment.foldl setVariable z).blocks p = false := by
  induction environment generalizing z with
  | nil => exact hz
  | cons x xs ih =>
    apply ih fun y hy => h y (List.mem_cons_of_mem _ hy)
    cases hx : variablePath? x.1 with
    | none =>
      rw [setVariable_of_no_path hx]
      exact hz
    | some q =>
      rw [setVariable_of_path hx]
      exact blocks_merge_nested_apart (h x List.mem_cons_self q hx) hz _

/-- Where no variable sets anything the layer leaves what is below it. -/
theorem leaves_environmentLayer
    (h : ∀ x ∈ environment, ∀ q, variablePath? x.1 = some q → Apart q p) (hp : p ≠ []) :
    (environmentLayer environment).Leaves p := by
  cases p with
  | nil => exact absurd rfl hp
  | cons k ks =>
    rw [environmentLayer_eq]
    exact ⟨at?_foldl_of_apart h _, blocks_foldl_of_apart h rfl⟩

/-- A variable's key has its value. -/
theorem at?_environmentLayer_of_mem (hsep : Separate environment) (hx : x ∈ environment)
    (hpath : variablePath? x.1 = some p) :
    (environmentLayer environment).at? p = some (variableValue x.2) := by
  -- the variable may as well be the last one
  obtain ⟨front, back, rfl⟩ := List.append_of_mem hx
  have hlast : (front ++ x :: back).Perm (front ++ back ++ [x]) := by
    rw [List.append_assoc]
    exact (List.perm_append_singleton x back).symm.append_left front
  have hothers : ∀ y ∈ front ++ back, ∀ q, variablePath? y.1 = some q → Apart q p := by
    intro y hy q hq
    obtain ⟨-, htail, hcross⟩ := List.pairwise_append.mp hsep
    rcases List.mem_append.mp hy with hy | hy
    · exact hcross y hy x List.mem_cons_self q p hq hpath
    · exact ((List.pairwise_cons.mp htail).1 y hy p q hpath hq).symm
  rw [environmentLayer_perm hsep hlast, environmentLayer_eq, List.foldl_append, List.foldl_cons,
    List.foldl_nil, setVariable_of_path hpath, at?_merge_nested, ← environmentLayer_eq,
    (leaves_environmentLayer hothers fun heq => variablePath?_ne_nil x.1 (heq ▸ hpath)).1]
  rfl

theorem sorted_environmentLayer (environment : List (String × String)) :
    (environmentLayer environment).Sorted := by
  have hfold : ∀ z : Value, z.Sorted → (environment.foldl setVariable z).Sorted := by
    induction environment with
    | nil => exact fun z hz => hz
    | cons x xs ih =>
      intro z hz
      apply ih
      unfold setVariable
      split
      · exact hz.merge (sorted_nested _ (sorted_variableValue x.2))
      · exact hz
  exact hfold _ (sorted_empty _)

theorem exists_entries_environmentLayer (environment : List (String × String)) :
    ∃ es, environmentLayer environment = .table .environment es := by
  rw [environmentLayer_eq]
  refine List.foldlRecOn (motive := fun v => ∃ es, v = Value.table .environment es) environment
    setVariable ⟨[], rfl⟩ ?_
  rintro _ ⟨es, rfl⟩ x -
  cases hpath : variablePath? x.1 with
  | none => exact ⟨es, setVariable_of_no_path hpath _⟩
  | some p =>
    cases p with
    | nil => exact absurd hpath (variablePath?_ne_nil x.1)
    | cons k ks => exact ⟨_, (setVariable_of_path hpath _).trans (merge_nested _ k ks _)⟩

end Environment

end BrokerGate.Config
