import BrokerGate.Proofs.Config.Document
import BrokerGate.Proofs.Config.Variable

/-! Layers that differ in one scalar only, as those of documents and of variables do where one scalar
is written differently. Other layers may be put under them or over them, and they still differ in
that scalar at most. -/
namespace BrokerGate.Config
open Yaml Entries Value

/-- Two values that differ at most in the scalar at a path. -/
inductive DifferAt : List String → Value → Value → Prop
  | same (p : List String) (v : Value) : DifferAt p v v
  | scalar (o : Source) (s s' : Scalar) : DifferAt [] (.scalar o s) (.scalar o s')
  | table (o : Source) {k : String} {ks : List String} {es fs : Entries} {u v : Value}
    (hothers : ∀ j, j ≠ k → get? es j = get? fs j) (hu : get? es k = some u)
    (hv : get? fs k = some v) (h : DifferAt ks u v) : DifferAt (k :: ks) (.table o es) (.table o fs)

namespace DifferAt
variable {p : List String} {u v w : Value}

theorem symm (h : DifferAt p u v) : DifferAt p v u := by
  induction h with
  | same p v => exact .same p v
  | scalar o s s' => exact .scalar o s' s
  | table o hothers hu hv _ ih => exact .table o (fun j hj => (hothers j hj).symm) hv hu ih

theorem overlay {old : Option Value} (h : DifferAt p u v)
    (hmerge : ∀ w : Value, DifferAt p (w.merge u) (w.merge v)) :
    DifferAt p (overlay old u) (overlay old v) := by
  cases old with
  | none => exact h
  | some w => exact hmerge w

/-- Over another layer. -/
theorem merge_right (h : DifferAt p u v) (hu : u.Sorted) (hv : v.Sorted) (w : Value) :
    DifferAt p (w.merge u) (w.merge v) := by
  induction h generalizing w with
  | same p v => exact .same p _
  | scalar o s s' => exact .scalar o s s'
  | @table o k ks es fs u v hothers hgetu hgetv h ih =>
    have hes : Ascending es := hu.ascending
    have hfs : Ascending fs := hv.ascending
    rw [merge_table w o hes, merge_table w o hfs]
    have hu' : get? (mergeEntries w.entries es) k = some (Value.overlay (get? w.entries k) u) := by
      rw [get?_mergeEntries hes, hgetu]
    have hv' : get? (mergeEntries w.entries fs) k = some (Value.overlay (get? w.entries k) v) := by
      rw [get?_mergeEntries hfs, hgetv]
    refine .table o (fun j hj => ?_) hu' hv' (h.overlay (ih (hu.of_get? hgetu) (hv.of_get? hgetv)))
    rw [get?_mergeEntries hes, get?_mergeEntries hfs, hothers j hj]

/-- Under another layer. -/
theorem merge_left (h : DifferAt p u v) (hw : w.Sorted) : DifferAt p (u.merge w) (v.merge w) := by
  induction h generalizing w with
  | same p v => exact .same p _
  | scalar o s s' =>
    -- a scalar leaves nothing of itself under anything
    cases w with
    | scalar o' s => exact .same _ _
    | list o' items => exact .same _ _
    | table o' gs => exact .same _ _
  | @table o k ks es fs u v hothers hgetu hgetv h ih =>
    cases hw with
    | scalar o' s => exact .same _ _
    | list o' items => exact .same _ _
    | @table o' gs hkeys hvalues =>
      rw [merge_table _ o' hkeys, merge_table _ o' hkeys]
      have hbeside : ∀ j, j ≠ k →
          get? (mergeEntries es gs) j = get? (mergeEntries fs gs) j := fun j hj => by
        rw [get?_mergeEntries hkeys, get?_mergeEntries hkeys, hothers j hj]
      cases hget : get? gs k with
      | none =>
        refine .table o' hbeside ?_ ?_ h
        · rw [entries_table, get?_mergeEntries hkeys, hget, hgetu]
        · rw [entries_table, get?_mergeEntries hkeys, hget, hgetv]
      | some x =>
        refine .table o' hbeside ?_ ?_ (ih (hvalues _ (mem_of_get? hget)))
        · rw [entries_table, get?_mergeEntries hkeys, hget, hgetu]
          rfl
        · rw [entries_table, get?_mergeEntries hkeys, hget, hgetv]
          rfl

theorem nested (h : DifferAt [] u v) (p : List String) :
    DifferAt p (nested p u) (Config.nested p v) := by
  induction p with
  | nil => exact h
  | cons k ks ih =>
    have hget : ∀ w : Value, get? [(k, w)] k = some w := fun w => by simp [get?]
    refine .table .environment (fun j hj => ?_) (hget _) (hget _) ih
    simp [get?, Ne.symm hj]

theorem trans (h : DifferAt p u v) (h' : DifferAt p v w) : DifferAt p u w := by
  induction h generalizing w with
  | same p v => exact h'
  | scalar o s s' =>
    cases h' with
    | same => exact .scalar o s s'
    | scalar _ _ s'' => exact .scalar o s s''
  | @table o k ks es fs u v hothers hgetu hgetv h ih =>
    cases h' with
    | same => exact .table o hothers hgetu hgetv h
    | @table _ _ _ _ gs v' w hothers' hgetv' hgetw h' =>
      rw [hgetv] at hgetv'
      cases hgetv'
      exact .table o (fun j hj => (hothers j hj).trans (hothers' j hj)) hgetu hgetw (ih h')

/-- In tables whose keys are sorted the two entries stand in the same place. -/
theorem split {k : String} {ks : List String} (h : DifferAt (k :: ks) u v) (hu : u.Sorted)
    (hv : v.Sorted) : u = v ∨ ∃ o front back a b, DifferAt ks a b ∧ a.Sorted ∧ b.Sorted ∧
      u.at? (k :: ks) = a.at? ks ∧ v.at? (k :: ks) = b.at? ks ∧
      u = .table o (front ++ (k, a) :: back) ∧ v = .table o (front ++ (k, b) :: back) := by
  cases h with
  | same => exact .inl rfl
  | @table o _ _ es fs a b hothers hgeta hgetb h =>
    obtain ⟨front, back, hput⟩ := exists_put_eq k es
    have hes : es = put k a es := by
      refine ext hu.ascending (ascending_put hu.ascending) fun j => ?_
      by_cases hj : j = k
      · rw [hj, hgeta, get?_put_self]
      · rw [get?_put_other _ _ hj]
    have hfs : fs = put k b es := by
      refine ext hv.ascending (ascending_put hu.ascending) fun j => ?_
      by_cases hj : j = k
      · rw [hj, hgetb, get?_put_self]
      · rw [get?_put_other _ _ hj, hothers j hj]
    refine .inr ⟨o, front, back, a, b, h, hu.of_get? hgeta, hv.of_get? hgetb, ?_, ?_, ?_, ?_⟩
    · rw [at?_table_cons, hgeta, Option.bind_some]
    · rw [at?_table_cons, hgetb, Option.bind_some]
    · rw [← hput, ← hes]
    · rw [← hput, ← hfs]

end DifferAt

/-- Variables of which one is set to another scalar. -/
theorem differAt_environmentLayer {p : List String} {name text text' : String} {s s' : Scalar}
    (front back : List (String × String)) (hpath : variablePath? name = some p)
    (htext : variableValue text = scalarOf s) (htext' : variableValue text' = scalarOf s') :
    DifferAt p (environmentLayer (front ++ (name, text) :: back))
      (environmentLayer (front ++ (name, text') :: back)) := by
  have hback : ∀ u v, DifferAt p u v →
      DifferAt p (back.foldl setVariable u) (back.foldl setVariable v) := by
    induction back with
    | nil => exact fun u v h => h
    | cons x back ih =>
      intro u v h
      apply ih
      cases hx : variablePath? x.1 with
      | none => rwa [setVariable_of_no_path hx, setVariable_of_no_path hx]
      | some q =>
        rw [setVariable_of_path hx, setVariable_of_path hx]
        exact h.merge_left (sorted_nested q (sorted_variableValue x.2))
  have hset : ∀ (z : Value) (t : String),
      setVariable z (name, t) = z.merge (nested p (variableValue t)) := by
    intro z t
    simp only [setVariable, hpath]
  rw [environmentLayer_eq, environmentLayer_eq, List.foldl_append, List.foldl_append,
    List.foldl_cons, List.foldl_cons, hset, hset, htext, htext']
  apply hback
  have hscalar : DifferAt [] (scalarOf s) (scalarOf s') := .scalar .environment s s'
  exact (hscalar.nested p).merge_right (sorted_nested p (.scalar _ _))
    (sorted_nested p (.scalar _ _)) _

section Document
variable {source o : Source} {depth jumps left left' : Nat} {k : String} {ks p : List String}
  {es fs : Entries} {v v' : Value}

theorem DifferAt.put (h : DifferAt (k :: ks) (.table o es) (.table o fs)) (j : String)
    (w : Value) : DifferAt (k :: ks) (.table o (put j w es)) (.table o (put j w fs)) := by
  cases h with
  | same => exact .same _ _
  | @table _ _ _ _ _ u v hothers hu hv h =>
    have hbeside : ∀ i, i ≠ k → get? (Entries.put j w es) i = get? (Entries.put j w fs) i := by
      intro i hi
      by_cases hij : i = j
      · rw [hij, get?_put_self, get?_put_self]
      · rw [get?_put_other _ _ hij, get?_put_other _ _ hij, hothers i hi]
    by_cases hjk : k = j
    · subst hjk
      exact .table o hbeside (get?_put_self _ _ _) (get?_put_self _ _ _) (.same _ w)
    · refine .table o hbeside ?_ ?_ h
      · rw [get?_put_other _ _ hjk, hu]
      · rw [get?_put_other _ _ hjk, hv]

theorem differAt_put_self (o : Source) (k : String) (es : Entries) (h : DifferAt ks v v') :
    DifferAt (k :: ks) (.table o (put k v es)) (.table o (put k v' es)) := by
  refine .table o (fun j hj => ?_) (get?_put_self _ _ _) (get?_put_self _ _ _) h
  rw [get?_put_other _ _ hj, get?_put_other _ _ hj]

/-- Two nodes that differ at most in the scalar at a path. -/
inductive NodesDifferAt : List String → Node → Node → Prop
  | same (p : List String) (n : Node) : NodesDifferAt p n n
  | scalar {tag tag' : Option (List Char)} (text text' : List Char) (plain plain' : Bool)
    (htag : localTag? tag = none) (htag' : localTag? tag' = none) :
    NodesDifferAt [] (.scalar tag text plain) (.scalar tag' text' plain')
  | mapping {tag : Option (List Char)} {k : String} {ks : List String} {key n n' : Node}
    (front back : List (Node × Node)) (htag : localTag? tag = none)
    (hkey : scalarKey? key = some k) (h : NodesDifferAt ks n n') :
    NodesDifferAt (k :: ks) (.mapping tag (front ++ (key, n) :: back))
      (.mapping tag (front ++ (key, n') :: back))

theorem wrapLocal_of_none {tag : Option (List Char)} (h : localTag? tag = none) (v : Value) :
    wrapLocal source tag v = v := by
  rw [wrapLocal, h]

theorem entriesOf_append (front back : List (Node × Node)) :
    entriesOf source depth jumps es (front ++ back) =
      (entriesOf source depth jumps es front).bind fun r =>
        entriesOf source depth r.2 r.1 back := by
  induction front generalizing jumps es with
  | nil => rw [List.nil_append, entriesOf, Option.bind_some]
  | cons e front ih =>
    obtain ⟨key, n⟩ := e
    rw [List.cons_append, entriesOf, entriesOf]
    split
    · exact ih
    · rfl

/-- What follows in a document is added to both. -/
theorem differAt_entriesOf {es' fs' : Entries} (back : List (Node × Node))
    (h : DifferAt (k :: ks) (.table source es) (.table source fs))
    (hes : entriesOf source depth jumps es back = some (es', left))
    (hfs : entriesOf source depth jumps fs back = some (fs', left')) :
    left = left' ∧ DifferAt (k :: ks) (.table source es') (.table source fs') := by
  induction back generalizing jumps es fs with
  | nil =>
    rw [entriesOf] at hes hfs
    cases hes
    cases hfs
    exact ⟨rfl, h⟩
  | cons e back ih =>
    obtain ⟨key, n⟩ := e
    rw [entriesOf] at hes hfs
    cases hkey : scalarKey? key with
    | none =>
      rw [hkey] at hes
      cases hes
    | some j =>
      cases hvalue : valueOf source depth jumps n with
      | none =>
        rw [hkey, hvalue] at hes
        cases hes
      | some r =>
        simp only [hkey, hvalue] at hes hfs
        exact ih (h.put j r.1) hes hfs

theorem differAt_valueOf {n n' : Node} (h : NodesDifferAt p n n')
    (hv : valueOf source depth jumps n = some (v, left))
    (hv' : valueOf source depth jumps n' = some (v', left')) : left = left' ∧ DifferAt p v v' := by
  induction h generalizing depth jumps left left' v v' with
  | same p n =>
    rw [hv] at hv'
    cases hv'
    exact ⟨rfl, .same p v⟩
  | scalar text text' plain plain' htag htag' =>
    rw [valueOf.eq_def] at hv hv'
    obtain ⟨s, -, hs⟩ := Option.map_eq_some_iff.mp hv
    obtain ⟨s', -, hs'⟩ := Option.map_eq_some_iff.mp hv'
    rw [wrapLocal_of_none htag] at hs
    rw [wrapLocal_of_none htag'] at hs'
    cases hs
    cases hs'
    exact ⟨rfl, .scalar source s s'⟩
  | @mapping tag k ks key n n' front back htag hkey h ih =>
    cases depth with
    | zero =>
      rw [valueOf] at hv
      cases hv
    | succ depth =>
      rw [valueOf, Option.map_eq_some_iff] at hv hv'
      obtain ⟨r, hr, heq⟩ := hv
      obtain ⟨r', hr', heq'⟩ := hv'
      rw [wrapLocal_of_none htag] at heq heq'
      cases heq
      cases heq'
      -- both have the same in front of the key; behind it they go on from two tables
      rw [entriesOf_append] at hr hr'
      obtain ⟨f, hfront, hr⟩ := Option.bind_eq_some_iff.mp hr
      obtain ⟨f', hfront', hr'⟩ := Option.bind_eq_some_iff.mp hr'
      rw [hfront] at hfront'
      cases hfront'
      rw [entriesOf] at hr hr'
      cases hx : valueOf source depth f.2 n with
      | none =>
        rw [hkey, hx] at hr
        cases hr
      | some x =>
        cases hx' : valueOf source depth f.2 n' with
        | none =>
          rw [hkey, hx'] at hr'
          cases hr'
        | some x' =>
          simp only [hkey, hx] at hr
          simp only [hkey, hx'] at hr'
          obtain ⟨hjumps, hdiffer⟩ := ih hx hx'
          rw [← hjumps] at hr'
          exact differAt_entriesOf back (differAt_put_self source k f.1 hdiffer) hr hr'

/-- The root of a document is read as any mapping, but for its tag. -/
theorem valueOf_of_documentLayer? {text : String} {tag : Option (List Char)}
    {entries : List (Node × Node)} {events : Nat} (htag : localTag? tag = none)
    (htext : Node.ofText? text.toList = some (some (.mapping tag entries, events)))
    (hv : documentLayer? source text = some v) : ∃ left,
      valueOf source depthLimit (jumpsPerEvent * events) (.mapping tag entries) =
        some (v, left) := by
  unfold documentLayer? at hv
  rw [htext] at hv
  obtain ⟨r, hr, heq⟩ := Option.map_eq_some_iff.mp hv
  refine ⟨r.2, ?_⟩
  rw [show depthLimit = depthLimit - 1 + 1 from rfl, valueOf, hr, Option.map_some,
    wrapLocal_of_none htag, heq]

/-- The layers of documents that differ at most in one scalar. -/
theorem differAt_documentLayer? {text text' : String} {n n' : Node} {events : Nat}
    (htext : Node.ofText? text.toList = some (some (n, events)))
    (htext' : Node.ofText? text'.toList = some (some (n', events)))
    (h : NodesDifferAt (k :: ks) n n') (hv : documentLayer? source text = some v)
    (hv' : documentLayer? source text' = some v') : DifferAt (k :: ks) v v' := by
  cases h with
  | same =>
    have hsame : documentLayer? source text = documentLayer? source text' := by
      rw [documentLayer?, documentLayer?, htext, htext']
    rw [hsame, hv'] at hv
    cases hv
    exact .same _ v
  | mapping front back htag hkey h =>
    obtain ⟨left, hvalue⟩ := valueOf_of_documentLayer? htag htext hv
    obtain ⟨left', hvalue'⟩ := valueOf_of_documentLayer? htag htext' hv'
    exact (differAt_valueOf (.mapping front back htag hkey h) hvalue hvalue').2

end Document

end BrokerGate.Config
