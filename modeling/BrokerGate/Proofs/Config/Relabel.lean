import BrokerGate.Config.Load
import BrokerGate.Proofs.Config.Redaction
import BrokerGate.Proofs.Except

/-! Where values were set. A layer that is read from elsewhere has other sources and is the same in
all else. Neither merging nor reading looks at sources: what is read is the same, and a misfit
differs in the source that it names. -/
namespace BrokerGate.Config
open Entries Value Yaml

namespace Value

mutual

/-- The same value, set elsewhere. -/
def relabel (f : Source → Source) : Value → Value
  | scalar o s => scalar (f o) s
  | list o items => list (f o) (relabelItems f items)
  | table o es => table (f o) (relabelEntries f es)

def relabelItems (f : Source → Source) : List Value → List Value
  | [] => []
  | v :: rest => relabel f v :: relabelItems f rest

def relabelEntries (f : Source → Source) : List (String × Value) → List (String × Value)
  | [] => []
  | (k, v) :: rest => (k, relabel f v) :: relabelEntries f rest

end

section Merge
variable (f : Source → Source)

theorem get?_relabelEntries (es : Entries) (k : String) :
    get? (relabelEntries f es) k = (get? es k).map (relabel f) := by
  induction es with
  | nil => rfl
  | cons e es ih =>
    obtain ⟨j, v⟩ := e
    rw [relabelEntries, get?_cons, get?_cons, ih]
    split_ifs <;> rfl

theorem put_relabelEntries (k : String) (v : Value) (es : Entries) :
    put k (v.relabel f) (relabelEntries f es) = relabelEntries f (put k v es) := by
  induction es with
  | nil => rfl
  | cons e es ih =>
    obtain ⟨j, w⟩ := e
    rw [relabelEntries, put, put, ih]
    split_ifs <;> rfl

mutual

theorem merge_relabel (lower upper : Value) :
    (lower.merge upper).relabel f = (lower.relabel f).merge (upper.relabel f) := by
  match upper with
  | scalar o s => rfl
  | list o items => rfl
  | table o es =>
    cases lower with
    | table o' les => exact congrArg (table (f o)) (mergeEntries_relabel les es)
    | _ => rfl

theorem mergeEntries_relabel (lower : Entries) (upper : List (String × Value)) :
    relabelEntries f (mergeEntries lower upper) =
      mergeEntries (relabelEntries f lower) (relabelEntries f upper) := by
  match upper with
  | [] => rfl
  | (k, v) :: rest =>
    rw [mergeEntries, mergeEntries_relabel, relabelEntries, mergeEntries, get?_relabelEntries,
      ← put_relabelEntries]
    cases get? lower k with
    | none => rfl
    | some old =>
      dsimp only [Option.map_some]
      rw [merge_relabel]

end

end Merge

@[simp] theorem found_relabel (f : Source → Source) (v : Value) :
    (v.relabel f).found = v.found := by cases v <;> rfl

end Value

def Misfit.relabel (f : Source → Source) (m : Misfit) : Misfit := { m with source := f m.source }

/-- A reader that does not look at where a value was set. -/
def Oblivious {α : Type} (read : Value → Read α) : Prop :=
  ∀ (f : Source → Source) (v : Value), read (v.relabel f) = (read v).mapError (.relabel f)

section Readers
variable {α β : Type} {read : Value → Read α} (f : Source → Source)

theorem misfit_relabel (v : Value) (m : Mismatch) :
    ((v.relabel f).misfit m : Read α) = (v.misfit m : Read α).mapError (.relabel f) := by
  cases v <;> rfl

theorem Oblivious.readKey (h : Oblivious read) (key : String) :
    Oblivious (Config.readKey key read) := by
  intro f v
  rw [readKey_eq, readKey_eq, h f v]
  cases read v <;> rfl

theorem Oblivious.readOption (h : Oblivious read) : Oblivious (Config.readOption read) := by
  intro f v
  have hsome : ((read (v.relabel f)).map some : Read (Option α)) =
      ((read v).map some).mapError (.relabel f) := by rw [h f v, mapError_map]
  cases v with
  | scalar o s =>
    cases s with
    | unit => rfl
    | _ => exact hsome
  | _ => exact hsome

theorem oblivious_readString : Oblivious readString := by
  intro f v
  cases v with
  | scalar o s => cases s <;> rfl
  | _ => rfl

theorem oblivious_readNumber (name : String) (bound : Nat) : Oblivious (readNumber name bound) := by
  intro f v
  cases v with
  | scalar o s =>
    cases s with
    | unsigned n =>
      simp only [Value.relabel, readNumber]
      split_ifs <;> rfl
    | signed n =>
      simp only [Value.relabel, readNumber]
      split_ifs <;> rfl
    | _ => rfl
  | _ => rfl

theorem formatNamed_relabel (v : Value) (name : String) :
    formatNamed (v.relabel f) name = (formatNamed v name).mapError (.relabel f) := by
  unfold formatNamed
  split
  · rfl
  · rfl
  · exact misfit_relabel f v _

theorem oblivious_readUnit : Oblivious readUnit := by
  intro f v
  cases v with
  | scalar o s => cases s <;> rfl
  | _ => rfl

theorem oblivious_readFormat : Oblivious readFormat := by
  intro f v
  cases v with
  | scalar o s =>
    cases s with
    | text s => exact formatNamed_relabel f _ s
    | _ => rfl
  | list o items => rfl
  | table o es =>
    cases es with
    | nil => rfl
    | cons e es =>
      obtain ⟨k, w⟩ := e
      have hnamed := formatNamed_relabel f (.table o ((k, w) :: es)) k
      have hunit := oblivious_readUnit.readKey k f w
      simp only [Value.relabel, relabelEntries, readFormat] at hnamed ⊢
      rw [hnamed]
      cases formatNamed (.table o ((k, w) :: es)) k with
      | error m => rfl
      | ok a =>
        simp only [Except.mapError]
        rw [hunit]
        exact (mapError_map _ _ _).symm

/-- A fold whose step does not look at sources does not either. -/
theorem foldlM_relabel {ε σ : Type} {step : σ → String × Value → Except ε σ} {g : ε → ε}
    (hstep : ∀ a k v, step a (k, v.relabel f) = (step a (k, v)).mapError g) (es : Entries) (a : σ) :
    (relabelEntries f es).foldlM step a = (es.foldlM step a).mapError g := by
  induction es generalizing a with
  | nil => rfl
  | cons e es ih =>
    obtain ⟨k, v⟩ := e
    rw [relabelEntries, List.foldlM_cons, List.foldlM_cons, hstep]
    cases step a (k, v) with
    | error m => rfl
    | ok b => exact ih b

theorem oblivious_readLog : Oblivious readLog := by
  intro f v
  cases v with
  | scalar o s => rfl
  | table o es =>
    refine foldlM_relabel f (fun l k v => ?_) es _
    unfold readLogEntry
    dsimp only
    split
    · rw [oblivious_readString.readKey _ f v, mapError_map]
    · rw [oblivious_readFormat.readKey _ f v, mapError_map]
    · rfl
  | list o items =>
    match items with
    | [] => rfl
    | [a] =>
      simp only [Value.relabel, relabelItems, readLog]
      rw [oblivious_readString.readKey "0" f a]
      cases Config.readKey "0" readString a <;> rfl
    | a :: b :: rest =>
      simp only [Value.relabel, relabelItems, readLog]
      rw [oblivious_readString.readKey "0" f a, oblivious_readFormat.readKey "1" f b]
      cases Config.readKey "0" readString a with
      | error m => rfl
      | ok level => cases Config.readKey "1" readFormat b <;> rfl

end Readers

section Token
variable (f : Source → Source)

theorem kindNamed_relabel (v : Value) (name : String) :
    kindNamed (v.relabel f) name = (kindNamed v name).mapError (.relabel f) := by
  unfold kindNamed
  split
  · rfl
  · rfl
  · rfl
  · exact misfit_relabel f v _

theorem oblivious_readTokenKind (byIndex : Bool) : Oblivious (readTokenKind byIndex) := by
  intro f v
  cases v with
  | scalar o s =>
    cases s with
    | text s => exact kindNamed_relabel f _ s
    | char c => exact kindNamed_relabel f _ (String.singleton c)
    | unsigned n =>
      cases byIndex with
      | false => rfl
      | true =>
        simp only [Value.relabel, readTokenKind, if_true]
        cases TokenKind.ofIndex? n <;> rfl
    | _ => rfl
  | _ => rfl

mutual

theorem narrow_relabel (v : Value) : narrow (v.relabel f) = (narrow v).mapError (.relabel f) := by
  match v with
  | .scalar o s => cases s <;> rfl
  | .list o items => exact narrowItems_relabel 0 items
  | .table o es => exact narrowEntries_relabel es

theorem narrowItems_relabel (i : Nat) (items : List Value) :
    narrowItems i (relabelItems f items) = (narrowItems i items).mapError (.relabel f) := by
  match items with
  | [] => rfl
  | v :: rest =>
    rw [relabelItems, narrowItems, narrowItems, narrow_relabel v]
    cases narrow v with
    | error m => rfl
    | ok u => exact narrowItems_relabel (i + 1) rest

theorem narrowEntries_relabel (es : List (String × Value)) :
    narrowEntries (relabelEntries f es) = (narrowEntries es).mapError (.relabel f) := by
  match es with
  | [] => rfl
  | (k, v) :: rest =>
    rw [relabelEntries, narrowEntries, narrowEntries, narrow_relabel v]
    cases narrow v with
    | error m => rfl
    | ok u => exact narrowEntries_relabel rest

end

/-! What is held back until the kind is known is reported without a source. -/

theorem heldString_relabel (v : Value) : heldString (v.relabel f) = heldString v := by
  cases v with
  | scalar o s => cases s <;> rfl
  | _ => rfl

theorem heldStrings_relabel (v : Value) : heldStrings (v.relabel f) = heldStrings v := by
  cases v with
  | list o items =>
    change (relabelItems f items).mapM heldString = items.mapM heldString
    induction items with
    | nil => rfl
    | cons v items ih => rw [relabelItems, List.mapM_cons, List.mapM_cons, heldString_relabel, ih]
  | _ => rfl

theorem heldOption_relabel (v : Value) : heldOption (v.relabel f) = heldOption v := by
  cases v with
  | scalar o s => cases s <;> rfl
  | _ => rfl

theorem heldField_relabel (kind : TokenKind) (c : TokenFields) (k : String) (v : Value) :
    heldField kind c (k, v.relabel f) = heldField kind c (k, v) := by
  unfold heldField
  dsimp only
  rw [heldString_relabel, heldStrings_relabel, heldOption_relabel]

theorem fromEntries_relabel (kind : TokenKind) (es : Entries) :
    fromEntries kind (relabelEntries f es) = fromEntries kind es := by
  have hfold : (relabelEntries f es).foldlM (heldField kind) {} =
      (es.foldlM (heldField kind) {}).mapError id := by
    refine foldlM_relabel f (fun c k v => ?_) es _
    rw [heldField_relabel]
    cases heldField kind c (k, v) <;> rfl
  rw [fromEntries, fromEntries, hfold]
  cases es.foldlM (heldField kind) {} <;> rfl

theorem length_relabelItems (items : List Value) :
    (relabelItems f items).length = items.length := by
  induction items with
  | nil => rfl
  | cons v items ih => exact congrArg (· + 1) ih

theorem fromItems_relabel (kind : TokenKind) (items : List Value) :
    fromItems kind (relabelItems f items) = fromItems kind items := by
  have hempty : ∀ items, (relabelItems f items).isEmpty = items.isEmpty := fun items => by
    cases items <;> rfl
  cases items with
  | nil => rfl
  | cons v rest =>
    cases kind with
    | fixed =>
      simp only [relabelItems, fromItems, heldString_relabel, hempty, List.length_cons,
        length_relabelItems]
    | metadata =>
      simp only [relabelItems, fromItems, heldOption_relabel, hempty, List.length_cons,
        length_relabelItems]
    | command =>
      simp only [relabelItems, fromItems, heldString_relabel, List.length_cons,
        length_relabelItems]
      cases rest with
      | nil => rfl
      | cons w rest => simp only [relabelItems, heldStrings_relabel]

theorem oblivious_readToken (byIndex : Bool) : Oblivious (readToken byIndex) := by
  intro f v
  cases v with
  | scalar o s => rfl
  | table o es =>
    have hentries : (relabelEntries f es).foldlM (tokenEntry byIndex) none =
        (es.foldlM (tokenEntry byIndex) none).mapError (.relabel f) := by
      refine foldlM_relabel f (fun held k v => ?_) es _
      unfold tokenEntry
      dsimp only
      split_ifs
      · rw [(oblivious_readTokenKind byIndex).readKey k f v, mapError_map]
      · rw [Oblivious.readKey (narrow_relabel ·) k f v, mapError_map]
    rw [Value.relabel, readToken_table, readToken_table, hentries, mapError_bind]
    congr 1
    funext held
    cases held with
    | none => rfl
    | some kind =>
      dsimp only
      rw [fromEntries_relabel]
      cases fromEntries kind es <;> rfl
  | list o items =>
    cases items with
    | nil => rfl
    | cons first rest =>
      simp only [Value.relabel, relabelItems, readToken]
      rw [(oblivious_readTokenKind byIndex).readKey "0" f first, narrowItems_relabel]
      cases Config.readKey "0" (readTokenKind byIndex) first with
      | error m => rfl
      | ok kind =>
        cases narrowItems 1 rest with
        | error m => rfl
        | ok u =>
          simp only [Except.mapError, bind, Except.bind, fromItems_relabel]
          cases fromItems kind rest <;> rfl

end Token

section Settings

theorem readEntry_relabel (f : Source → Source) (s : Settings) (k : String) (v : Value) :
    readEntry s (k, v.relabel f) = (readEntry s (k, v)).mapError (.relabel f) := by
  unfold readEntry
  dsimp only
  split
  · rw [(oblivious_readNumber _ _).readKey _ f v, mapError_map]
  · rw [oblivious_readString.readKey _ f v, mapError_map]
  · rw [oblivious_readString.readOption.readKey _ f v, mapError_map]
  · rw [oblivious_readString.readOption.readKey _ f v, mapError_map]
  · rw [(oblivious_readNumber _ _).readOption.readKey _ f v, mapError_map]
  · rw [(oblivious_readToken true).readOption.readKey _ f v, mapError_map]
  · rw [oblivious_readLog.readKey _ f v, mapError_map]
  · rfl

theorem oblivious_ofValue : Oblivious Settings.ofValue := by
  intro f v
  cases v with
  | table o es => exact foldlM_relabel f (readEntry_relabel f) es _
  | _ => rfl

end Settings

section Document
variable (f : Source → Source) (source : Source)

theorem wrapLocal_relabel (tag : Option (List Char)) (v : Value) :
    wrapLocal (f source) tag (v.relabel f) = (wrapLocal source tag v).relabel f := by
  unfold wrapLocal
  cases localTag? tag <;> rfl

mutual

/-- What a node holds does not depend on where the document comes from. -/
theorem valueOf_relabel (depth jumps : Nat) (n : Node) :
    valueOf (f source) depth jumps n =
      (valueOf source depth jumps n).map fun p => (p.1.relabel f, p.2) := by
  match n with
  | .scalar tag text plain =>
    rw [valueOf.eq_def, valueOf.eq_def source]
    simp only [Option.map_map]
    congr 1
    funext s
    exact congrArg (·, jumps) (wrapLocal_relabel f source tag (.scalar source s))
  | .sequence tag items =>
    rw [valueOf.eq_def, valueOf.eq_def source]
    cases depth with
    | zero => rfl
    | succ depth =>
      simp only [itemsOf_relabel depth jumps items, Option.map_map]
      congr 1
      funext p
      exact congrArg (·, p.2) (wrapLocal_relabel f source tag (.list source p.1))
  | .mapping tag entries =>
    rw [valueOf.eq_def, valueOf.eq_def source]
    cases depth with
    | zero => rfl
    | succ depth =>
      have hentries := entriesOf_relabel depth jumps [] entries
      rw [relabelEntries] at hentries
      simp only [hentries, Option.map_map]
      congr 1
      funext p
      exact congrArg (·, p.2) (wrapLocal_relabel f source tag (.table source p.1))
  | .alias target =>
    rw [valueOf.eq_def, valueOf.eq_def source]
    cases jumps with
    | zero => rfl
    | succ jumps => exact valueOf_relabel depth jumps target

theorem itemsOf_relabel (depth jumps : Nat) (items : List Node) :
    itemsOf (f source) depth jumps items =
      (itemsOf source depth jumps items).map fun p => (relabelItems f p.1, p.2) := by
  match items with
  | [] => rfl
  | n :: rest =>
    rw [itemsOf, itemsOf, valueOf_relabel depth jumps n]
    cases valueOf source depth jumps n with
    | none => rfl
    | some p =>
      obtain ⟨v, jumps'⟩ := p
      simp only [Option.map_some, itemsOf_relabel depth jumps' rest, Option.map_map]
      rfl

theorem entriesOf_relabel (depth jumps : Nat) (acc : Entries) (entries : List (Node × Node)) :
    entriesOf (f source) depth jumps (relabelEntries f acc) entries =
      (entriesOf source depth jumps acc entries).map fun p => (relabelEntries f p.1, p.2) := by
  match entries with
  | [] => rfl
  | (k, n) :: rest =>
    rw [entriesOf, entriesOf, valueOf_relabel depth jumps n]
    cases scalarKey? k with
    | none => rfl
    | some key =>
      cases valueOf source depth jumps n with
      | none => rfl
      | some p =>
        obtain ⟨v, jumps'⟩ := p
        simp only [Option.map_some]
        rw [put_relabelEntries]
        exact entriesOf_relabel depth jumps' (put key v acc) rest

end

theorem documentLayer?_relabel (text : String) :
    documentLayer? (f source) text = (documentLayer? source text).map (Value.relabel f) := by
  unfold documentLayer?
  split
  · rfl
  · rfl
  · next root events _ =>
    split
    · rfl
    · next _ entries _ =>
      have hentries :=
        entriesOf_relabel f source (depthLimit - 1) (jumpsPerEvent * events) [] entries
      rw [relabelEntries] at hentries
      rw [hentries, Option.map_map, Option.map_map]
      rfl
    · rfl

end Document

end BrokerGate.Config
