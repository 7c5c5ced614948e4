import BrokerGate.Proofs.Config.Redaction
import BrokerGate.Proofs.Except

/-! The settings that are texts. What is read of one of them is the text at its path, and with
another text there all other settings are read as before. -/
namespace BrokerGate.Config
open Entries Value

/-- The texts of token sources, each of which belongs to a kind of them. -/
inductive TokenText
  | token
  | program
  | url
  deriving DecidableEq

namespace TokenText

def name : TokenText → String
  | token => "token"
  | program => "command"
  | url => "url"

def kind : TokenText → TokenKind
  | token => .fixed
  | program => .command
  | url => .metadata

def get : TokenText → TokenSettings → Option String
  | token, .fixed t => some t
  | program, .command p _ => some p
  | url, .metadata u => u
  | _, _ => none

def put (t : String) : TokenText → TokenSettings → TokenSettings
  | token, .fixed _ => .fixed t
  | program, .command _ args => .command t args
  | url, .metadata _ => .metadata (some t)
  | _, source => source

/-- The text among the fields that are read before a source is made of them. -/
def held : TokenText → TokenFields → Option String
  | token, f => f.token
  | program, f => f.program
  | url, f => f.url

def hold (t : String) : TokenText → TokenFields → TokenFields
  | token, f => { f with token := some t }
  | program, f => { f with program := some t }
  | url, f => { f with url := some t }

end TokenText

section Source
variable {k : TokenText} {kind : TokenKind} {c d : TokenFields} {source : TokenSettings}
  {e : String × Value} {w : Value} {t x : String} {o : Source}

theorem TokenText.get_put (h : (k.get source).isSome = true) (t : String) :
    k.get (k.put t source) = some t := by
  cases k <;> cases source <;> first | rfl | cases h

theorem kind_of_finishToken (h : finishToken kind c = .ok source) (hget : k.get source = some x) :
    kind = k.kind ∧ k.held c = some x := by
  obtain ⟨token, program, args, url⟩ := c
  cases kind with
  | fixed =>
    cases token with
    | none => cases h
    | some t =>
      cases h
      cases k <;> cases hget
      exact ⟨rfl, rfl⟩
  | command =>
    cases program with
    | none => cases h
    | some p =>
      cases h
      cases k <;> cases hget
      exact ⟨rfl, rfl⟩
  | metadata =>
    cases h
    cases k with
    | url => exact ⟨rfl, hget⟩
    | _ => cases hget

theorem finishToken_hold (h : finishToken k.kind c = .ok source) (t : String) :
    finishToken k.kind (k.hold t c) = .ok (k.put t source) := by
  obtain ⟨token, program, args, url⟩ := c
  cases k with
  | token =>
    cases token with
    | none => cases h
    | some _ => cases h; rfl
  | program =>
    cases program with
    | none => cases h
    | some _ => cases h; rfl
  | url => cases h; rfl

/-- Fields of other names are read as before. -/
theorem heldField_hold (he : e.1 ≠ k.name) (kind : TokenKind) (t : String) (c : TokenFields) :
    heldField kind (k.hold t c) e = (heldField kind c e).map (k.hold t) := by
  obtain ⟨key, v⟩ := e
  unfold heldField
  cases k <;> split <;> first
    | contradiction
    | exact map_eq_map_map fun _ => rfl
    | rfl

theorem held_heldField (he : e.1 ≠ k.name) (h : heldField kind c e = .ok d) :
    k.held d = k.held c := by
  obtain ⟨key, v⟩ := e
  unfold heldField at h
  cases k <;> split at h <;> first
    | contradiction
    | (obtain ⟨_, -, rfl⟩ := map_eq_ok h; rfl)
    | (cases h; rfl)

theorem heldField_name (k : TokenText) (o : Source) (t : String) (c : TokenFields) :
    heldField k.kind c (k.name, .scalar o (.text t)) = .ok (k.hold t c) := by
  cases k <;> rfl

theorem text_of_heldString (h : heldString w = .ok x) : ∃ o, w = .scalar o (.text x) := by
  unfold heldString at h
  split at h
  · cases h
    exact ⟨_, rfl⟩
  · cases h

/-- What is held was a text. -/
theorem text_of_heldField (h : heldField k.kind c (k.name, w) = .ok d) (hd : k.held d = some x) :
    ∃ o, w = .scalar o (.text x) := by
  cases k with
  | token =>
    obtain ⟨y, hy, rfl⟩ := map_eq_ok h
    cases hd
    exact text_of_heldString hy
  | program =>
    obtain ⟨y, hy, rfl⟩ := map_eq_ok h
    cases hd
    exact text_of_heldString hy
  | url =>
    obtain ⟨u, hu, rfl⟩ := map_eq_ok h
    cases hd
    cases w with
    | scalar o s =>
      cases s with
      | text y =>
        cases hu
        exact ⟨o, rfl⟩
      | _ => cases hu
    | _ => cases hu

theorem hold_heldField (h : heldField k.kind c (k.name, w) = .ok d) (t : String) :
    k.hold t d = k.hold t c := by
  cases k <;>
    (obtain ⟨_, -, rfl⟩ := map_eq_ok h; rfl)

theorem tokenEntry_name (byIndex : Bool) {held held' : Option TokenKind}
    (h : tokenEntry byIndex held (k.name, w) = .ok held') (o : Source) (t : String) :
    tokenEntry byIndex held (k.name, .scalar o (.text t)) = .ok held' := by
  have hname : k.name ≠ "type" := by cases k <;> decide
  rw [tokenEntry, if_neg hname] at h ⊢
  obtain ⟨_, -, rfl⟩ := map_eq_ok h
  rfl

section Read
variable {byIndex : Bool} {front back : Entries}

/-- A source is made of the fields of its kind. -/
theorem fields_of_readToken {es : Entries}
    (h : readToken byIndex (.table o es) = .ok source) : ∃ kind c,
      es.foldlM (tokenEntry byIndex) none = .ok (some kind) ∧
        es.foldlM (heldField kind) {} = .ok c ∧ finishToken kind c = .ok source := by
  rw [readToken_table] at h
  cases hkind : es.foldlM (tokenEntry byIndex) none with
  | error m =>
    rw [hkind] at h
    cases h
  | ok held =>
    rw [hkind] at h
    cases held with
    | none => cases h
    | some kind =>
      change (fromEntries kind es).mapError _ = .ok source at h
      rw [fromEntries] at h
      cases hc : es.foldlM (heldField kind) {} with
      | error m =>
        rw [hc] at h
        cases h
      | ok c =>
        rw [hc] at h
        change (finishToken kind c).mapError _ = .ok source at h
        cases hsource : finishToken kind c with
        | error m =>
          rw [hsource] at h
          cases h
        | ok source' =>
          rw [hsource] at h
          cases h
          exact ⟨kind, c, rfl, hc, hsource⟩

theorem readToken_of_fields {es : Entries}
    (hkind : es.foldlM (tokenEntry byIndex) none = .ok (some kind))
    (hc : es.foldlM (heldField kind) {} = .ok c) (hsource : finishToken kind c = .ok source) :
    readToken byIndex (.table o es) = .ok source := by
  rw [readToken_table, hkind]
  change (fromEntries kind es).mapError _ = .ok source
  rw [fromEntries, hc]
  change (finishToken kind c).mapError _ = .ok source
  rw [hsource]
  rfl

theorem readToken_get (hback : ∀ e ∈ back, e.1 ≠ k.name)
    (h : readToken byIndex (.table o (front ++ (k.name, w) :: back)) = .ok source)
    (hget : k.get source = some x) : ∃ o, w = .scalar o (.text x) := by
  obtain ⟨kind, c, -, hc, hsource⟩ := fields_of_readToken h
  obtain ⟨rfl, hheld⟩ := kind_of_finishToken hsource hget
  obtain ⟨b, d, -, hw, hrest⟩ := foldlM_append_cons hc
  have hkept := foldlM_kept (fun e he _ _ => held_heldField (hback e he)) hrest
  exact text_of_heldField hw (hkept.symm.trans hheld)

theorem readToken_put (hback : ∀ e ∈ back, e.1 ≠ k.name)
    (h : readToken byIndex (.table o (front ++ (k.name, w) :: back)) = .ok source)
    (hget : (k.get source).isSome = true) (o' : Source) (t : String) :
    readToken byIndex (.table o (front ++ (k.name, .scalar o' (.text t)) :: back)) =
      .ok (k.put t source) := by
  obtain ⟨x, hx⟩ := Option.isSome_iff_exists.mp hget
  obtain ⟨kind, c, hkind, hc, hsource⟩ := fields_of_readToken h
  obtain ⟨rfl, -⟩ := kind_of_finishToken hsource hx
  refine readToken_of_fields ?_ (foldlM_replace ?_ ?_ hc) (finishToken_hold hsource t)
  · -- the kind stands under another key
    refine foldlM_replace (g := id) (fun e _ held => ?_)
      (fun held held' hw _ => tokenEntry_name byIndex hw o' t) hkind
    change tokenEntry byIndex held e = _
    cases tokenEntry byIndex held e <;> rfl
  · exact fun e he c => heldField_hold (hback e he) k.kind t c
  · intro c d hd _
    rw [heldField_name, hold_heldField hd]

end Read

end Source

/-- Settings that are texts. -/
inductive TextKey
  | host
  | backendUrl
  | proxyUrl
  | logLevel
  | source (k : TokenText)
  deriving DecidableEq

namespace TextKey

/-- The key of the whole settings that leads to the text. -/
def key : TextKey → String
  | host => "host"
  | backendUrl => "backend_url"
  | proxyUrl => "proxy_url"
  | logLevel => "log"
  | source _ => "token_source"

/-- The keys below that one. -/
def below : TextKey → List String
  | logLevel => ["level"]
  | source k => [k.name]
  | _ => []

def path (k : TextKey) : List String := k.key :: k.below

/-- The text, if there is one. -/
def get : TextKey → Settings → Option String
  | host, s => some s.host
  | backendUrl, s => s.backendUrl
  | proxyUrl, s => s.proxyUrl
  | logLevel, s => some s.log.level
  | source k, s => s.tokenSource.bind k.get

/-- The settings with another text. -/
def put (t : String) : TextKey → Settings → Settings
  | host, s => { s with host := t }
  | backendUrl, s => { s with backendUrl := some t }
  | proxyUrl, s => { s with proxyUrl := some t }
  | logLevel, s => { s with log := { s.log with level := t } }
  | source k, s => { s with tokenSource := s.tokenSource.map (k.put t) }

end TextKey

section Settings
variable {k : TextKey} {s s' : Settings} {e : String × Value} {v w : Value} {t x : String}
  {o : Source} {front back : Entries}

theorem TextKey.get_put (h : (k.get s).isSome = true) (t : String) :
    k.get (k.put t s) = some t := by
  cases k with
  | source k =>
    obtain ⟨x, hx⟩ := Option.isSome_iff_exists.mp h
    obtain ⟨source, hsource, hget⟩ := Option.bind_eq_some_iff.mp hx
    have hput := k.get_put (by rw [hget]; rfl : (k.get source).isSome = true) t
    simp only [get, put, hsource, Option.map_some, Option.bind_some, hput]
  | _ => rfl

/-- Entries of other keys are read as before. -/
theorem readEntry_put (he : e.1 ≠ k.key) (t : String) (s : Settings) :
    readEntry (k.put t s) e = (readEntry s e).map (k.put t) := by
  obtain ⟨name, v⟩ := e
  unfold readEntry
  dsimp only
  cases k <;> split <;> first
    | contradiction
    | exact map_eq_map_map fun _ => rfl
    | rfl

theorem get_readEntry (he : e.1 ≠ k.key) (h : readEntry s e = .ok s') : k.get s' = k.get s := by
  obtain ⟨name, v⟩ := e
  unfold readEntry at h
  dsimp only at h
  cases k <;> split at h <;> first
    | contradiction
    | (obtain ⟨_, -, rfl⟩ := map_eq_ok h; rfl)
    | (cases h; rfl)

theorem eq_ok_of_readKey {α : Type} {name : String} {read : Value → Read α} {a : α}
    (h : readKey name read v = .ok a) : read v = .ok a := by
  unfold readKey at h
  split at h
  · next hread =>
    cases h
    exact hread
  · cases h

theorem scalar_of_readString (h : readString v = .ok x) :
    ∃ o, v = .scalar o (.text x) ∨ ∃ c, v = .scalar o (.char c) ∧ x = String.singleton c := by
  unfold readString at h
  split at h
  · cases h
    exact ⟨_, .inl rfl⟩
  · cases h
    exact ⟨_, .inr ⟨_, rfl, rfl⟩⟩
  · cases h

theorem scalar_of_readOption (h : readOption readString v = .ok (some x)) :
    ∃ o, v = .scalar o (.text x) ∨ ∃ c, v = .scalar o (.char c) ∧ x = String.singleton c := by
  unfold readOption at h
  split at h
  · cases h
  · obtain ⟨y, hy, heq⟩ := map_eq_ok h
    cases heq
    exact scalar_of_readString hy

/-- Keys of tables that are sorted stand in one place. -/
theorem ne_of_mem_back {key : String} (h : (table o (front ++ (key, v) :: back)).Sorted) :
    ∀ e ∈ back, e.1 ≠ key := by
  intro e he heq
  have hkeys := (List.pairwise_cons.mp (List.pairwise_append.mp h.ascending).2.1).1 e he
  exact String.lt_irrefl key (heq ▸ hkeys)

theorem exists_split {name : String} {names : List String} (hv : v.Sorted)
    (h : v.at? (name :: names) = some w) : ∃ o front back a,
      v = table o (front ++ (name, a) :: back) ∧ a.Sorted ∧ a.at? names = some w := by
  obtain ⟨a, hget, hat⟩ := Option.bind_eq_some_iff.mp h
  have hsorted := hv.of_get? hget
  cases hv with
  | @table o es hkeys hvalues =>
    obtain ⟨front, back, hput⟩ := exists_put_eq name es
    have hes : es = put name a es := by
      refine ext hkeys (ascending_put hkeys) fun j => ?_
      by_cases hj : j = name
      · rw [hj, get?_put_self]
        exact hget
      · rw [get?_put_other _ _ hj]
    exact ⟨o, front, back, a, by rw [← hput, ← hes], hsorted, hat⟩
  | _ => cases hget

/-- Where something stands at a path, values that differ there are tables with one entry in the same
place. -/
theorem DifferAt.exists_split {name : String} {names : List String} {u v : Value}
    (h : DifferAt (name :: names) u v) (hu : u.Sorted) (hv : v.Sorted)
    (hw : u.at? (name :: names) = some w) : ∃ o front back a b, DifferAt names a b ∧ a.Sorted ∧
      b.Sorted ∧ a.at? names = some w ∧ v.at? (name :: names) = b.at? names ∧
      u = .table o (front ++ (name, a) :: back) ∧ v = .table o (front ++ (name, b) :: back) := by
  rcases h.split hu hv with rfl | ⟨o, front, back, a, b, hab, ha, hb, hat, hat', rfl, rfl⟩
  · obtain ⟨o, front, back, a, rfl, ha, hat⟩ := Config.exists_split hu hw
    exact ⟨o, front, back, a, a, .same _ _, ha, ha, hat, hw.trans hat.symm, rfl, rfl⟩
  · exact ⟨o, front, back, a, b, hab, ha, hb, hat.symm.trans hw, hat', rfl, rfl⟩

section Log
variable {l l' : LogSettings}

theorem readLogEntry_level (he : e.1 ≠ "level") (t : String) (l : LogSettings) :
    readLogEntry { l with level := t } e =
      (readLogEntry l e).map fun l => { l with level := t } := by
  obtain ⟨name, v⟩ := e
  unfold readLogEntry
  split
  · contradiction
  · exact map_eq_map_map fun _ => rfl
  · rfl

theorem level_readLogEntry (he : e.1 ≠ "level") (h : readLogEntry l e = .ok l') :
    l'.level = l.level := by
  obtain ⟨name, v⟩ := e
  unfold readLogEntry at h
  split at h
  · contradiction
  · obtain ⟨_, -, rfl⟩ := map_eq_ok h
    rfl
  · cases h
    rfl

theorem readLog_get (hback : ∀ e ∈ back, e.1 ≠ "level")
    (h : readLog (.table o (front ++ ("level", w) :: back)) = .ok l) :
    ∃ o, w = .scalar o (.text l.level) ∨
      ∃ c, w = .scalar o (.char c) ∧ l.level = String.singleton c := by
  obtain ⟨b, d, -, hw, hrest⟩ := foldlM_append_cons h
  have hkept := foldlM_kept (fun e he _ _ => level_readLogEntry (hback e he)) hrest
  obtain ⟨y, hy, rfl⟩ := map_eq_ok hw
  rw [hkept]
  exact scalar_of_readString (eq_ok_of_readKey hy)

theorem readLog_put (hback : ∀ e ∈ back, e.1 ≠ "level")
    (h : readLog (.table o (front ++ ("level", w) :: back)) = .ok l) (o' : Source) (t : String) :
    readLog (.table o (front ++ ("level", .scalar o' (.text t)) :: back)) =
      .ok { l with level := t } := by
  refine foldlM_replace (fun e he l => readLogEntry_level (hback e he) t l) ?_ h
  intro c d hw _
  obtain ⟨y, -, rfl⟩ := map_eq_ok hw
  rfl

end Log

/-- What is read as a text at its key was one, or a character. -/
theorem scalar_of_readEntry (hv : v.Sorted) (hw : v.at? k.below = some w)
    (h : readEntry s (k.key, v) = .ok s') (hget : k.get s' = some x) :
    ∃ o, w = .scalar o (.text x) ∨ ∃ c, w = .scalar o (.char c) ∧ x = String.singleton c := by
  cases k with
  | host =>
    cases hw
    obtain ⟨y, hy, rfl⟩ := map_eq_ok h
    cases hget
    exact scalar_of_readString (eq_ok_of_readKey hy)
  | backendUrl =>
    cases hw
    obtain ⟨y, hy, rfl⟩ := map_eq_ok h
    cases hget
    exact scalar_of_readOption (eq_ok_of_readKey hy)
  | proxyUrl =>
    cases hw
    obtain ⟨y, hy, rfl⟩ := map_eq_ok h
    cases hget
    exact scalar_of_readOption (eq_ok_of_readKey hy)
  | logLevel =>
    obtain ⟨o, front, back, a, rfl, -, hat⟩ := exists_split hv hw
    cases hat
    obtain ⟨l, hl, rfl⟩ := map_eq_ok h
    cases hget
    exact readLog_get (ne_of_mem_back hv) (eq_ok_of_readKey hl)
  | source k =>
    obtain ⟨o, front, back, a, rfl, -, hat⟩ := exists_split hv hw
    cases hat
    obtain ⟨y, hy, rfl⟩ := map_eq_ok h
    have hread := eq_ok_of_readKey hy
    rw [readOption_of_table] at hread
    obtain ⟨source, hsource, rfl⟩ := map_eq_ok hread
    obtain ⟨o', hw'⟩ := readToken_get (ne_of_mem_back hv) hsource hget
    exact ⟨o', .inl hw'⟩

/-- Another text in the place of one that was read is what is read. -/
theorem readEntry_replace {v' : Value} (hdiffer : DifferAt k.below v v') (hv : v.Sorted)
    (hv' : v'.Sorted) (hw : v.at? k.below = some w)
    (hw' : v'.at? k.below = some (.scalar o (.text t))) (h : readEntry s (k.key, v) = .ok s')
    (hget : (k.get s').isSome = true) : readEntry s (k.key, v') = .ok (k.put t s') := by
  cases k with
  | logLevel =>
    obtain ⟨o', front, back, a, b, -, -, -, hat, hat', rfl, rfl⟩ := hdiffer.exists_split hv hv' hw
    cases hat'.symm.trans hw'
    obtain ⟨l, hl, rfl⟩ := map_eq_ok h
    have hread := readLog_put (ne_of_mem_back hv) (eq_ok_of_readKey hl) o t
    simp only [TextKey.key, readEntry, readKey, hread]
    rfl
  | source k =>
    obtain ⟨o', front, back, a, b, -, -, -, hat, hat', rfl, rfl⟩ := hdiffer.exists_split hv hv' hw
    cases hat'.symm.trans hw'
    obtain ⟨y, hy, rfl⟩ := map_eq_ok h
    have hread := eq_ok_of_readKey hy
    rw [readOption_of_table] at hread
    obtain ⟨source, hsource, rfl⟩ := map_eq_ok hread
    have hput := readToken_put (ne_of_mem_back hv) hsource hget o t
    simp only [TextKey.key, readEntry, readKey, readOption_of_table, hput]
    rfl
  | _ =>
    cases hw'
    obtain ⟨y, -, rfl⟩ := map_eq_ok h
    rfl

/-- The text of a setting that was read stands at its path. -/
theorem scalar_of_ofValue (hv : v.Sorted) (hw : v.at? k.path = some w)
    (h : Settings.ofValue v = .ok s) (hget : k.get s = some x) :
    ∃ o, w = .scalar o (.text x) ∨ ∃ c, w = .scalar o (.char c) ∧ x = String.singleton c := by
  obtain ⟨o, front, back, a, rfl, ha, hat⟩ := exists_split hv hw
  obtain ⟨b, d, -, hentry, hrest⟩ := foldlM_append_cons h
  have hkept := foldlM_kept (fun e he _ _ => get_readEntry (ne_of_mem_back hv e he)) hrest
  exact scalar_of_readEntry ha hat hentry (hkept.symm.trans hget)

/-- Another text at the path of a setting that was read changes that setting and no other. -/
theorem ofValue_replace {v' : Value} (hdiffer : DifferAt k.path v v') (hv : v.Sorted)
    (hv' : v'.Sorted) (hw : v.at? k.path = some w)
    (hw' : v'.at? k.path = some (.scalar o (.text t))) (h : Settings.ofValue v = .ok s)
    (hget : (k.get s).isSome = true) : Settings.ofValue v' = .ok (k.put t s) := by
  obtain ⟨o', front, back, a, b, hab, ha, hb, hat, hat', rfl, rfl⟩ :=
    hdiffer.exists_split hv hv' hw
  refine foldlM_replace (fun e he s => readEntry_put (ne_of_mem_back hv e he) t s) ?_ h
  intro c d hentry hrest
  have hkept := foldlM_kept (fun e he _ _ => get_readEntry (ne_of_mem_back hv e he)) hrest
  rw [hkept] at hget
  exact readEntry_replace hab ha hb hat (hat'.symm.trans hw') hentry hget

end Settings

end BrokerGate.Config
