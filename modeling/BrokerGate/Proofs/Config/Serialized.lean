import BrokerGate.Proofs.Config.Reading
import BrokerGate.Proofs.Config.Relabel
import BrokerGate.Proofs.Config.Variable
import BrokerGate.Proofs.Json.Read

/-! Settings written out and read back. Options that are not set are left out and are absent when
they are read; what is written of a token source is its normal form among all the documents that
stand for it. -/
namespace BrokerGate.Config
open Entries Value

section Entries
variable {es : List (String × Value)}

theorem get?_optional (key : String) (v : Option Value) (k : String) :
    get? (v.map fun w => (key, w)).toList k = if key = k then v else none := by
  cases v with
  | none => exact (ite_self none).symm
  | some w => exact get?_cons (key, w) [] k

theorem entriesToJson_eq (es : List (String × Value)) :
    entriesToJson es = es.map fun e => (e.1, e.2.toJson) := by
  induction es with
  | nil => rfl
  | cons e es ih => exact congrArg (_ :: ·) ih

theorem membersOfJson_eq (members : List (String × Json)) (acc : Entries) :
    membersOfJson acc members =
      (members.map fun m => (m.1, Value.ofJson m.2)).foldl (fun acc e => put e.1 e.2 acc) acc := by
  induction members generalizing acc with
  | nil => rfl
  | cons m members ih => exact ih _

theorem ofJson_object_perm {members members' : List (String × Json)}
    (hperm : members.Perm members') (hkeys : (members.map Prod.fst).Nodup) :
    Value.ofJson (.object members) = Value.ofJson (.object members') := by
  have hnodup : ((members.map fun m => (m.1, Value.ofJson m.2)).map Prod.fst).Nodup := by
    rwa [List.map_map]
  rw [Value.ofJson, Value.ofJson, membersOfJson_eq, membersOfJson_eq]
  exact congrArg (table .text) (ofList_perm (hperm.map _) hnodup)

/-- A table that is sorted keeps its entries in a document. -/
theorem ofJson_table (h : Ascending es) (o : Source) : Value.ofJson (Value.table o es).toJson =
    .table .text (es.map fun e => (e.1, Value.ofJson e.2.toJson)) := by
  rw [toJson, entriesToJson_eq, Value.ofJson, membersOfJson_eq, List.map_map]
  exact congrArg (table .text) (ofList_eq (.refl _) (List.pairwise_map.mpr h))

end Entries

section Token
variable {byIndex : Bool} {source : TokenSettings} {j : Json}

/-- An argument as it is written. -/
def argument (s : String) : Value := .scalar .defaults (.text s)

theorem toValue_fixed (token : String) : (TokenSettings.fixed token).toValue =
    .table .defaults [("token", argument token), ("type", argument "static")] := by
  refine congrArg (table .defaults) (ofList_eq (.swap _ _ []) (ascending_of_keys ?_))
  change ["token", "type"].Pairwise (· < ·)
  decide

theorem toValue_command (program : String) (args : List String) :
    (TokenSettings.command program args).toValue =
      .table .defaults [("args", .list .defaults (args.map argument)),
        ("command", argument program), ("type", argument "command")] := by
  have hperm := List.reverse_perm [("args", Value.list .defaults (args.map argument)),
    ("command", argument program), ("type", argument "command")]
  refine congrArg (table .defaults) (ofList_eq hperm (ascending_of_keys ?_))
  change ["args", "command", "type"].Pairwise (· < ·)
  decide

theorem toValue_metadata (url : Option String) : (TokenSettings.metadata url).toValue =
    .table .defaults (("type", argument "metadata") ::
      (url.map fun u => ("url", argument u)).toList) := by
  cases url with
  | none => rfl
  | some u =>
    refine congrArg (table .defaults) (ofList_eq (.refl _) (ascending_of_keys ?_))
    change ["type", "url"].Pairwise (· < ·)
    decide

theorem ascending_toValue (source : TokenSettings) : Ascending source.toValue.entries := by
  cases source <;> exact ascending_ofList _

theorem narrowItems_arguments (i : Nat) (args : List String) :
    narrowItems i (args.map argument) = .ok () := by
  induction args generalizing i with
  | nil => rfl
  | cons a args ih => exact ih (i + 1)

theorem heldStrings_arguments (args : List String) :
    heldStrings (.list .defaults (args.map argument)) = .ok args := by
  induction args with
  | nil => rfl
  | cons a args ih =>
    change (args.map argument).mapM heldString = .ok args at ih
    change (argument a :: args.map argument).mapM heldString = .ok (a :: args)
    rw [List.mapM_cons, ih]
    rfl

theorem readToken_toValue (byIndex : Bool) (source : TokenSettings) :
    readToken byIndex source.toValue = .ok source := by
  cases source with
  | fixed token =>
    rw [toValue_fixed]
    rfl
  | metadata url =>
    rw [toValue_metadata]
    cases url <;> rfl
  | command program args =>
    have hkeys := ascending_toValue (.command program args)
    rw [toValue_command, entries_table] at hkeys
    rw [toValue_command, readToken_eq_ok_iff hkeys]
    refine ⟨⟨_, rfl, rfl⟩, ?_, .command ((gives_of_some (v := argument program) rfl).mpr rfl) ?_⟩
    · intro e he _
      simp only [List.mem_cons, List.not_mem_nil, or_false] at he
      rcases he with rfl | rfl | rfl
      · exact narrowItems_arguments 0 args
      · rfl
      · rfl
    · exact (gives_of_some rfl).mpr (heldStrings_arguments args)

theorem itemsOfJson_arguments (args : List String) :
    itemsOfJson (itemsToJson (args.map argument)) =
      relabelItems (fun _ => .text) (args.map argument) := by
  induction args with
  | nil => rfl
  | cons a args ih => exact congrArg (_ :: ·) ih

/-- A token source that goes through a document is the same but for where it was set. -/
theorem ofJson_toJson (source : TokenSettings) :
    Value.ofJson source.toValue.toJson = source.toValue.relabel fun _ => .text := by
  have hkeys := ascending_toValue source
  cases source with
  | fixed token =>
    rw [toValue_fixed] at hkeys ⊢
    exact ofJson_table hkeys _
  | metadata url =>
    rw [toValue_metadata, entries_table] at hkeys
    rw [toValue_metadata, ofJson_table hkeys]
    cases url <;> rfl
  | command program args =>
    have hargs : Value.ofJson (Value.list .defaults (args.map argument)).toJson =
        (Value.list .defaults (args.map argument)).relabel fun _ => .text :=
      congrArg (Value.list .text) (itemsOfJson_arguments args)
    rw [toValue_command, entries_table] at hkeys
    rw [toValue_command, ofJson_table hkeys, List.map_cons, hargs]
    rfl

/-- A document with the members that are written of a token source, in any order. -/
def TokenSettings.Written (source : TokenSettings) (j : Json) : Prop :=
  ∃ members members', source.toValue.toJson = .object members ∧ members'.Perm members ∧
    j = .object members'

theorem keys_toJson {members : List (String × Json)}
    (h : source.toValue.toJson = .object members) : (members.map Prod.fst).Nodup := by
  cases source with
  | fixed token =>
    rw [toValue_fixed] at h
    cases h
    simp [entriesToJson]
  | command program args =>
    rw [toValue_command] at h
    cases h
    simp [entriesToJson]
  | metadata url =>
    rw [toValue_metadata] at h
    cases h
    cases url <;> simp [entriesToJson]

theorem ofJson_of_written (h : source.Written j) : TokenSettings.ofJson j = .ok source := by
  obtain ⟨members, members', hmembers, hperm, rfl⟩ := h
  have hkeys : (members'.map Prod.fst).Nodup :=
    (hperm.map Prod.fst).nodup_iff.mpr (keys_toJson hmembers)
  rw [TokenSettings.ofJson, ofJson_object_perm hperm hkeys, ← hmembers, ofJson_toJson,
    oblivious_readToken false, readToken_toValue]
  rfl

theorem numberlessMembers_iff {members : List (String × Json)} :
    Json.NumberlessMembers members ↔ ∀ m ∈ members, m.2.Numberless := by
  induction members with
  | nil => simp [Json.NumberlessMembers]
  | cons m members ih => simp [Json.NumberlessMembers, ih]

theorem numberlessItems_arguments (args : List String) :
    Json.NumberlessItems (itemsToJson (args.map argument)) := by
  induction args with
  | nil => trivial
  | cons a args ih => exact ⟨trivial, ih⟩

theorem numberless_toJson (source : TokenSettings) : source.toValue.toJson.Numberless := by
  cases source with
  | fixed token =>
    rw [toValue_fixed]
    exact ⟨trivial, trivial, trivial⟩
  | command program args =>
    rw [toValue_command]
    exact ⟨numberlessItems_arguments args, trivial, trivial, trivial⟩
  | metadata url =>
    rw [toValue_metadata]
    cases url with
    | none => exact ⟨trivial, trivial⟩
    | some u => exact ⟨trivial, trivial, trivial⟩

theorem parse?_of_written (h : source.Written j) : Json.parse? j.text = some j := by
  obtain ⟨members, members', hmembers, hperm, rfl⟩ := h
  have hnumberless := numberless_toJson source
  rw [hmembers, Json.Numberless, numberlessMembers_iff] at hnumberless
  refine Json.parse?_text ?_
  rw [Json.Numberless, numberlessMembers_iff]
  exact fun m hm => hnumberless m (hperm.subset hm)

theorem written_toJson (source : TokenSettings) : source.Written source.toValue.toJson := by
  cases source with
  | metadata url => cases url <;> exact ⟨_, _, rfl, .refl _, rfl⟩
  | _ => exact ⟨_, _, rfl, .refl _, rfl⟩

end Token

section Settings

/-- What is written of settings, key by key. -/
def Settings.fields (s : Settings) : List (String × Value) :=
  [("port", .scalar .defaults (.unsigned s.port)), ("host", argument s.host)] ++
    ((s.backendUrl.map argument).map fun w => ("backend_url", w)).toList ++
    ((s.proxyUrl.map argument).map fun w => ("proxy_url", w)).toList ++
    ((s.timeoutSecs.map fun n => Value.scalar .defaults (.unsigned n)).map
      fun w => ("timeout_secs", w)).toList ++
    ((s.tokenSource.map TokenSettings.toValue).map fun w => ("token_source", w)).toList ++
    [("log", s.log.toValue)]

theorem toValue_eq (s : Settings) : s.toValue = .table .defaults (ofList s.fields) := rfl

theorem nodup_fields (s : Settings) : (s.fields.map Prod.fst).Nodup := by
  obtain ⟨port, host, backendUrl, proxyUrl, timeoutSecs, tokenSource, log⟩ := s
  cases backendUrl <;> cases proxyUrl <;> cases timeoutSecs <;> cases tokenSource <;>
    simp [Settings.fields]

theorem gives_of_option {α : Type} {es : Entries} {key : String}
    {holds : Value → Option α → Prop} {x : Option α} {written : α → Value}
    (hget : get? es key = x.map written) (hholds : ∀ a, x = some a → holds (written a) (some a)) :
    es.Gives key holds none x := by
  cases x with
  | none => exact (gives_of_none hget).mpr rfl
  | some a => exact (gives_of_some hget).mpr (hholds a rfl)

theorem readLog_toValue (l : LogSettings) : readLog l.toValue = .ok l := by
  have hvalue : l.toValue =
      .table .defaults [("format", argument l.format.name), ("level", argument l.level)] := by
    refine congrArg (table .defaults) (ofList_eq (.swap _ _ []) (ascending_of_keys ?_))
    change ["format", "level"].Pairwise (· < ·)
    decide
  obtain ⟨level, format⟩ := l
  rw [hvalue]
  cases format <;> rfl

/-- What stands at the keys of written settings. -/
structure FieldsAt (es : Entries) (s : Settings) : Prop where
  port : get? es "port" = some (.scalar .defaults (.unsigned s.port))
  host : get? es "host" = some (argument s.host)
  backendUrl : get? es "backend_url" = s.backendUrl.map argument
  proxyUrl : get? es "proxy_url" = s.proxyUrl.map argument
  timeoutSecs : get? es "timeout_secs" =
    s.timeoutSecs.map fun n => .scalar .defaults (.unsigned n)
  tokenSource : get? es "token_source" = s.tokenSource.map TokenSettings.toValue
  log : get? es "log" = some s.log.toValue

theorem fieldsAt_ofList (s : Settings) : FieldsAt (ofList s.fields) s := by
  constructor
  all_goals
    rw [get?_ofList (nodup_fields s)]
    simp [Settings.fields, get?_append, get?_optional, get?_cons, get?_nil, -Option.map_map]

/-- Settings that were written are read as they were, if their numbers are within the widths that
they have. -/
theorem ofValue_toValue {s : Settings} (hport : s.port ≤ maxPort)
    (htimeout : ∀ n, s.timeoutSecs = some n → n ≤ maxSeconds) :
    Settings.ofValue s.toValue = .ok s := by
  have hfields := fieldsAt_ofList s
  rw [toValue_eq, ofValue_eq_ok_iff (ascending_ofList _)]
  constructor
  · exact (gives_of_some hfields.port).mpr (if_pos hport)
  · exact (gives_of_some hfields.host).mpr rfl
  · exact gives_of_option hfields.backendUrl fun _ _ => rfl
  · exact gives_of_option hfields.proxyUrl fun _ _ => rfl
  · refine gives_of_option hfields.timeoutSecs fun n hn => ?_
    have hread : readNumber "u64" maxSeconds (.scalar .defaults (.unsigned n)) = .ok n :=
      if_pos (htimeout n hn)
    exact congrArg (Except.map some) hread
  · refine gives_of_option hfields.tokenSource fun source _ => ?_
    have htable : ∃ o es, source.toValue = .table o es := by cases source <;> exact ⟨_, _, rfl⟩
    obtain ⟨o, es, htable⟩ := htable
    rw [Reads, htable, readOption_of_table, ← htable, readToken_toValue]
    rfl
  · exact (gives_of_some hfields.log).mpr (readLog_toValue s.log)

end Settings

section Lossless

/-- What is written of the token source that a document stands for. -/
def normalized (j : Json) : Except Mismatch Json :=
  (TokenSettings.ofJson j).map fun source => source.toValue.toJson

theorem ofJson_self (source : TokenSettings) :
    TokenSettings.ofJson source.toValue.toJson = .ok source :=
  ofJson_of_written (written_toJson source)

theorem normalized_self (source : TokenSettings) :
    normalized source.toValue.toJson = .ok source.toValue.toJson := by
  rw [normalized, ofJson_self]
  rfl

/-- Written settings are read as they were, written token sources also from a document, in whatever
order its members are. All documents for one token source have one normal form, which stands for
that token source and is its own normal form. -/
theorem serialization_lossless :
    (∀ s : Settings, s.port ≤ maxPort → (∀ n, s.timeoutSecs = some n → n ≤ maxSeconds) →
      Settings.ofValue s.toValue = .ok s) ∧
    (∀ (source : TokenSettings) (j : Json), source.Written j →
      TokenSettings.ofJson j = .ok source ∧ Json.parse? j.text = some j) ∧
    (∀ (v : Json) (source : TokenSettings), TokenSettings.ofJson v = .ok source →
      normalized v = .ok source.toValue.toJson ∧
        TokenSettings.ofJson source.toValue.toJson = .ok source ∧
        normalized source.toValue.toJson = .ok source.toValue.toJson) ∧
    ∀ v v' : Json, ∀ n, normalized v = .ok n → normalized v' = .ok n →
      TokenSettings.ofJson v = TokenSettings.ofJson v' := by
  refine ⟨fun s => ofValue_toValue, fun source j h => ⟨ofJson_of_written h, parse?_of_written h⟩,
    fun v source h => ⟨by rw [normalized, h]; rfl, ofJson_self source, normalized_self source⟩, ?_⟩
  intro v v' n h h'
  obtain ⟨source, hsource, rfl⟩ := map_eq_ok h
  obtain ⟨source', hsource', heq⟩ := map_eq_ok h'
  have hsame := (ofJson_self source').symm.trans ((congrArg _ heq).trans (ofJson_self source))
  rw [hsource, hsource', Except.ok.inj hsame]

/-- Settings with the greatest numbers, and a document with a member that is null and one that means
nothing. -/
theorem serialization_lossless_extremes :
    let s : Settings := ⟨65535, "", some "", none, some 0xFFFFFFFFFFFFFFFF,
      some (.command "" ["", "a b"]), ⟨"", .json⟩⟩
    let v : Json := .object [("url", .null), ("more", .array []), ("type", .string "metadata")]
    let n : Json := .object [("type", .string "metadata")]
    Settings.ofValue s.toValue = .ok s ∧ TokenSettings.ofJson v = .ok (.metadata none) ∧
      normalized v = .ok n ∧ normalized n = .ok n := by
  obtain ⟨hsettings, -, hnormal, -⟩ := serialization_lossless
  have hread : TokenSettings.ofJson (.object [("url", .null), ("more", .array []),
      ("type", .string "metadata")]) = .ok (.metadata none) := by decide +kernel
  obtain ⟨hnormalized, -, hfixed⟩ := hnormal _ _ hread
  refine ⟨hsettings _ (by decide) ?_, hread, hnormalized, hfixed⟩
  intro n hn
  cases hn
  decide

end Lossless

end BrokerGate.Config
