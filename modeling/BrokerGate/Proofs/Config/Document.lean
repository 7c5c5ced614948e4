import BrokerGate.Config.Document
import BrokerGate.Proofs.Config.Merge

/-! The layer of a YAML document has its tables sorted by key, as every layer. -/
namespace BrokerGate.Config
open Yaml Entries Value

theorem sorted_wrapLocal {v : Value} (h : v.Sorted) (source : Source) (tag : Option (List Char)) :
    (wrapLocal source tag v).Sorted := by
  unfold wrapLocal
  split
  · refine .table _ (List.pairwise_singleton _ _) fun e he => ?_
    cases List.mem_singleton.mp he
    exact h
  · exact h

mutual

theorem sorted_valueOf {source : Source} {depth jumps jumps' : Nat} {v : Value} (n : Node)
    (h : valueOf source depth jumps n = some (v, jumps')) : v.Sorted := by
  match n with
  | .scalar tag text plain =>
    rw [valueOf.eq_def] at h
    obtain ⟨s, -, hv⟩ := Option.map_eq_some_iff.mp h
    cases hv
    exact sorted_wrapLocal (.scalar source s) source tag
  | .sequence tag items =>
    rw [valueOf.eq_def] at h
    dsimp only at h
    split at h
    · cases h
    · obtain ⟨p, -, hv⟩ := Option.map_eq_some_iff.mp h
      cases hv
      exact sorted_wrapLocal (.list source p.1) source tag
  | .mapping tag entries =>
    rw [valueOf.eq_def] at h
    dsimp only at h
    split at h
    · cases h
    · obtain ⟨p, hp, hv⟩ := Option.map_eq_some_iff.mp h
      cases hv
      exact sorted_wrapLocal (sorted_entriesOf entries (sorted_empty source) hp) source tag
  | .alias target =>
    rw [valueOf.eq_def] at h
    dsimp only at h
    split at h
    · cases h
    · exact sorted_valueOf target h

theorem sorted_entriesOf {source : Source} {depth jumps jumps' : Nat} {acc es : Entries}
    (entries : List (Node × Node)) (hacc : (table source acc).Sorted)
    (h : entriesOf source depth jumps acc entries = some (es, jumps')) :
    (table source es).Sorted := by
  match entries with
  | [] =>
    rw [entriesOf] at h
    cases h
    exact hacc
  | (k, n) :: rest =>
    rw [entriesOf] at h
    split at h
    · next key v jumps hkey hv =>
      exact sorted_entriesOf rest (sorted_put hacc key (sorted_valueOf n hv)) h
    · cases h

end

theorem sorted_documentLayer? {source : Source} {text : String} {v : Value}
    (h : documentLayer? source text = some v) : v.Sorted := by
  unfold documentLayer? at h
  split at h
  · cases h
  · cases h
    exact sorted_empty source
  · split at h
    · cases h
      exact sorted_empty source
    · obtain ⟨p, hp, hv⟩ := Option.map_eq_some_iff.mp h
      cases hv
      exact sorted_entriesOf _ (sorted_empty source) hp
    · cases h

end BrokerGate.Config
