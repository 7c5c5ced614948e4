import BrokerGate.Proofs.Endpoint.Join

/-! The targets an endpoint accepts, as a grammar. It says which characters arrive as they are and
which segments are left in place; no endpoint appears in it. -/
namespace BrokerGate
open Text Url

namespace Endpoint

/-- What a path may hold: visible ASCII but for the characters that are escaped, that end a path or
that are read as a slash. A percent sign is always kept. -/
def PathChar (c : Char) : Prop :=
  0x20 < c.toNat ∧ c.toNat < 0x7F ∧ c ∉ ['"', '<', '>', '\x60', '\x7b', '\x7d', '#', '\\']

/-- What a query may hold. -/
def QueryChar (c : Char) : Prop :=
  0x20 < c.toNat ∧ c.toNat < 0x7F ∧ c ∉ ['"', '<', '>', '\'', '#']

instance (c : Char) : Decidable (PathChar c) := inferInstanceAs (Decidable (_ ∧ _))

instance (c : Char) : Decidable (QueryChar c) := inferInstanceAs (Decidable (_ ∧ _))

/-- Path and query that are sent as they are. -/
structure Forwardable (p : List Char) (q : Option (List Char)) : Prop where
  path : ∀ c ∈ p, PathChar c
  segments : ∀ s ∈ pieces '/' p, ¬ IsDots s
  query : ∀ t ∈ q, ∀ c ∈ t, QueryChar c

instance (p : List Char) (q : Option (List Char)) : Decidable (Forwardable p q) :=
  decidable_of_iff ((p.all fun c => PathChar c) ∧ ((pieces '/' p).all fun s => ¬ IsDots s) ∧
      q.all fun t => t.all fun c => QueryChar c)
    (by
      simp only [List.all_eq_true, Option.all_eq_true, decide_eq_true_eq]
      exact ⟨fun h => ⟨h.1, h.2.1, h.2.2⟩, fun h => ⟨h.path, h.segments, h.query⟩⟩)

section Characters
variable {c : Char}

theorem pathChar_iff (h : c ≠ '?') :
    PathChar c ↔ EscapeSet.path.escapes c = false ∧ c ≠ '\\' := by
  by_cases hlt : c.toNat < 128
  · revert h
    exact forall_ascii (p := fun c => c ≠ '?' →
      (PathChar c ↔ EscapeSet.path.escapes c = false ∧ c ≠ '\\')) (by decide +kernel) hlt
  · constructor
    · intro hp
      exact absurd hp.2.1 (by omega)
    · intro hs
      exact absurd (not_control_of_escapes_eq_false hs.1).2 (by omega)

theorem queryChar_iff : QueryChar c ↔ EscapeSet.specialQuery.escapes c = false := by
  by_cases hlt : c.toNat < 128
  · exact forall_ascii (p := fun c => QueryChar c ↔ EscapeSet.specialQuery.escapes c = false)
      (by decide +kernel) hlt
  · constructor
    · intro hq
      exact absurd hq.2.1 (by omega)
    · intro hs
      exact absurd (not_control_of_escapes_eq_false hs).2 (by omega)

end Characters

section Segments
variable {p : List Char}

theorem mem_behindSlash {c : Char} (h : c ∈ p) : c = '/' ∨ c ∈ behindSlash p := by
  rw [behindSlash.eq_def]
  split
  · exact List.mem_cons.mp h
  · exact .inr h

theorem mem_of_mem_behindSlash {c : Char} (h : c ∈ behindSlash p) : c ∈ p := by
  rw [behindSlash.eq_def] at h
  split at h
  · exact List.mem_cons_of_mem _ h
  · exact h

/-- Up to an empty one in front, the segments of a target do not depend on its leading slash. -/
theorem mem_pieces_behindSlash {s : List Char} :
    s ∈ pieces '/' p ↔ s ∈ pieces '/' (behindSlash p) ∨ (s = [] ∧ p.head? = some '/') := by
  rw [behindSlash.eq_def]
  split
  · simp [pieces, or_comm]
  · rename_i hp
    have hhead : p.head? ≠ some '/' := fun hh => by
      obtain ⟨cs, rfl⟩ := List.head?_eq_some_iff.mp hh
      exact hp cs rfl
    simp [hhead]

theorem not_isDots_nil : ¬ IsDots [] := by decide

/-- The segments of a path that is sent as it is stand for themselves, and only those do. -/
theorem settledSegments_iff (hp : '?' ∉ p) :
    (∀ s ∈ pieces '/' (behindSlash p), SettledSegment s) ↔
      (∀ c ∈ p, PathChar c) ∧ ∀ s ∈ pieces '/' p, ¬ IsDots s := by
  constructor
  · intro h
    refine ⟨fun c hc => ?_, fun s hs hdots => ?_⟩
    · rw [pathChar_iff (by rintro rfl; exact hp hc)]
      have hmem : c ∈ pathText (pieces '/' (behindSlash p)) := by
        rw [pathText_pieces, List.mem_cons]
        exact mem_behindSlash hc
      rcases mem_pathText hmem with rfl | ⟨s, hs, hc⟩
      · decide +kernel
      · exact ⟨(h s hs).spared c hc, by rintro rfl; exact (h s hs).noBackslash hc⟩
    · rcases mem_pieces_behindSlash.mp hs with hs | ⟨rfl, -⟩
      · exact absurd (isDotSegment_iff.mpr hdots) (by simp [(h s hs).notDot])
      · exact not_isDots_nil hdots
  · rintro ⟨hchars, hdots⟩ s hs
    have hspared : ∀ c ∈ s, EscapeSet.path.escapes c = false ∧ c ≠ '\\' := fun c hc => by
      have hmem := mem_of_mem_behindSlash (mem_of_mem_pieces hs hc)
      exact (pathChar_iff (by rintro rfl; exact hp hmem)).mp (hchars c hmem)
    exact {
      spared := fun c hc => (hspared c hc).1
      noSlash := notMem_of_mem_pieces hs
      noBackslash := fun hc => (hspared _ hc).2 rfl
      notDot := by
        rw [← Bool.not_eq_true, isDotSegment_iff]
        exact hdots s (mem_pieces_behindSlash.mpr (.inl hs)) }

end Segments

section Join
variable {e : Endpoint} {port : Nat} {a : Authority} {root : List Segment} {p : List Char}
  {q : Option (List Char)} {t : String}

theorem settled_appended_iff (h : e.Settled port a root) (hp : '?' ∉ p) :
    Url.Settled (e.appended root p q) port a (root ++ pieces '/' (behindSlash p)) ↔
      Forwardable p q := by
  constructor
  · intro hs
    obtain ⟨hchars, hdots⟩ := (settledSegments_iff hp).mp fun s hmem =>
      hs.path s (List.mem_append_right _ hmem)
    exact ⟨hchars, hdots, fun t ht c hc => queryChar_iff.mpr (hs.query t ht c hc)⟩
  · intro hf
    obtain ⟨_, hb⟩ := h.base
    have hsegments := (settledSegments_iff hp).mpr ⟨hf.path, hf.segments⟩
    exact {
      kind := hb.kind
      authority_eq := hb.authority_eq
      authority := hb.authority
      path_eq := rfl
      path_ne_nil := by simp
      path := fun s hs =>
        (List.mem_append.mp hs).elim (h.root_settled s) (hsegments s)
      query := fun t ht c hc => queryChar_iff.mp (hf.query t ht c hc)
      fragment := by simp [appended, h.fragment] }

theorem join_ok_iff (h : e.Settled port a root) (hp : '?' ∉ p)
    (ht : t.toList = p ++ suffixText '?' q) : (∃ u, e.join t = .ok u) ↔ Forwardable p q := by
  rw [← settled_appended_iff h hp]
  constructor
  · rintro ⟨u, hu⟩
    obtain ⟨rfl, hs⟩ := (join_eq_ok_iff h hp ht).mp hu
    exact hs
  · exact fun hs => ⟨_, (join_eq_ok_iff h hp ht).mpr ⟨rfl, hs⟩⟩

/-- What is not accepted is refused for what would be sent instead. -/
theorem join_eq_error (h : e.Settled port a root) (hno : ¬ ∃ u, e.join t = .ok u) :
    ∃ u, Url.parse (e.targetText t.toList) = .ok u ∧
      e.join t = .error (.unforwardable (t ++ (" would be sent as " ++
        String.ofList (u.path.text ++ suffixText '?' u.query)))) := by
  obtain ⟨u, hu, -, -⟩ := parse_targetText h t
  refine ⟨u, hu, ?_⟩
  simp only [join, hu] at hno ⊢
  split
  · rename_i hsame
    rw [if_pos hsame] at hno
    exact absurd ⟨u, rfl⟩ hno
  · rfl

end Join

/-- An endpoint accepts the targets of the grammar and no others, whatever its host and path. Any
other target is refused as one that would be rewritten; that its URL cannot be read never is the
reason. -/
theorem join_ok_iff_forwardable {raw : String} {e : Endpoint} (he : parse raw = .ok e) {t : String}
    {p : List Char} {q : Option (List Char)} (hp : '?' ∉ p)
    (ht : t.toList = p ++ suffixText '?' q) :
    ((∃ u, e.join t = .ok u) ↔ Forwardable p q) ∧
      (∃ u, Url.parse (e.targetText t.toList) = .ok u) ∧
      (¬ Forwardable p q → ∃ u, Url.parse (e.targetText t.toList) = .ok u ∧
        e.join t = .error (.unforwardable (t ++ (" would be sent as " ++
          String.ofList (u.path.text ++ suffixText '?' u.query))))) ∧
      ∀ (raw' : String) (e' : Endpoint), parse raw' = .ok e' →
        ((∃ u, e'.join t = .ok u) ↔ ∃ u, e.join t = .ok u) := by
  obtain ⟨port, a, root, h⟩ := settled_of_parse he
  have hiff := join_ok_iff h hp ht
  obtain ⟨u, hu, -, -⟩ := parse_targetText h t
  refine ⟨hiff, ⟨u, hu⟩, fun hno => join_eq_error h (hiff.not.mpr hno), ?_⟩
  intro raw' e' he'
  obtain ⟨_, _, _, h'⟩ := settled_of_parse he'
  rw [join_ok_iff h' hp ht, hiff]

theorem join_ok_iff_forwardable_prefixed :
    parse "https://u:p@h.example:8443/gcp//" = .ok prefixed ∧
      (∃ u, prefixed.join "/a%zz?%" = .ok u) ∧ ¬ ∃ u, prefixed.join "/a/.%2E?%" = .ok u := by
  have he : parse "https://u:p@h.example:8443/gcp//" = .ok prefixed := by decide +kernel
  have hkept := (join_ok_iff_forwardable (t := "/a%zz?%") (p := "/a%zz".toList)
    (q := some ['%']) he (by decide +kernel) (by decide +kernel)).1
  have hdots := (join_ok_iff_forwardable (t := "/a/.%2E?%") (p := "/a/.%2E".toList)
    (q := some ['%']) he (by decide +kernel) (by decide +kernel)).1
  exact ⟨he, hkept.mpr (by decide +kernel), hdots.not.mpr (by decide +kernel)⟩

end Endpoint

end BrokerGate
