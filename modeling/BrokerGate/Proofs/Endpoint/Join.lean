import BrokerGate.Endpoint
import BrokerGate.Proofs.Url.Parse

/-! Joining targets to a broker URL. A target that is accepted is appended to the path of the
endpoint and to nothing else: the URL that is read back has scheme and authority of the endpoint,
its path as a prefix, and no segment that leads out of it. -/
namespace BrokerGate
open Text Url

namespace Endpoint

/-- The path of a target behind its leading slash, if it has one. -/
def behindSlash : List Char → List Char
  | '/' :: cs => cs
  | cs => cs

/-- The path of a target with a slash before it. -/
def slashed (cs : List Char) : List Char := if cs.head? = some '/' then cs else '/' :: cs

theorem slashed_eq (cs : List Char) : slashed cs = '/' :: behindSlash cs := by
  cases cs with
  | nil => rfl
  | cons c cs =>
    by_cases hc : c = '/'
    · subst hc
      rfl
    · rw [slashed, if_neg (by simpa using hc), behindSlash.eq_2 _ (by simpa using hc)]

/-- An endpoint as validation leaves it: a settled web URL whose path is `root` and empty segments
behind it. -/
structure Settled (e : Endpoint) (port : Nat) (a : Authority) (root : List Segment) : Prop where
  base : ∃ n, Url.Settled e.base port a (root ++ List.replicate n [])
  root_last : ∀ s ∈ root.getLast?, s ≠ []
  query : e.base.query = none
  fragment : e.base.fragment = none

section Parse
variable {raw : String} {e : Endpoint}

theorem parse_eq_ok (h : parse raw = .ok e) : Url.parse raw.toList = .ok e.base ∧
    e.base.scheme ∈ webSchemes ∧ e.base.hasHost = true ∧
    e.base.query = none ∧ e.base.fragment = none := by
  simp only [parse] at h
  split at h
  · cases h
  · rename_i u hu
    split at h
    · cases h
    · split at h
      · cases h
      · split at h
        · cases h
        · cases h
          simp_all

/-- What validation lets pass is settled. -/
theorem settled_of_parse (h : parse raw = .ok e) : ∃ port a root, e.Settled port a root := by
  obtain ⟨hparse, hscheme, -, hquery, hfragment⟩ := parse_eq_ok h
  have hkind : ∀ s ∈ webSchemes, ∃ port ∈ [80, 443], SchemeKind.ofName s = .web port := by
    decide +kernel
  obtain ⟨port, -, hweb⟩ := hkind _ hscheme
  obtain ⟨a, ps, hsettled⟩ := parse_settled hparse hweb
  obtain ⟨root, n, rfl, hroot⟩ := exists_root ps
  exact ⟨port, a, root, ⟨n, hsettled⟩, hroot, hquery, hfragment⟩

end Parse

section Join
variable {e : Endpoint} {port : Nat} {a : Authority} {root : List Segment}

theorem isSlash_replicate (n : Nat) : ∀ c ∈ List.replicate n '/', isSlash c = true := by
  intro c hc
  rw [List.eq_of_mem_replicate hc]
  rfl

namespace Settled

theorem root_settled (h : e.Settled port a root) : ∀ s ∈ root, SettledSegment s := by
  obtain ⟨n, hb⟩ := h.base
  exact fun s hs => hb.path s (List.mem_append_left _ hs)

theorem path_eq (h : e.Settled port a root) :
    ∃ n, e.path = pathText root ++ List.replicate n '/' := by
  obtain ⟨n, hb⟩ := h.base
  exact ⟨n, by rw [path, hb.path_eq, Path.text, pathText_append, pathText_replicate]⟩

theorem getLast?_root (h : e.Settled port a root) : ∀ c ∈ (pathText root).getLast?, c ≠ '/' :=
  getLast?_pathText (fun s hs => (h.root_settled s hs).noSlash) h.root_last

theorem trim_path (h : e.Settled port a root) : trimEndBy isSlash e.path = pathText root := by
  obtain ⟨n, hn⟩ := h.path_eq
  rw [hn, trimEndBy_append_of_pos _ (isSlash_replicate n), trimEndBy_eq_self]
  intro c hc
  simpa [isSlash] using h.getLast?_root c hc

theorem joinedPath_eq (h : e.Settled port a root) (p : List Char) :
    e.joinedPath p = pathText root ++ slashed p := by
  rw [joinedPath, h.trim_path, slashed]

theorem joinedPath_eq_pathText (h : e.Settled port a root) (p : List Char) :
    e.joinedPath p = pathText (root ++ pieces '/' (behindSlash p)) := by
  rw [h.joinedPath_eq, slashed_eq, pathText_append, pathText_pieces]

/-- Without query and fragment the text of the base ends with its path. -/
theorem base_text (h : e.Settled port a root) : e.base.text = e.base.origin ++ e.path := by
  simp [Url.text, h.query, h.fragment, suffixText, path]

theorem dropSuffix?_path (h : e.Settled port a root) :
    dropSuffix? e.path e.base.text = some e.base.origin := by
  rw [h.base_text, dropSuffix?_append]

theorem originText_eq (h : e.Settled port a root) : e.originText = e.base.origin := by
  rw [originText, h.dropSuffix?_path, Option.getD_some]

end Settled

theorem cutTarget_eq {p : List Char} {q : Option (List Char)} (hp : '?' ∉ p) :
    cutTarget (p ++ suffixText '?' q) = (p, q) := by
  cases q with
  | none => simp [cutTarget, suffixText, cutFirst_eq_none_iff.mpr hp]
  | some q => simp [cutTarget, suffixText, cutFirst_append hp]

theorem exists_cutTarget (t : List Char) : ∃ p q, '?' ∉ p ∧ t = p ++ suffixText '?' q := by
  cases h : cutFirst '?' t with
  | none => exact ⟨t, none, cutFirst_eq_none_iff.mp h, by simp [suffixText]⟩
  | some r =>
    obtain ⟨hp, ht⟩ := cutFirst_eq_some h
    exact ⟨r.1, some r.2, hp, ht⟩

/-- The URL that stands for path and query of a target, taken segment by segment. -/
def appended (e : Endpoint) (root : List Segment) (p : List Char) (q : Option (List Char)) : Url :=
  { e.base with path := .segments (root ++ pieces '/' (behindSlash p)), query := q }

variable {t : String} {p : List Char} {q : Option (List Char)} {u : Url}

theorem targetText_eq (h : e.Settled port a root) (hp : '?' ∉ p)
    (ht : t.toList = p ++ suffixText '?' q) :
    e.targetText t.toList = (e.appended root p q).text := by
  obtain ⟨_, hb⟩ := h.base
  have horigin : (e.appended root p q).origin = e.base.origin := by
    simp [appended, origin, hb.authority_eq]
  simp only [targetText, ht, cutTarget_eq hp, h.originText_eq, h.joinedPath_eq_pathText, Url.text,
    horigin]
  simp [appended, Path.text, h.fragment, suffixText]

/-- The text that is read is a URL, whatever the target, and a URL on the endpoint's host. -/
theorem parse_targetText (h : e.Settled port a root) (t : String) :
    ∃ u, Url.parse (e.targetText t.toList) = .ok u ∧ u.scheme = e.base.scheme ∧
      u.authority = e.base.authority := by
  obtain ⟨p, q, hp, ht⟩ := exists_cutTarget t.toList
  obtain ⟨_, hb⟩ := h.base
  have hpath : ∃ r, e.joinedPath p = '/' :: r := by
    rw [h.joinedPath_eq_pathText, pathText_eq_cons (by simp)]
    exact ⟨_, rfl⟩
  obtain ⟨r, hr⟩ := hpath
  have htext : e.targetText t.toList = e.base.scheme ++ ':' :: '/' :: '/' :: a.text ++
      '/' :: (r ++ suffixText '?' q) := by
    simp [targetText, ht, cutTarget_eq hp, h.originText_eq, hb.origin_eq, hr]
  rw [htext, parse_anchored hb.kind hb.authority]
  exact ⟨_, rfl, rfl, hb.authority_eq.symm⟩

/-- A target is accepted exactly if the URL that stands for it is settled; it is the result. -/
theorem join_eq_ok_iff (h : e.Settled port a root) (hp : '?' ∉ p)
    (ht : t.toList = p ++ suffixText '?' q) : e.join t = .ok u ↔
      u = e.appended root p q ∧
        Url.Settled u port a (root ++ pieces '/' (behindSlash p)) := by
  obtain ⟨v, hv, hscheme, hauthority⟩ := parse_targetText h t
  obtain ⟨_, hb⟩ := h.base
  simp only [join, hv]
  rw [ht, cutTarget_eq hp]
  constructor
  · intro hjoin
    split at hjoin
    · rename_i hsame
      cases hjoin
      obtain ⟨hpath, hquery : u.query = q, hfragment⟩ := hsame
      obtain ⟨b, ps, hs⟩ := parse_settled hv (hscheme ▸ hb.kind)
      obtain rfl : a = b := by
        have hsome := hs.authority_eq.symm.trans (hauthority.trans hb.authority_eq)
        exact (Option.some.inj hsome).symm
      obtain rfl : ps = root ++ pieces '/' (behindSlash p) := by
        refine pathText_inj (fun s hmem => (hs.path s hmem).noSlash) (fun s hmem => ?_) ?_
        · rcases List.mem_append.mp hmem with hmem | hmem
          · exact (h.root_settled s hmem).noSlash
          · exact notMem_of_mem_pieces hmem
        · rw [← h.joinedPath_eq_pathText, ← hpath, hs.path_eq, Path.text]
      refine ⟨?_, hs⟩
      rw [appended, ← hs.path_eq, ← hquery, ← hscheme, ← hauthority, h.fragment, ← hfragment]
    · cases hjoin
  · rintro ⟨rfl, hs⟩
    have hread := hs.parse_text
    rw [← targetText_eq h hp ht, hv] at hread
    cases hread
    rw [if_pos]
    exact ⟨(h.joinedPath_eq_pathText p).symm, rfl, h.fragment⟩

/-- A target is refused for no other kind of reason. -/
theorem unforwardable_of_join {err : GateError} (h : e.join t = .error err) :
    ∃ why, err = .unforwardable why := by
  simp only [join] at h
  split at h
  · cases h
    exact ⟨_, rfl⟩
  · split at h
    · cases h
    · cases h
      exact ⟨_, rfl⟩

/-- A URL under an endpoint that names path and query of a target and nothing else. -/
structure Confined (e : Endpoint) (root p : List Char) (q : Option (List Char)) (u : Url) :
    Prop where
  scheme : u.scheme = e.base.scheme
  authority : u.authority = e.base.authority
  path : u.path.text = root ++ slashed p
  query : u.query = q
  fragment : u.fragment = none
  noDots : ∀ s ∈ pieces '/' u.path.text, ¬ IsDots s
  reread : Url.parse u.text = .ok u

theorem confined_of_join (h : e.Settled port a root) (hp : '?' ∉ p)
    (ht : t.toList = p ++ suffixText '?' q) (hu : e.join t = .ok u) :
    Confined e (pathText root) p q u := by
  obtain ⟨rfl, hs⟩ := (join_eq_ok_iff h hp ht).mp hu
  exact {
    scheme := rfl
    authority := rfl
    path := by rw [← h.joinedPath_eq, h.joinedPath_eq_pathText, hs.path_eq, Path.text]
    query := rfl
    fragment := h.fragment
    noDots := hs.not_isDots
    reread := hs.parse_text }

/-- Path and query of a URL under a root path. -/
def targetUnder (root : List Char) (u : Url) : List Char :=
  u.path.text.drop root.length ++ suffixText '?' u.query

theorem slashed_append (p : List Char) (q : Option (List Char)) :
    slashed (p ++ suffixText '?' q) = slashed p ++ suffixText '?' q := by
  cases p with
  | nil => cases q <;> simp [slashed, suffixText]
  | cons c p => by_cases hc : c = '/' <;> simp [slashed, hc]

theorem Confined.targetUnder_eq {r : List Char} (h : Confined e r p q u)
    (ht : t.toList = p ++ suffixText '?' q) : targetUnder r u = slashed t.toList := by
  rw [targetUnder, h.path, h.query, List.drop_left, ht, slashed_append]

end Join

/-- Scheme, user, host and port of an accepted target's URL are the endpoint's, its path is the
endpoint's without the last slashes and the target's behind it, and its query is the target's. The
target can be told from the URL. -/
theorem join_confined {raw : String} {e : Endpoint} (he : parse raw = .ok e) :
    dropSuffix? e.path e.base.text = some e.base.origin ∧
      ∃ (root : List Char) (n : Nat), e.path = root ++ List.replicate n '/' ∧
        root.getLast? ≠ some '/' ∧
        (∀ (t : String) (p : List Char) (q : Option (List Char)) (u : Url), '?' ∉ p →
          t.toList = p ++ suffixText '?' q → e.join t = .ok u →
            Confined e root p q u ∧ targetUnder root u = slashed t.toList) ∧
        ∀ (t t' : String) (u : Url), t.toList.head? = some '/' → t'.toList.head? = some '/' →
          e.join t = .ok u → e.join t' = .ok u → t = t' := by
  obtain ⟨port, a, root, h⟩ := settled_of_parse he
  obtain ⟨n, hn⟩ := h.path_eq
  have hback (t : String) (u : Url) (hu : e.join t = .ok u) :
      targetUnder (pathText root) u = slashed t.toList := by
    obtain ⟨p, q, hp, ht⟩ := exists_cutTarget t.toList
    exact (confined_of_join h hp ht hu).targetUnder_eq ht
  refine ⟨h.dropSuffix?_path, pathText root, n, hn, fun hl => h.getLast?_root _ hl rfl,
    fun t p q u hp ht hu => ⟨confined_of_join h hp ht hu, hback t u hu⟩, ?_⟩
  intro t t' u hslash hslash' hu hu'
  have heq := (hback t u hu).symm.trans (hback t' u hu')
  rw [slashed, if_pos hslash, slashed, if_pos hslash'] at heq
  exact String.toList_inj.mp heq

/-- An endpoint with user name, password, port and path. -/
def prefixed : Endpoint where
  base := {
    scheme := "https".toList
    authority := some ⟨"u".toList, "p".toList, .name "h.example".toList, some 8443⟩
    path := .segments ["gcp".toList, [], []]
    query := none
    fragment := none }

theorem join_confined_prefixed : parse "https://u:p@h.example:8443/gcp//" = .ok prefixed ∧
    ∃ u, prefixed.join "//v2/catalog?x=1" = .ok u ∧ u.authority = prefixed.base.authority ∧
      u.query = some "x=1".toList ∧ Url.parse u.text = .ok u := by
  have he : parse "https://u:p@h.example:8443/gcp//" = .ok prefixed := by decide +kernel
  have hu : ∃ u, prefixed.join "//v2/catalog?x=1" = .ok u := by
    refine ⟨{ prefixed.base with
      path := .segments ["gcp".toList, [], "v2".toList, "catalog".toList]
      query := some "x=1".toList }, ?_⟩
    decide +kernel
  obtain ⟨u, hu⟩ := hu
  obtain ⟨-, root, n, -, -, hall, -⟩ := join_confined he
  obtain ⟨hc, -⟩ := hall "//v2/catalog?x=1" "//v2/catalog".toList (some "x=1".toList) u
    (by decide +kernel) (by decide +kernel) hu
  exact ⟨he, u, hu, hc.authority, hc.query, hc.reread⟩

end Endpoint

end BrokerGate
