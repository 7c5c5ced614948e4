import BrokerGate.Proofs.Url.Authority
import BrokerGate.Proofs.Url.Path
import BrokerGate.Url.Parse

/-! Web URLs are fixed points of reading: a URL that has been read is made of parts that stand for
themselves, and such a URL is read back from its text. Behind scheme and authority any text may
follow a slash without moving them. -/
namespace BrokerGate.Url
open Text

section Clean

/-- What cleaning makes of the end of a text. -/
def tidy (cs : List Char) : List Char :=
  (trimEndBy (·.toNat ≤ 0x20) cs).filter fun c => !isStripped c

theorem isStripped_eq_false {c : Char} (h : 0x20 < c.toNat) : isStripped c = false := by
  rw [isStripped]
  have : c ≠ '\t' ∧ c ≠ '\n' ∧ c ≠ '\r' := by
    refine ⟨?_, ?_, ?_⟩ <;> rintro rfl <;> exact absurd h (by decide)
  simp [this]

theorem filter_isStripped {cs : List Char} (h : ∀ c ∈ cs, 0x20 < c.toNat) :
    cs.filter (fun c => !isStripped c) = cs :=
  List.filter_eq_self.mpr fun c hc => by simp [isStripped_eq_false (h c hc)]

/-- Visible characters at the start shield themselves; only what follows them is cleaned. -/
theorem clean_append_cons {a : List Char} {c : Char} (ha : ∀ d ∈ a, 0x20 < d.toNat)
    (hc : 0x20 < c.toNat) (r : List Char) : clean (a ++ c :: r) = a ++ c :: tidy r := by
  have hstart : trimStartBy (·.toNat ≤ 0x20) (a ++ c :: r) = a ++ c :: r := by
    cases a with
    | nil => simp [trimStartBy, Nat.not_le.mpr hc]
    | cons d a => simp [trimStartBy, Nat.not_le.mpr (ha d (List.mem_cons_self ..))]
  have hcs := isStripped_eq_false hc
  rw [clean, trimBy, hstart, trimEndBy_append_cons a r (by simpa using hc), List.filter_append,
    filter_isStripped ha, List.filter_cons_of_pos (by simp [hcs])]
  rfl

theorem tidy_eq_self {cs : List Char} (h : ∀ c ∈ cs, 0x20 < c.toNat) : tidy cs = cs := by
  rw [tidy, trimEndBy_eq_self, filter_isStripped h]
  intro c hc
  simpa using h c (List.mem_of_mem_getLast? hc)

theorem clean_eq_self {cs : List Char} (h : ∀ c ∈ cs, 0x20 < c.toNat) : clean cs = cs := by
  cases cs with
  | nil => rfl
  | cons c cs =>
    rw [List.forall_mem_cons] at h
    have hclean := clean_append_cons (a := []) (List.forall_mem_nil _) h.1 cs
    rwa [tidy_eq_self h.2, List.nil_append] at hclean

theorem gt_of_escapes_eq_false {s : EscapeSet} (hs : ' ' ∈ s.extra) {c : Char}
    (h : s.escapes c = false) : 0x20 < c.toNat := by
  obtain ⟨hl, _, hn⟩ := escapes_eq_false_iff.mp h
  refine Nat.lt_of_le_of_ne hl fun he => hn ?_
  rw [← Char.ofNat_toNat c, ← he]
  exact hs

end Clean

section Scheme
variable {s : List Char} {p : Nat}

theorem web_scheme (h : SchemeKind.ofName s = .web p) :
    s ∈ ["http", "https", "ws", "wss", "ftp"].map String.toList := by
  have hs : s = (String.ofList s).toList := (String.toList_ofList).symm
  rw [SchemeKind.ofName] at h
  split at h
  case h_6 | h_7 => cases h
  all_goals
    rename_i he
    rw [hs, he]
    decide +kernel

theorem cutScheme_web (h : SchemeKind.ofName s = .web p) (r : List Char) :
    cutScheme (s ++ ':' :: r) = some (s, r) := by
  have hall : ∀ t ∈ ["http", "https", "ws", "wss", "ftp"].map String.toList, ':' ∉ t ∧
      (t.head?.any Char.isAlpha && t.all isSchemeChar) = true ∧ t.map Char.toLower = t := by
    decide +kernel
  obtain ⟨hcolon, hchars, hlower⟩ := hall s (web_scheme h)
  simp only [cutScheme, cutFirst_append hcolon, hchars, hlower, if_true]

theorem web_scheme_visible (h : SchemeKind.ofName s = .web p) : ∀ c ∈ s, 0x20 < c.toNat := by
  have hall : ∀ t ∈ ["http", "https", "ws", "wss", "ftp"].map String.toList,
      (t.all fun c => 0x20 < c.toNat) = true := by decide +kernel
  simpa using hall s (web_scheme h)

end Scheme

/-- A URL of a web scheme whose parts stand for themselves. -/
structure Settled (u : Url) (port : Nat) (a : Authority) (ps : List Segment) : Prop where
  kind : SchemeKind.ofName u.scheme = .web port
  authority_eq : u.authority = some a
  authority : a.Settled (.web port)
  path_eq : u.path = .segments ps
  path_ne_nil : ps ≠ []
  path : ∀ s ∈ ps, SettledSegment s
  query : ∀ q ∈ u.query, ∀ c ∈ q, EscapeSet.specialQuery.escapes c = false
  fragment : ∀ f ∈ u.fragment, ∀ c ∈ f, EscapeSet.fragment.escapes c = false

section Read

theorem readPath_settled (cs : List Char) :
    readPath true cs ≠ [] ∧ ∀ s ∈ readPath true cs, SettledSegment s := by
  rw [readPath.eq_def]
  split
  · simp [settledSegment_nil]
  · split
    · exact ⟨readSegments_ne_nil _ _, fun _ => settledSegment_of_mem_readSegments⟩
    · exact ⟨readSegments_ne_nil _ _, fun _ => settledSegment_of_mem_readSegments⟩

theorem cutEscaped_spared {mark : Char} {set : EscapeSet} (hs : set.SparesEscapes)
    (cs : List Char) : ∀ t ∈ (cutEscaped mark set cs).2, ∀ c ∈ t, set.escapes c = false := by
  intro t ht
  rw [cutEscaped] at ht
  split at ht
  · cases ht
    exact fun _ => hs.escapes_eq_false
  · cases ht

theorem cutEscaped_append {mark : Char} {set : EscapeSet} {a : List Char} (ha : mark ∉ a)
    {t : Option (List Char)} (ht : ∀ b ∈ t, ∀ c ∈ b, set.escapes c = false) :
    cutEscaped mark set (a ++ suffixText mark t) = (a, t) := by
  cases t with
  | none => simp [cutEscaped, suffixText, cutFirst_eq_none_iff.mpr ha]
  | some b => simp [cutEscaped, suffixText, cutFirst_append ha, escape_eq_self (ht b rfl)]

theorem readHierarchy_scheme {s cs : List Char} {kind : SchemeKind} {u : Url}
    (h : readHierarchy s kind cs = .ok u) : u.scheme = s := by
  obtain ⟨_, _, h⟩ := bind_eq_ok.mp h
  cases h
  rfl

theorem readHierarchy_settled {s cs : List Char} {p : Nat} (hk : SchemeKind.ofName s = .web p)
    {u : Url} (h : readHierarchy s (.web p) cs = .ok u) : ∃ a ps, Settled u p a ps := by
  obtain ⟨r, hr, h⟩ := bind_eq_ok.mp h
  cases h
  exact ⟨r.1, _, {
    kind := hk
    authority_eq := rfl
    authority := settled_of_readAuthority rfl hr
    path_eq := rfl
    path_ne_nil := (readPath_settled _).1
    path := (readPath_settled _).2
    query := cutEscaped_spared specialQuery_sparesEscapes _
    fragment := cutEscaped_spared fragment_sparesEscapes _ }⟩

theorem readFile_scheme {cs : List Char} {u : Url} (h : readFile cs = .ok u) :
    u.scheme = "file".toList := by
  rw [readFile] at h
  obtain ⟨_, _, h⟩ := bind_eq_ok.mp h
  cases h
  rfl

theorem readOther_scheme {s cs : List Char} {u : Url} (h : readOther s cs = .ok u) :
    u.scheme = s := by
  rw [readOther.eq_def] at h
  split at h
  · exact readHierarchy_scheme h
  · cases h
    rfl
  · cases h
    rfl

/-- A web URL that has been read consists of parts that stand for themselves. -/
theorem parse_settled {raw : List Char} {u : Url} {p : Nat} (h : parse raw = .ok u)
    (hk : SchemeKind.ofName u.scheme = .web p) : ∃ a ps, Settled u p a ps := by
  rw [parse, parseClean] at h
  split at h
  · cases h
  rename_i s rest _
  split at h
  · rename_i q hq
    have hs := readHierarchy_scheme h
    rw [hs, hq] at hk
    cases hk
    exact readHierarchy_settled hq h
  · rw [readFile_scheme h] at hk
    have hfile : SchemeKind.ofName "file".toList = .file := by decide +kernel
    rw [hfile] at hk
    cases hk
  · rename_i ho
    rw [readOther_scheme h, ho] at hk
    cases hk

end Read

section Anchor
variable {s : List Char} {p : Nat} {a : Authority}

theorem cutEscaped_cons {mark c : Char} (h : c ≠ mark) (set : EscapeSet) (cs : List Char) :
    cutEscaped mark set (c :: cs) =
      (c :: (cutEscaped mark set cs).1, (cutEscaped mark set cs).2) := by
  simp only [cutEscaped, cutFirst, if_neg h]
  cases cutFirst mark cs <;> rfl

theorem tail_slash (cs : List Char) : Tail.ofText true ('/' :: cs) =
    { Tail.ofText true cs with path := '/' :: (Tail.ofText true cs).path } := by
  simp [Tail.ofText, cutEscaped_cons]

/-- Nothing in a settled authority ends it. -/
theorem all_within (ha : a.Settled (.web p)) :
    ∀ c ∈ a.text, (!endsAuthority true c) = true := fun c hc => by
  simp [(ha.mem_text hc).2]

theorem readHierarchy_anchored (ha : a.Settled (.web p)) (cs : List Char) :
    readHierarchy s (.web p) (a.text ++ '/' :: cs) =
      .ok ⟨s, some a, .segments (readSegments true (Tail.ofText true cs).path),
        (Tail.ofText true cs).query, (Tail.ofText true cs).fragment⟩ := by
  have hslash : (!endsAuthority true '/') = false := by decide
  have htake : (a.text ++ '/' :: cs).takeWhile (fun c => !endsAuthority true c) = a.text := by
    rw [List.takeWhile_append_of_pos (all_within ha),
      List.takeWhile_cons_of_neg (by simp [hslash]), List.append_nil]
  have hdrop : (a.text ++ '/' :: cs).dropWhile (fun c => !endsAuthority true c) = '/' :: cs := by
    rw [List.dropWhile_append_of_pos (all_within ha),
      List.dropWhile_cons_of_neg (by simp [hslash])]
  have hspecial : SchemeKind.isSpecial (.web p) = true := rfl
  simp only [readHierarchy, hspecial, htake, hdrop, readAuthority_text hspecial ha, bind,
    Except.bind, List.nil_append, tail_slash]
  rfl

/-- Without a path there is one empty segment. -/
theorem readHierarchy_bare (ha : a.Settled (.web p)) :
    readHierarchy s (.web p) a.text = .ok ⟨s, some a, .segments [[]], none, none⟩ := by
  have htake : a.text.takeWhile (fun c => !endsAuthority true c) = a.text :=
    List.takeWhile_eq_self_iff.mpr (all_within ha)
  have hdrop : a.text.dropWhile (fun c => !endsAuthority true c) = [] :=
    List.dropWhile_eq_nil_iff.mpr (all_within ha)
  have hspecial : SchemeKind.isSpecial (.web p) = true := rfl
  simp only [readHierarchy, hspecial, htake, hdrop, readAuthority_text hspecial ha, bind,
    Except.bind, List.nil_append]
  rfl

theorem anchor_visible (hk : SchemeKind.ofName s = .web p) (ha : a.Settled (.web p)) :
    ∀ c ∈ s ++ ':' :: '/' :: '/' :: a.text, 0x20 < c.toNat := by
  intro c hc
  simp only [List.mem_append, List.mem_cons] at hc
  rcases hc with hc | rfl | rfl | rfl | hc
  · exact web_scheme_visible hk c hc
  · decide
  · decide
  · decide
  · exact (ha.mem_text hc).1

theorem dropWhile_slashes (ha : a.Settled (.web p)) (r : List Char) :
    ('/' :: '/' :: a.text ++ r).dropWhile isSlash = a.text ++ r := by
  obtain ⟨c, cs, hc⟩ := List.exists_cons_of_ne_nil ha.text_ne_nil
  have hno := (ha.mem_text (c := c) (by simp [hc])).2
  have hns : isSlash c = false := by
    rw [isSlash]
    simp only [endsAuthority] at hno
    simp_all
  have hs : isSlash '/' = true := by decide
  simp [hc, hs, hns]

/-- Behind a web scheme only the authority and what follows it are left to read. -/
theorem parseClean_anchor (hk : SchemeKind.ofName s = .web p) (ha : a.Settled (.web p))
    (r : List Char) : parseClean (s ++ ':' :: '/' :: '/' :: a.text ++ r) =
      readHierarchy s (.web p) (a.text ++ r) := by
  have hslashes := dropWhile_slashes ha r
  rw [parseClean, List.append_assoc, List.cons_append, cutScheme_web hk]
  simp only [hk, List.cons_append] at hslashes ⊢
  rw [hslashes]

/-- A text that begins with a web scheme, a settled authority and a slash keeps them, and only the
rest of it is looked at for path, query and fragment. -/
theorem parse_anchored (hk : SchemeKind.ofName s = .web p) (ha : a.Settled (.web p))
    (r : List Char) :
    parse (s ++ ':' :: '/' :: '/' :: a.text ++ '/' :: r) =
      .ok ⟨s, some a, .segments (readSegments true (Tail.ofText true (tidy r)).path),
        (Tail.ofText true (tidy r)).query, (Tail.ofText true (tidy r)).fragment⟩ := by
  rw [parse, clean_append_cons (anchor_visible hk ha) (by decide), parseClean_anchor hk ha,
    readHierarchy_anchored ha]

theorem parse_bare (hk : SchemeKind.ofName s = .web p) (ha : a.Settled (.web p)) :
    parse (s ++ ':' :: '/' :: '/' :: a.text) = .ok ⟨s, some a, .segments [[]], none, none⟩ := by
  have hbare := parseClean_anchor hk ha []
  rw [List.append_nil, List.append_nil, readHierarchy_bare ha] at hbare
  rw [parse, clean_eq_self (anchor_visible hk ha), hbare]

end Anchor

namespace Settled
variable {u : Url} {p : Nat} {a : Authority} {ps : List Segment}

theorem origin_eq (h : Settled u p a ps) : u.origin = u.scheme ++ ':' :: '/' :: '/' :: a.text := by
  simp [origin, h.authority_eq]

theorem path_text (h : Settled u p a ps) : u.path.text = '/' :: joinWith ['/'] ps := by
  rw [h.path_eq, Path.text, pathText_eq_cons h.path_ne_nil]

/-- What can stand in the path of a settled URL. -/
theorem mem_path (h : Settled u p a ps) {c : Char} (hc : c ∈ u.path.text) :
    EscapeSet.path.escapes c = false ∧ c ≠ '\\' := by
  rw [h.path_eq] at hc
  rcases mem_pathText hc with rfl | ⟨s, hs, hc⟩
  · decide +kernel
  · exact ⟨(h.path s hs).spared c hc, by rintro rfl; exact (h.path s hs).noBackslash hc⟩

theorem pieces_path (h : Settled u p a ps) : pieces '/' u.path.text = [] :: ps := by
  rw [h.path_eq, Path.text, pieces_pathText fun s hs => (h.path s hs).noSlash]

theorem not_isDots (h : Settled u p a ps) : ∀ s ∈ pieces '/' u.path.text, ¬ IsDots s := by
  rw [h.pieces_path]
  intro s hs hdots
  have hdot := isDotSegment_iff.mpr hdots
  rcases List.mem_cons.mp hs with rfl | hs
  · rw [settledSegment_nil.notDot] at hdot
    cases hdot
  · rw [(h.path s hs).notDot] at hdot
    cases hdot

theorem tail_eq (h : Settled u p a ps) :
    Tail.ofText true (joinWith ['/'] ps ++ suffixText '?' u.query ++ suffixText '#' u.fragment) =
      ⟨joinWith ['/'] ps, u.query, u.fragment⟩ := by
  have hjoin {c : Char} (hc : c ∈ joinWith ['/'] ps) : EscapeSet.path.escapes c = false :=
    (h.mem_path (by rw [h.path_text]; exact List.mem_cons_of_mem _ hc)).1
  have hquestion : '?' ∉ joinWith ['/'] ps := fun hc => absurd (hjoin hc) (by decide +kernel)
  have hhash : '#' ∉ joinWith ['/'] ps ++ suffixText '?' u.query := by
    intro hc
    rcases List.mem_append.mp hc with hc | hc
    · exact absurd (hjoin hc) (by decide +kernel)
    · cases hq : u.query with
      | none =>
        rw [hq] at hc
        cases hc
      | some q =>
        rw [hq] at hc
        rcases List.mem_cons.mp hc with hc | hc
        · cases hc
        · exact absurd (h.query q hq _ hc) (by decide +kernel)
  simp only [Tail.ofText, cutEscaped_append hhash h.fragment, if_true,
    cutEscaped_append hquestion h.query]

theorem rest_visible (h : Settled u p a ps) : ∀ c ∈ joinWith ['/'] ps ++ suffixText '?' u.query ++
    suffixText '#' u.fragment, 0x20 < c.toNat := by
  intro c hc
  rcases List.mem_append.mp hc with hc | hc
  · rcases List.mem_append.mp hc with hc | hc
    · have := (h.mem_path (c := c) (by rw [h.path_text]; exact List.mem_cons_of_mem _ hc)).1
      exact gt_of_escapes_eq_false (by decide +kernel) this
    · cases hq : u.query with
      | none =>
        rw [hq] at hc
        cases hc
      | some q =>
        rw [hq] at hc
        rcases List.mem_cons.mp hc with rfl | hc
        · decide
        · exact gt_of_escapes_eq_false (by decide +kernel) (h.query q hq c hc)
  · cases hf : u.fragment with
    | none =>
      rw [hf] at hc
      cases hc
    | some f =>
      rw [hf] at hc
      rcases List.mem_cons.mp hc with rfl | hc
      · decide
      · exact gt_of_escapes_eq_false (by decide +kernel) (h.fragment f hf c hc)

/-- A web URL is read back from its own text. -/
theorem parse_text (h : Settled u p a ps) : parse u.text = .ok u := by
  have htext : u.text = u.scheme ++ ':' :: '/' :: '/' :: a.text ++ '/' ::
      (joinWith ['/'] ps ++ suffixText '?' u.query ++ suffixText '#' u.fragment) := by
    simp [text, h.origin_eq, h.path_text]
  rw [htext, parse_anchored h.kind h.authority, tidy_eq_self h.rest_visible, h.tail_eq]
  simp only [readSegments_joinWith h.path_ne_nil h.path]
  rw [← h.path_eq, ← h.authority_eq]

end Settled

end BrokerGate.Url
