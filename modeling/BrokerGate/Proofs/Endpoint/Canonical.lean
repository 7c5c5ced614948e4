import BrokerGate.Proofs.Endpoint.Display
import BrokerGate.Proxy.Operation

/-! What is shown of an endpoint stands for it. It is read as an endpoint that nothing tells from
the first one, and endpoints of which the same is shown do the same. -/
namespace BrokerGate
open Text Url

namespace Endpoint

section Same
variable {d e : Endpoint}

/-- Targets are joined to what stands before the path and to the path without its last slashes. -/
theorem join_congr (horigin : d.originText = e.originText)
    (hpath : trimEndBy isSlash d.path = trimEndBy isSlash e.path) (t : String) :
    d.join t = e.join t := by
  have hjoined : ∀ p, d.joinedPath p = e.joinedPath p := fun p => by
    rw [joinedPath, joinedPath, hpath]
  have htext : d.targetText t.toList = e.targetText t.toList := by
    simp only [targetText, horigin, hjoined]
  simp only [join, htext, hjoined]

theorem origin_congr (hscheme : d.scheme = e.scheme)
    (hauthority : d.base.authority = e.base.authority) {a : Authority}
    (ha : e.base.authority = some a) : d.base.origin = e.base.origin := by
  have hscheme : d.base.scheme = e.base.scheme := hscheme
  rw [origin, origin, hscheme, hauthority, ha]

end Same

section Settled
variable {d e : Endpoint} {port port' : Nat} {a a' : Authority} {root root' : List Segment}

theorem Settled.authority_eq (h : e.Settled port a root) : e.base.authority = some a := by
  obtain ⟨_, hb⟩ := h.base
  exact hb.authority_eq

theorem Settled.display_eq_trim (h : e.Settled port a root) :
    e.display = e.base.origin ++ trimEndBy isSlash e.path := by
  rw [h.display_eq, h.trim_path]

/-- Endpoints whose paths differ in their last slashes only. -/
theorem Settled.same (hd : d.Settled port' a' root') (he : e.Settled port a root)
    (hscheme : d.scheme = e.scheme) (hauthority : d.base.authority = e.base.authority)
    (hpath : trimEndBy isSlash d.path = trimEndBy isSlash e.path) :
    d.displayText = e.displayText ∧ ∀ t, d.join t = e.join t := by
  have horigin := origin_congr hscheme hauthority he.authority_eq
  constructor
  · rw [displayText, displayText, hd.display_eq_trim, he.display_eq_trim, horigin, hpath]
  · exact join_congr (by rw [hd.originText_eq, he.originText_eq, horigin]) hpath

/-- The endpoint with its last slashes taken away, up to the one that every path begins with. -/
def trimmed (e : Endpoint) (root : List Segment) : Endpoint :=
  ⟨{ e.base with path := .segments (if root = [] then [[]] else root) }⟩

theorem Settled.trim_path_trimmed (h : e.Settled port a root) :
    trimEndBy isSlash (e.trimmed root).path = trimEndBy isSlash e.path := by
  have hroot : trimEndBy isSlash (pathText root) = pathText root :=
    trimEndBy_eq_self fun c hc => by simpa [isSlash] using h.getLast?_root c hc
  rw [h.trim_path, path, trimmed, Path.text]
  split
  · next hnil =>
    subst hnil
    rfl
  · exact hroot

theorem Settled.trimmed_text (h : e.Settled port a root) (hroot : root ≠ []) :
    (e.trimmed root).base.text = e.base.origin ++ pathText root := by
  have horigin : (e.trimmed root).base.origin = e.base.origin :=
    origin_congr rfl rfl h.authority_eq
  rw [Url.text, horigin]
  simp [trimmed, hroot, Path.text, h.query, h.fragment, suffixText]

/-- What is shown is read, also where it ends with the host. -/
theorem Settled.parse_display (h : e.Settled port a root) :
    Url.parse e.displayText.toList = .ok (e.trimmed root).base := by
  obtain ⟨n, hb⟩ := h.base
  rw [displayText, String.toList_ofList, h.display_eq]
  by_cases hroot : root = []
  · subst hroot
    rw [hb.origin_eq, pathText, List.flatMap_nil, List.append_nil,
      parse_bare hb.kind hb.authority, ← hb.authority_eq]
    simp [trimmed, h.query, h.fragment]
  · have hsettled : Url.Settled (e.trimmed root).base port a root := {
      kind := hb.kind
      authority_eq := hb.authority_eq
      authority := hb.authority
      path_eq := by rw [trimmed, if_neg hroot]
      path_ne_nil := hroot
      path := h.root_settled
      query := hb.query
      fragment := hb.fragment }
    rw [← h.trimmed_text hroot]
    exact hsettled.parse_text

end Settled

theorem parse_of_url {raw : String} {u : Url} (hread : Url.parse raw.toList = .ok u)
    (hscheme : u.scheme ∈ webSchemes) (hhost : u.hasHost = true) (hquery : u.query = none)
    (hfragment : u.fragment = none) : parse raw = .ok ⟨u⟩ := by
  simp [parse, hread, hscheme, hhost, hquery, hfragment]

/-- Two endpoints between which no user can tell. -/
structure Alike (d e : Endpoint) : Prop where
  scheme : d.scheme = e.scheme
  /-- User name, password, host and port. -/
  parts : d.base.authority = e.base.authority
  authority : d.authority = e.authority
  display : d.displayText = e.displayText
  join : ∀ t, d.join t = e.join t

/-- A check and a forwarded request know of an endpoint what is shown of it and how targets are
joined to it. -/
theorem program_congr {d e : Endpoint} (hdisplay : d.displayText = e.displayText)
    (hjoin : ∀ t, d.join t = e.join t) (o : Proxy.Operation) : o.program d = o.program e := by
  cases o with
  | check =>
    have hpassed : Proxy.passedEvent d = Proxy.passedEvent e := by
      rw [Proxy.passedEvent, Proxy.passedEvent, hdisplay]
    rw [Proxy.Operation.program, Proxy.Operation.program, Proxy.startupCheck, Proxy.startupCheck,
      funext hjoin, hpassed]
  | forward request =>
    rw [Proxy.Operation.program, Proxy.Operation.program, Proxy.forward, Proxy.forward,
      Proxy.exchange, Proxy.exchange, hjoin]

/-- The endpoint that is read from what is shown of one is the same up to its last slashes. -/
theorem exists_alike {raw : String} {e : Endpoint} (he : parse raw = .ok e) :
    ∃ d, parse e.displayText = .ok d ∧ Alike d e := by
  obtain ⟨port, a, root, h⟩ := settled_of_parse he
  obtain ⟨-, hscheme, hhost, hquery, hfragment⟩ := parse_eq_ok he
  have hread : parse e.displayText = .ok (e.trimmed root) :=
    parse_of_url h.parse_display hscheme hhost hquery hfragment
  obtain ⟨_, _, _, hd⟩ := settled_of_parse hread
  obtain ⟨hdisplay, hjoin⟩ := hd.same h rfl rfl h.trim_path_trimmed
  exact ⟨_, hread, rfl, rfl, rfl, hdisplay, hjoin⟩

/-- What is shown of an endpoint is read as an endpoint that is alike. Endpoints of which the same
is shown therefore do the same in every check and for every request; among these are all whose paths
differ in their last slashes only. -/
theorem display_canonical {raw : String} {e : Endpoint} (he : parse raw = .ok e) :
    (∃ d, parse e.displayText = .ok d ∧ Alike d e) ∧
      (∀ (raw' : String) (e' : Endpoint), parse raw' = .ok e' → e'.displayText = e.displayText →
        (∀ t, e'.join t = e.join t) ∧ ∀ o : Proxy.Operation, o.program e' = o.program e) ∧
      ∀ (raw' : String) (e' : Endpoint), parse raw' = .ok e' → e'.scheme = e.scheme →
        e'.base.authority = e.base.authority →
        trimEndBy isSlash e'.path = trimEndBy isSlash e.path → e'.displayText = e.displayText := by
  obtain ⟨d, hread, hd⟩ := exists_alike he
  refine ⟨⟨d, hread, hd⟩, fun raw' e' he' hdisplay => ?_,
    fun raw' e' he' hscheme hparts hpath => ?_⟩
  · -- both are alike to what is read from the text that they share
    obtain ⟨d', hread', hd'⟩ := exists_alike he'
    obtain rfl : d = d' := by
      rw [hdisplay, hread] at hread'
      exact Except.ok.inj hread'
    have hjoin : ∀ t, e'.join t = e.join t := fun t => (hd'.join t).symm.trans (hd.join t)
    exact ⟨hjoin, program_congr hdisplay hjoin⟩
  · obtain ⟨_, _, _, h⟩ := settled_of_parse he
    obtain ⟨_, _, _, h'⟩ := settled_of_parse he'
    exact (h'.same h hscheme hparts hpath).1

theorem display_canonical_prefixed :
    parse "https://u:p@h.example:8443/gcp//" = .ok prefixed ∧
      ∃ d, parse "https://u:p@h.example:8443/gcp" = .ok d ∧ d ≠ prefixed ∧ Alike d prefixed ∧
        ∀ o : Proxy.Operation, o.program d = o.program prefixed := by
  have he : parse "https://u:p@h.example:8443/gcp//" = .ok prefixed := by decide +kernel
  obtain ⟨⟨d, hread, hd⟩, hsame, -⟩ := display_canonical he
  have hshown : prefixed.displayText = "https://u:p@h.example:8443/gcp" := by decide +kernel
  rw [hshown] at hread
  have hne : d ≠ prefixed := by
    rintro rfl
    revert hread
    decide +kernel
  exact ⟨he, d, hread, hne, hd, (hsame _ d hread hd.display).2⟩

end Endpoint

end BrokerGate
