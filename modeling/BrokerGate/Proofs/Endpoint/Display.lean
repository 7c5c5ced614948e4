import BrokerGate.Proofs.Endpoint.Join

/-! An endpoint as it is shown, and the URLs under it. The text of such a URL is what is shown of
the endpoint with the target behind it. -/
namespace BrokerGate.Endpoint
open Text Url

section Display
variable {e : Endpoint} {port : Nat} {a : Authority} {root : List Segment}

/-- An origin ends with its authority, in which no slash stands. -/
theorem Settled.getLast?_origin (h : e.Settled port a root) :
    ∀ c ∈ e.base.origin.getLast?, c ≠ '/' := by
  obtain ⟨_, hb⟩ := h.base
  have hcut : e.base.origin = (e.base.scheme ++ [':', '/', '/']) ++ a.text := by
    simp [hb.origin_eq]
  have hlast : e.base.origin.getLast? = a.text.getLast? := by
    rw [hcut, List.getLast?_append, List.getLast?_eq_some_getLast hb.authority.text_ne_nil,
      Option.some_or]
  rintro c hc rfl
  rw [hlast] at hc
  obtain ⟨-, hends⟩ := hb.authority.mem_text (List.mem_of_mem_getLast? hc)
  exact absurd hends (by decide)

theorem Settled.display_eq (h : e.Settled port a root) :
    e.display = e.base.origin ++ pathText root := by
  obtain ⟨n, hn⟩ := h.path_eq
  rw [display, h.base_text, hn, ← List.append_assoc,
    trimEndBy_append_of_pos _ (isSlash_replicate n), trimEndBy_eq_self]
  -- without a root path the last character is that of the origin
  intro c hc
  rw [List.getLast?_append, Option.mem_def, Option.or_eq_some_iff] at hc
  rcases hc with hc | ⟨-, hc⟩
  · simpa [isSlash] using h.getLast?_root c hc
  · simpa [isSlash] using h.getLast?_origin c hc

/-- The URL of an accepted target is the endpoint as it is shown, with the target behind it. -/
theorem Settled.text_of_join (h : e.Settled port a root) {t : String} {u : Url}
    (hu : e.join t = .ok u) : u.text = e.display ++ slashed t.toList := by
  obtain ⟨p, q, hp, ht⟩ := exists_cutTarget t.toList
  obtain ⟨rfl, -⟩ := (join_eq_ok_iff h hp ht).mp hu
  calc (e.appended root p q).text
      = e.targetText t.toList := (targetText_eq h hp ht).symm
    _ = e.originText ++ e.joinedPath p ++ suffixText '?' q := by
        rw [targetText, ht, cutTarget_eq hp]
    _ = e.base.origin ++ (pathText root ++ slashed p) ++ suffixText '?' q := by
        rw [h.originText_eq, h.joinedPath_eq]
    _ = e.display ++ slashed t.toList := by
        rw [h.display_eq, ht, slashed_append]
        simp only [List.append_assoc]

end Display

end BrokerGate.Endpoint
