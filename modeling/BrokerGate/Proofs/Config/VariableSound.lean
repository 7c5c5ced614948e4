import BrokerGate.Proofs.Config.TypedText

/-! What is read of the text of a variable has one of the forms in which texts do not stand for
themselves, or is bare. -/
namespace BrokerGate.Config
open Text Decimal

section Sound
variable {fuel : Nat} {cs rest : List Char} {v : Value} {vs : List Value}
  {es : List (String × Value)}

theorem gaps_nil : Gaps [] := fun _ hc => nomatch hc

theorem exists_gaps (cs : List Char) : ∃ lead body, cs = lead ++ body ∧ skipGap cs = body ∧
    Gaps lead ∧ ∀ c ∈ body.head?, isGap c = false := exists_dropWhile isGap cs

theorem not_isGap_of_isSeparator {c : Char} (h : isSeparator c = true) : isGap c = false := by
  simp only [isSeparator, Bool.or_eq_true, decide_eq_true_eq] at h
  rcases h with (((rfl | rfl) | rfl) | rfl) | rfl <;> decide

/-- What a number of steps can read has the form of a part. -/
structure Sound (fuel : Nat) : Prop where
  value : ∀ cs v rest, valueAt fuel cs = some (v, rest) → ∃ lead body trail,
    cs = lead ++ (body ++ (trail ++ rest)) ∧ Gaps lead ∧ Gaps trail ∧
      (Fits .marked body ∨ Bare body ∧ trail = [] ∧ v = scalarOf (bareScalar (trimBlank body)))
  items : ∀ cs vs rest, itemsAt fuel cs = some (vs, rest) →
    ∃ body, cs = body ++ rest ∧ Fits .items body
  entries : ∀ cs es rest, entriesAt fuel cs = some (es, rest) →
    ∃ body, cs = body ++ rest ∧ Fits .entries body

theorem Sound.value_succ (ih : Sound fuel) (h : valueAt (fuel + 1) cs = some (v, rest)) :
    ∃ lead body trail, cs = lead ++ (body ++ (trail ++ rest)) ∧ Gaps lead ∧ Gaps trail ∧
      (Fits .marked body ∨
        Bare body ∧ trail = [] ∧ v = scalarOf (bareScalar (trimBlank body))) := by
  obtain ⟨lead, body, rfl, hskip, hlead, hbody⟩ := exists_gaps cs
  -- behind a marked part gaps are passed over
  have hmarked : ∀ {part tail : List Char}, Fits .marked part → body = part ++ tail →
      rest = skipGap tail → ∃ lead' body' trail,
        lead ++ body = lead' ++ (body' ++ (trail ++ rest)) ∧ Gaps lead' ∧ Gaps trail ∧
          (Fits .marked body' ∨
            Bare body' ∧ trail = [] ∧ v = scalarOf (bareScalar (trimBlank body'))) := by
    rintro part tail hpart rfl rfl
    obtain ⟨trail, tail, rfl, hskip, htrail, -⟩ := exists_gaps tail
    exact ⟨lead, part, trail, by rw [hskip], hlead, htrail, .inl hpart⟩
  rw [valueAt, hskip] at h
  dsimp only at h
  split at h
  · cases h
    exact hmarked .yes rfl rfl
  · cases h
    exact hmarked .no rfl rfl
  · obtain ⟨⟨es, tail⟩, hes, heq⟩ := Option.map_eq_some_iff.mp h
    cases heq
    obtain ⟨part, rfl, hpart⟩ := ih.entries _ _ _ hes
    exact hmarked (.table hpart) rfl rfl
  · obtain ⟨⟨vs, tail⟩, hvs, heq⟩ := Option.map_eq_some_iff.mp h
    cases heq
    obtain ⟨part, rfl, hpart⟩ := ih.items _ _ _ hvs
    exact hmarked (.list hpart) rfl rfl
  · split at h
    · next hquoted =>
      cases h
      obtain ⟨t, u, ht, rfl, -⟩ := quotedText_of_quotedBody hquoted
      exact hmarked (.quoted ht) (by simp) rfl
    · cases h
  · cases h
    exact hmarked (.char _) rfl rfl
  · cases h
  · next hyes hno htable hlist hquote hchar hopen =>
    obtain ⟨bare, tail, rfl, hbare, htail⟩ := exists_span (fun c => !isSeparator c) body
    have hplain : ∀ c ∈ bare, isSeparator c = false := fun c hc => by simpa using hbare c hc
    have htake := (span_append hbare htail).1
    have hstop : skipGap tail = tail := by
      refine (span_append (a := []) (by simp) fun c hc => not_isGap_of_isSeparator ?_).2
      simpa using htail c hc
    rw [htake, List.drop_left, hstop] at h
    cases h
    refine ⟨lead, bare, [], rfl, hlead, gaps_nil, .inr ⟨⟨hplain, ?_, ?_, ?_⟩, rfl, rfl⟩⟩
    · intro c hc
      obtain ⟨bare, rfl⟩ := List.head?_eq_some_iff.mp hc
      refine ⟨hbody c rfl, ?_, ?_⟩
      · rintro rfl
        exact hquote _ rfl
      · rintro rfl
        exact hopen _ rfl
    · rintro ⟨t, rfl⟩
      exact hyes _ rfl
    · rintro ⟨t, rfl⟩
      exact hno _ rfl

theorem Sound.value_fits (ih : Sound fuel) (h : valueAt fuel cs = some (v, rest)) :
    ∃ body, cs = body ++ rest ∧ Fits .value body := by
  obtain ⟨lead, body, trail, rfl, hlead, htrail, hmarked | ⟨hbare, rfl, -⟩⟩ := ih.value _ _ _ h
  · exact ⟨lead ++ (body ++ trail), by simp, .framed hlead htrail hmarked⟩
  · exact ⟨lead ++ body, by simp, .bare hlead hbare⟩

theorem Sound.items_succ (ih : Sound fuel) (h : itemsAt (fuel + 1) cs = some (vs, rest)) :
    ∃ body, cs = body ++ rest ∧ Fits .items body := by
  rw [itemsAt.eq_def] at h
  split at h
  · cases h
  · cases h
    exact ⟨[']'], rfl, .noItem⟩
  · next hfuel hopen =>
    cases hfuel
    split at h
    · next hvalue =>
      obtain ⟨⟨ws, tail⟩, hws, heq⟩ := Option.map_eq_some_iff.mp h
      cases heq
      obtain ⟨first, rfl, hfirst⟩ := ih.value_fits hvalue
      obtain ⟨more, rfl, hmore⟩ := ih.items _ _ _ hws
      exact ⟨first ++ ',' :: more, by simp, .item hfirst hmore⟩
    · next hvalue =>
      cases h
      obtain ⟨first, rfl, hfirst⟩ := ih.value_fits hvalue
      exact ⟨first ++ [']'], by simp, .lastItem hfirst⟩
    · cases h

theorem keyText_of_key? {k : String} {cs tail : List Char}
    (h : key? (skipGap cs) = some (k, tail)) :
    ∃ key, cs = key ++ skipGap tail ∧ KeyText key := by
  obtain ⟨lead, body, rfl, hskip, hlead, hbody⟩ := exists_gaps cs
  have hkey : ∀ name : List Char, body = name ++ tail →
      (∀ {trail : List Char}, Gaps trail → KeyText (lead ++ (name ++ trail))) →
      ∃ key, lead ++ body = key ++ skipGap tail ∧ KeyText key := by
    rintro name rfl hname
    obtain ⟨trail, tail, rfl, hskip', htrail, -⟩ := exists_gaps tail
    exact ⟨lead ++ (name ++ trail), by simp [hskip'], hname htrail⟩
  rw [hskip, key?.eq_def] at h
  split at h
  · obtain ⟨p, hp, heq⟩ := Option.map_eq_some_iff.mp h
    cases heq
    obtain ⟨t, u, ht, rfl, -⟩ := quotedText_of_quotedBody hp
    refine hkey ('"' :: (t ++ ['"'])) (by simp) fun htrail => ?_
    simpa using KeyText.quoted hlead htrail ht
  · dsimp only at h
    split at h
    · cases h
    · next hne =>
      obtain ⟨name, rest, rfl, hname, hrest⟩ := exists_span isKeyChar body
      rw [(span_append hname hrest).1, List.drop_left] at h
      rw [(span_append hname hrest).1] at hne
      cases h
      exact hkey name rfl fun htrail => .plain hlead htrail (by simpa using hne) hname

theorem Sound.entries_succ (ih : Sound fuel) (h : entriesAt (fuel + 1) cs = some (es, rest)) :
    ∃ body, cs = body ++ rest ∧ Fits .entries body := by
  rw [entriesAt.eq_def] at h
  split at h
  · cases h
  · cases h
    exact ⟨['\x7d'], rfl, .noEntry⟩
  · next hfuel hopen =>
    cases hfuel
    split at h
    · cases h
    · next hkey =>
      obtain ⟨key, rfl, hkeytext⟩ := keyText_of_key? hkey
      split at h
      · next hsign =>
        rw [hsign]
        split at h
        · next hvalue =>
          obtain ⟨⟨fs, tail⟩, hfs, heq⟩ := Option.map_eq_some_iff.mp h
          cases heq
          obtain ⟨first, rfl, hfirst⟩ := ih.value_fits hvalue
          obtain ⟨more, rfl, hmore⟩ := ih.entries _ _ _ hfs
          exact ⟨key ++ '=' :: (first ++ ',' :: more), by simp, .entry hkeytext hfirst hmore⟩
        · next hvalue =>
          cases h
          obtain ⟨first, rfl, hfirst⟩ := ih.value_fits hvalue
          exact ⟨key ++ '=' :: (first ++ ['\x7d']), by simp, .lastEntry hkeytext hfirst⟩
        · cases h
      · cases h

theorem sound (fuel : Nat) : Sound fuel := by
  induction fuel with
  | zero =>
    refine ⟨fun _ _ _ h => ?_, fun _ _ _ h => ?_, fun _ _ _ h => ?_⟩
    · rw [valueAt] at h
      cases h
    · rw [itemsAt] at h
      cases h
    · rw [entriesAt] at h
      cases h
  | succ fuel ih =>
    exact ⟨fun _ _ _ => ih.value_succ, fun _ _ _ => ih.items_succ, fun _ _ _ => ih.entries_succ⟩

end Sound

end BrokerGate.Config
