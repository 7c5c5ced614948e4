import BrokerGate.Proofs.Json.Read
import BrokerGate.Proofs.Json.Scan

/-! The outline of a text is that of the array or the object that it is. -/
namespace BrokerGate.Json
open Text

section Blanks
variable {lead cs rest : List Char}

theorem exists_blanks (cs : List Char) : ∃ lead body, cs = lead ++ body ∧ skipBlank cs = body ∧
    Blanks lead ∧ ∀ c ∈ body.head?, isJsonBlank c = false := exists_dropWhile isJsonBlank cs

theorem skipBlank_append (h : Blanks lead) (cs : List Char) :
    skipBlank (lead ++ cs) = skipBlank cs := List.dropWhile_append_of_pos h

theorem skipBlank_of_head (h : ∀ c ∈ cs.head?, isJsonBlank c = false) : skipBlank cs = cs :=
  (span_append (a := []) (fun _ hc => nomatch hc) h).2

theorem skipBlank_skipBlank (cs : List Char) : skipBlank (skipBlank cs) = skipBlank cs :=
  skipBlank_of_head (head?_dropWhile isJsonBlank cs)

theorem blanks_append {gap : List Char} (h : Blanks lead) (h' : Blanks gap) :
    Blanks (lead ++ gap) := fun c hc =>
  (List.mem_append.mp hc).elim (h c) (h' c)

theorem fits_items_append {gap : List Char} {texts : List (List Char)} (hgap : Blanks gap)
    (h : Fits (.items texts) cs) : Fits (.items texts) (gap ++ cs) := by
  cases h with
  | lastItem hlead h htrail =>
    rw [← List.append_assoc]
    exact .lastItem (blanks_append hgap hlead) h htrail
  | item hlead h htrail hmore =>
    rw [← List.append_assoc]
    exact .item (blanks_append hgap hlead) h htrail hmore

theorem fits_members_append {gap : List Char} {texts : List (List Char × List Char)}
    (hgap : Blanks gap) (h : Fits (.members texts) cs) : Fits (.members texts) (gap ++ cs) := by
  cases h with
  | lastMember hfront hname hcolon hlead h htrail =>
    rw [← List.append_assoc]
    exact .lastMember (blanks_append hgap hfront) hname hcolon hlead h htrail
  | member hfront hname hcolon hlead h htrail hmore =>
    rw [← List.append_assoc]
    exact .member (blanks_append hgap hfront) hname hcolon hlead h htrail hmore

theorem upTo_append (body rest : List Char) : upTo (body ++ rest) rest = body := by
  rw [upTo, List.length_append, Nat.add_sub_cancel, List.take_left]

/-- The text of a name goes up to its closing quote. -/
theorem upTo_name (name rest : List Char) :
    '"' :: upTo (name ++ '"' :: rest) rest = '"' :: (name ++ ['"']) := by
  rw [← upTo_append (name ++ ['"']) rest, List.append_assoc, List.singleton_append]

theorem head_number (h : NumberText cs) : ∃ c more, cs = c :: more ∧
    ∀ d, d.isDigit = false → d ≠ '-' → c ≠ d := by
  obtain @⟨sign, whole, fraction, e, hsign, hwhole, -, -⟩ := h
  obtain ⟨d, more, rfl⟩ := List.exists_cons_of_ne_nil hwhole.digits.1
  have hdigit := hwhole.digits.2 d List.mem_cons_self
  rcases hsign with rfl | rfl
  · refine ⟨d, _, rfl, ?_⟩
    rintro _ hd - rfl
    rw [hdigit] at hd
    cases hd
  · exact ⟨'-', _, rfl, fun _ _ hd => hd.symm⟩

/-- A value begins with a character that is neither blank nor the end of an array. -/
theorem head_value (h : Fits .value cs) :
    ∃ c more, cs = c :: more ∧ isJsonBlank c = false ∧ c ≠ ']' := by
  cases h with
  | number h =>
    obtain ⟨c, more, rfl, hne⟩ := head_number h
    refine ⟨c, more, rfl, ?_, hne _ (by decide) (by decide)⟩
    simp only [isJsonBlank, Bool.or_eq_false_iff, decide_eq_false_iff_not]
    refine ⟨⟨⟨?_, ?_⟩, ?_⟩, ?_⟩ <;> exact hne _ (by decide) (by decide)
  | _ => exact ⟨_, _, rfl, by decide, by decide⟩

theorem skipBlank_value (hlead : Blanks lead) (h : Fits .value cs) (rest : List Char) :
    skipBlank (lead ++ (cs ++ rest)) = cs ++ rest := by
  obtain ⟨c, more, rfl, hblank, -⟩ := head_value h
  rw [skipBlank_append hlead, List.cons_append, skipBlank_cons hblank]

/-- The text of a value goes from its first character up to what follows it. -/
theorem upTo_value (hlead : Blanks lead) (h : Fits .value cs) (rest : List Char) :
    upTo (skipBlank (lead ++ (cs ++ rest))) rest = cs := by
  rw [skipBlank_value hlead h, upTo_append]

end Blanks

section Sound
variable {fuel : Nat} {cs rest : List Char} {texts : List (List Char)}
  {pairs : List (List Char × List Char)}

/-- What a number of steps passes over has the form of a part. -/
structure Sound (fuel : Nat) : Prop where
  value : ∀ cs rest, afterValue? fuel cs = some rest → ∃ lead body,
    cs = lead ++ (body ++ rest) ∧ Blanks lead ∧ Fits .value body
  items : ∀ cs rest, afterItems? fuel cs = some rest → ∃ texts body,
    cs = body ++ rest ∧ Fits (.items texts) body
  members : ∀ cs rest, afterMembers? fuel cs = some rest → ∃ texts body,
    cs = body ++ rest ∧ Fits (.members texts) body

theorem Sound.value_succ (ih : Sound fuel) (h : afterValue? (fuel + 1) cs = some rest) :
    ∃ lead body, cs = lead ++ (body ++ rest) ∧ Blanks lead ∧ Fits .value body := by
  obtain ⟨lead, body, rfl, hskip, hlead, -⟩ := exists_blanks cs
  suffices hfits : ∃ part, body = part ++ rest ∧ Fits .value part by
    obtain ⟨part, rfl, hpart⟩ := hfits
    exact ⟨lead, part, rfl, hlead, hpart⟩
  rw [afterValue?, hskip] at h
  split at h
  · obtain ⟨text, rfl, htext⟩ := stringText_of_afterString? h
    exact ⟨_, by simp, .string htext⟩
  · next cs =>
    obtain ⟨gap, inner, rfl, hskip, hgap, -⟩ := exists_blanks cs
    rw [hskip] at h
    split at h
    · cases h
      exact ⟨_, by simp, .noItem hgap⟩
    · obtain ⟨texts, part, rfl, hpart⟩ := ih.items _ _ h
      exact ⟨'[' :: (gap ++ part), by simp, .array (fits_items_append hgap hpart)⟩
  · next cs =>
    obtain ⟨gap, inner, rfl, hskip, hgap, -⟩ := exists_blanks cs
    rw [hskip] at h
    split at h
    · cases h
      exact ⟨_, by simp, .noMember hgap⟩
    · obtain ⟨texts, part, rfl, hpart⟩ := ih.members _ _ h
      exact ⟨'\x7b' :: (gap ++ part), by simp, .object (fits_members_append hgap hpart)⟩
  · cases h
    exact ⟨_, rfl, .null⟩
  · cases h
    exact ⟨_, rfl, .yes⟩
  · cases h
    exact ⟨_, rfl, .no⟩
  · obtain ⟨⟨text, tail⟩, htext, heq⟩ := Option.map_eq_some_iff.mp h
    cases heq
    obtain ⟨rfl, hnumber⟩ := numberText_of_number? htext
    exact ⟨text, rfl, .number hnumber⟩

theorem Sound.items_succ (ih : Sound fuel) (h : afterItems? (fuel + 1) cs = some rest) :
    ∃ texts body, cs = body ++ rest ∧ Fits (.items texts) body := by
  rw [afterItems?] at h
  cases hvalue : afterValue? fuel cs with
  | none =>
    rw [hvalue] at h
    cases h
  | some tail =>
    obtain ⟨lead, value, rfl, hlead, hfits⟩ := ih.value _ _ hvalue
    obtain ⟨trail, tail, rfl, hskip, htrail, -⟩ := exists_blanks tail
    rw [hvalue, Option.map_some, hskip] at h
    split at h
    · next heq =>
      cases heq
      obtain ⟨texts, more, rfl, hmore⟩ := ih.items _ _ h
      exact ⟨_, _, by simp, .item hlead hfits htrail hmore⟩
    · next heq =>
      cases heq
      cases h
      exact ⟨_, _, by simp, .lastItem hlead hfits htrail⟩
    · cases h

theorem Sound.members_succ (ih : Sound fuel) (h : afterMembers? (fuel + 1) cs = some rest) :
    ∃ texts body, cs = body ++ rest ∧ Fits (.members texts) body := by
  obtain ⟨front, body, rfl, hskip, hfront, -⟩ := exists_blanks cs
  rw [afterMembers?, hskip] at h
  split at h
  · next cs =>
    cases hname : afterString? cs with
    | none =>
      rw [hname] at h
      cases h
    | some tail =>
      obtain ⟨name, rfl, hnameText⟩ := stringText_of_afterString? hname
      obtain ⟨gap, tail, rfl, hskip, hgap, -⟩ := exists_blanks tail
      rw [hname, Option.map_some, hskip] at h
      split at h
      · next cs heq =>
        cases heq
        cases hvalue : afterValue? fuel cs with
        | none =>
          rw [hvalue] at h
          cases h
        | some tail =>
          obtain ⟨lead, value, rfl, hlead, hfits⟩ := ih.value _ _ hvalue
          obtain ⟨trail, tail, rfl, hskip, htrail, -⟩ := exists_blanks tail
          rw [hvalue, Option.map_some, hskip] at h
          split at h
          · next heq =>
            cases heq
            obtain ⟨texts, more, rfl, hmore⟩ := ih.members _ _ h
            exact ⟨_, _, by simp, .member hfront hnameText hgap hlead hfits htrail hmore⟩
          · next heq =>
            cases heq
            cases h
            exact ⟨_, _, by simp, .lastMember hfront hnameText hgap hlead hfits htrail⟩
          · cases h
      · cases h
  · cases h

theorem sound (fuel : Nat) : Sound fuel := by
  induction fuel with
  | zero => exact ⟨fun _ _ h => (nomatch h), fun _ _ h => (nomatch h), fun _ _ h => (nomatch h)⟩
  | succ fuel ih =>
    exact ⟨fun _ _ => ih.value_succ, fun _ _ => ih.items_succ, fun _ _ => ih.members_succ⟩

theorem fits_of_itemTexts (h : itemTexts fuel cs = some (texts, rest)) :
    ∃ body, cs = body ++ rest ∧ Fits (.items texts) body := by
  induction fuel generalizing cs texts with
  | zero => cases h
  | succ fuel ih =>
    rw [itemTexts] at h
    split at h
    · cases h
    · next tail hvalue =>
      obtain ⟨lead, value, rfl, hlead, hfits⟩ := (sound _).value _ _ hvalue
      have hitem := upTo_value hlead hfits tail
      obtain ⟨trail, tail, rfl, hskip, htrail, -⟩ := exists_blanks tail
      rw [hskip, hitem] at h
      split at h
      · obtain ⟨⟨more, tail⟩, hmore, heq⟩ := Option.map_eq_some_iff.mp h
        cases heq
        obtain ⟨body, rfl, hbody⟩ := ih hmore
        exact ⟨_, by simp, .item hlead hfits htrail hbody⟩
      · cases h
        exact ⟨_, by simp, .lastItem hlead hfits htrail⟩
      · cases h

theorem fits_of_memberTexts (h : memberTexts fuel cs = some (pairs, rest)) :
    ∃ body, cs = body ++ rest ∧ Fits (.members pairs) body := by
  induction fuel generalizing cs pairs with
  | zero => cases h
  | succ fuel ih =>
    obtain ⟨front, body, rfl, hskip, hfront, -⟩ := exists_blanks cs
    rw [memberTexts, hskip] at h
    split at h
    · split at h
      · cases h
      · next cs _ tail hname =>
        obtain ⟨name, rfl, hnameText⟩ := stringText_of_afterString? hname
        have htext := upTo_name name tail
        obtain ⟨gap, tail, rfl, hskip, hgap, -⟩ := exists_blanks tail
        rw [hskip, htext] at h
        split at h
        · split at h
          · cases h
          · next tail hvalue =>
            obtain ⟨lead, value, rfl, hlead, hfits⟩ := (sound _).value _ _ hvalue
            have hitem := upTo_value hlead hfits tail
            obtain ⟨trail, tail, rfl, hskip, htrail, -⟩ := exists_blanks tail
            rw [hskip, hitem] at h
            split at h
            · obtain ⟨⟨more, tail⟩, hmore, heq⟩ := Option.map_eq_some_iff.mp h
              cases heq
              obtain ⟨body, rfl, hbody⟩ := ih hmore
              exact ⟨_, by simp, .member hfront hnameText hgap hlead hfits htrail hbody⟩
            · cases h
              exact ⟨_, by simp, .lastMember hfront hnameText hgap hlead hfits htrail⟩
            · cases h
        · cases h
    · cases h

end Sound

section Complete
variable {fuel : Nat} {cs lead rest : List Char} {texts : List (List Char)}
  {pairs : List (List Char × List Char)}

/-- Whatever has the form of a part is passed over in as many steps as it has characters, and the
texts of its items or members are found. -/
def Accepted : Part → List Char → Prop
  | .value, cs => ∀ fuel rest, cs.length < fuel → EndsValue rest →
    afterValue? fuel (cs ++ rest) = some rest
  | .items texts, cs => ∀ fuel rest, cs.length < fuel →
    afterItems? fuel (cs ++ rest) = some rest ∧ itemTexts fuel (cs ++ rest) = some (texts, rest)
  | .members texts, cs => ∀ fuel rest, cs.length < fuel →
    afterMembers? fuel (cs ++ rest) = some rest ∧
      memberTexts fuel (cs ++ rest) = some (texts, rest)

theorem endsValue_append {c : Char} (htrail : Blanks lead) (hc : c = ',' ∨ c = ']' ∨ c = '\x7d')
    (rest : List Char) : EndsValue (lead ++ c :: rest) := by
  intro d hd
  cases lead with
  | nil =>
    cases hd
    exact .inr hc
  | cons b lead =>
    cases hd
    exact .inl (htrail _ List.mem_cons_self)

theorem afterValue?_append (hlead : Blanks lead) (fuel : Nat) (cs : List Char) :
    afterValue? fuel (lead ++ cs) = afterValue? fuel cs := by
  cases fuel with
  | zero => rfl
  | succ fuel => rw [afterValue?, afterValue?, skipBlank_append hlead]

theorem afterItems?_skipBlank (fuel : Nat) (cs : List Char) :
    afterItems? fuel (skipBlank cs) = afterItems? fuel cs := by
  obtain ⟨lead, body, rfl, hskip, hlead, -⟩ := exists_blanks cs
  cases fuel with
  | zero => rfl
  | succ fuel => rw [hskip, afterItems?, afterItems?, afterValue?_append hlead]

theorem afterMembers?_skipBlank (fuel : Nat) (cs : List Char) :
    afterMembers? fuel (skipBlank cs) = afterMembers? fuel cs := by
  cases fuel with
  | zero => rfl
  | succ fuel => rw [afterMembers?, afterMembers?, skipBlank_skipBlank]

theorem afterValue?_number (h : NumberText cs) (hrest : EndsValue rest) (fuel : Nat) :
    afterValue? (fuel + 1) (cs ++ rest) = some rest := by
  have hread := number?_of_numberText h hrest
  obtain ⟨c, more, rfl, hblank, -⟩ := head_value (.number h)
  obtain ⟨_, _, ⟨⟩, hne⟩ := head_number h
  rw [afterValue?, List.cons_append, skipBlank_cons hblank]
  split
  case h_7 =>
    rw [← List.cons_append, hread]
    rfl
  all_goals
    next heq => exact absurd (List.cons.inj heq).1 (hne _ (by decide) (by decide))

theorem blanks_nil : Blanks [] := fun _ hc => nomatch hc

/-- Items without the blanks in front of them, which begin with no closing bracket. -/
theorem exists_items (h : Fits (.items texts) cs) : ∃ body, Fits (.items texts) body ∧
    ∀ rest, skipBlank (cs ++ rest) = body ++ rest ∧ (body ++ rest).head? ≠ some ']' := by
  have hvalue : ∀ {lead value tail : List Char}, Blanks lead → Fits .value value → ∀ rest,
      skipBlank (lead ++ (value ++ tail) ++ rest) = value ++ tail ++ rest ∧
        (value ++ tail ++ rest).head? ≠ some ']' := by
    intro lead value tail hlead h rest
    rw [List.append_assoc, List.append_assoc, skipBlank_value hlead h]
    obtain ⟨c, more, rfl, -, hc⟩ := head_value h
    exact ⟨rfl, by simpa using hc⟩
  cases h with
  | lastItem hlead h htrail => exact ⟨_, .lastItem blanks_nil h htrail, hvalue hlead h⟩
  | item hlead h htrail hmore => exact ⟨_, .item blanks_nil h htrail hmore, hvalue hlead h⟩

theorem exists_members (h : Fits (.members pairs) cs) : ∃ body, Fits (.members pairs) body ∧
    ∀ rest, skipBlank (cs ++ rest) = body ++ rest ∧ (body ++ rest).head? = some '"' := by
  have hname : ∀ {front tail : List Char}, Blanks front → ∀ rest,
      skipBlank (front ++ '"' :: tail ++ rest) = '"' :: tail ++ rest ∧
        ('"' :: tail ++ rest).head? = some '"' := by
    intro front tail hfront rest
    rw [List.append_assoc, List.cons_append, skipBlank_append hfront, skipBlank_cons quote_visible]
    exact ⟨rfl, rfl⟩
  cases h with
  | lastMember hfront hn hgap hlead h htrail =>
    exact ⟨_, .lastMember blanks_nil hn hgap hlead h htrail, hname hfront⟩
  | member hfront hn hgap hlead h htrail hmore =>
    exact ⟨_, .member blanks_nil hn hgap hlead h htrail hmore, hname hfront⟩

theorem afterValue?_array (h : Fits (.items texts) cs)
    (hread : afterItems? fuel (cs ++ rest) = some rest) :
    afterValue? (fuel + 1) ('[' :: (cs ++ rest)) = some rest := by
  obtain ⟨body, -, hbody⟩ := exists_items h
  obtain ⟨hskip, hhead⟩ := hbody rest
  rw [← afterItems?_skipBlank, hskip] at hread
  rw [afterValue?, skipBlank_cons (by decide)]
  simp only [hskip]
  split
  · next heq =>
    rw [heq] at hhead
    exact absurd rfl hhead
  · exact hread

theorem afterValue?_object (h : Fits (.members pairs) cs)
    (hread : afterMembers? fuel (cs ++ rest) = some rest) :
    afterValue? (fuel + 1) ('\x7b' :: (cs ++ rest)) = some rest := by
  obtain ⟨body, -, hbody⟩ := exists_members h
  obtain ⟨hskip, hhead⟩ := hbody rest
  rw [← afterMembers?_skipBlank, hskip] at hread
  rw [afterValue?, skipBlank_cons (by decide)]
  simp only [hskip]
  split
  · next heq =>
    rw [heq] at hhead
    cases hhead
  · exact hread

section Items
variable {trail more : List Char} {c : Char}

/-- A value in an array or an object is passed over up to the character behind the blanks after
it. -/
theorem afterValue?_framed (hlead : Blanks lead) (htrail : Blanks trail)
    (hvalue : Accepted .value cs) (hfuel : cs.length < fuel)
    (hc : c = ',' ∨ c = ']' ∨ c = '\x7d') (more : List Char) :
    afterValue? fuel (lead ++ (cs ++ (trail ++ c :: more))) = some (trail ++ c :: more) ∧
      skipBlank (trail ++ c :: more) = c :: more := by
  refine ⟨?_, ?_⟩
  · rw [afterValue?_append hlead]
    exact hvalue _ _ hfuel (endsValue_append htrail hc more)
  · rw [skipBlank_append htrail]
    exact skipBlank_cons (by rcases hc with rfl | rfl | rfl <;> decide) more

theorem length_framed_lt (lead cs trail more : List Char) :
    cs.length < (lead ++ (cs ++ (trail ++ more))).length + 1 := by
  simp only [List.length_append]
  omega

theorem accepted_lastItem (hlead : Blanks lead) (h : Fits .value cs) (htrail : Blanks trail)
    (hvalue : Accepted .value cs) :
    Accepted (.items [cs]) (lead ++ (cs ++ (trail ++ [']']))) := by
  intro fuel rest hfuel
  obtain ⟨fuel, rfl⟩ := Nat.exists_eq_succ_of_ne_zero (Nat.ne_zero_of_lt hfuel)
  simp only [List.length_append, List.length_singleton] at hfuel
  simp only [List.append_assoc, List.singleton_append]
  have hclose : ']' = ',' ∨ ']' = ']' ∨ ']' = '\x7d' := .inr (.inl rfl)
  have hfuel' : cs.length < fuel := by omega
  constructor
  · obtain ⟨hread, hskip⟩ := afterValue?_framed hlead htrail hvalue hfuel' hclose rest
    rw [afterItems?, hread, Option.map_some, hskip]
    rfl
  · obtain ⟨hread, hskip⟩ := afterValue?_framed hlead htrail hvalue
      (length_framed_lt lead cs trail (']' :: rest)) hclose rest
    rw [itemTexts, hread]
    simp only [upTo_value hlead h, hskip]

theorem accepted_item (hlead : Blanks lead) (h : Fits .value cs) (htrail : Blanks trail)
    (hvalue : Accepted .value cs) (hmore : Accepted (.items texts) more) :
    Accepted (.items (cs :: texts)) (lead ++ (cs ++ (trail ++ ',' :: more))) := by
  intro fuel rest hfuel
  obtain ⟨fuel, rfl⟩ := Nat.exists_eq_succ_of_ne_zero (Nat.ne_zero_of_lt hfuel)
  simp only [List.length_append, List.length_cons] at hfuel
  simp only [List.append_assoc, List.cons_append]
  have hcomma : ',' = ',' ∨ ',' = ']' ∨ ',' = '\x7d' := .inl rfl
  have hfuel' : cs.length < fuel := by omega
  obtain ⟨hitems, htexts⟩ := hmore fuel rest (by omega)
  constructor
  · obtain ⟨hread, hskip⟩ := afterValue?_framed hlead htrail hvalue hfuel' hcomma (more ++ rest)
    rw [afterItems?, hread, Option.map_some, hskip]
    exact hitems
  · obtain ⟨hread, hskip⟩ := afterValue?_framed hlead htrail hvalue
      (length_framed_lt lead cs trail (',' :: (more ++ rest))) hcomma (more ++ rest)
    rw [itemTexts, hread]
    simp only [upTo_value hlead h, hskip, htexts, Option.map_some]

end Items

section Members
variable {front name gap trail more tail : List Char}

/-- The name of a member is passed over up to the colon. -/
theorem afterString?_name (hname : StringText name) (hgap : Blanks gap) (tail : List Char) :
    afterString? (name ++ '"' :: (gap ++ ':' :: tail)) = some (gap ++ ':' :: tail) ∧
      skipBlank (gap ++ ':' :: tail) = ':' :: tail := by
  refine ⟨afterString?_of_stringText hname _, ?_⟩
  rw [skipBlank_append hgap]
  exact skipBlank_cons (by decide) tail

theorem skipBlank_front (hfront : Blanks front) (cs : List Char) :
    skipBlank (front ++ '"' :: cs) = '"' :: cs := by
  rw [skipBlank_append hfront, skipBlank_cons quote_visible]

theorem accepted_lastMember (hfront : Blanks front) (hname : StringText name) (hgap : Blanks gap)
    (hlead : Blanks lead) (h : Fits .value cs) (htrail : Blanks trail)
    (hvalue : Accepted .value cs) : Accepted (.members [('"' :: (name ++ ['"']), cs)])
      (front ++ '"' :: (name ++ '"' :: (gap ++ ':' :: (lead ++ (cs ++ (trail ++ ['\x7d'])))))) := by
  intro fuel rest hfuel
  obtain ⟨fuel, rfl⟩ := Nat.exists_eq_succ_of_ne_zero (Nat.ne_zero_of_lt hfuel)
  simp only [List.length_append, List.length_cons, List.length_nil] at hfuel
  simp only [List.append_assoc, List.cons_append, List.nil_append]
  have hclose : '\x7d' = ',' ∨ '\x7d' = ']' ∨ '\x7d' = '\x7d' := .inr (.inr rfl)
  have hfuel' : cs.length < fuel := by omega
  obtain ⟨hread, hskip⟩ := afterString?_name hname hgap (lead ++ (cs ++ (trail ++ '\x7d' :: rest)))
  constructor
  · obtain ⟨hvalue, hend⟩ := afterValue?_framed hlead htrail hvalue hfuel' hclose rest
    rw [afterMembers?]
    simp only [skipBlank_front hfront, hread, Option.map_some, hskip, hvalue, hend]
  · obtain ⟨hvalue, hend⟩ := afterValue?_framed hlead htrail hvalue
      (length_framed_lt lead cs trail ('\x7d' :: rest)) hclose rest
    rw [memberTexts]
    simp only [skipBlank_front hfront, hread, hskip, hvalue, hend, upTo_value hlead h, upTo_name]

theorem accepted_member (hfront : Blanks front) (hname : StringText name) (hgap : Blanks gap)
    (hlead : Blanks lead) (h : Fits .value cs) (htrail : Blanks trail)
    (hvalue : Accepted .value cs) (hmore : Accepted (.members pairs) more) :
    Accepted (.members (('"' :: (name ++ ['"']), cs) :: pairs))
      (front ++ '"' ::
        (name ++ '"' :: (gap ++ ':' :: (lead ++ (cs ++ (trail ++ ',' :: more)))))) := by
  intro fuel rest hfuel
  obtain ⟨fuel, rfl⟩ := Nat.exists_eq_succ_of_ne_zero (Nat.ne_zero_of_lt hfuel)
  simp only [List.length_append, List.length_cons] at hfuel
  simp only [List.append_assoc, List.cons_append]
  have hcomma : ',' = ',' ∨ ',' = ']' ∨ ',' = '\x7d' := .inl rfl
  have hfuel' : cs.length < fuel := by omega
  obtain ⟨hmembers, htexts⟩ := hmore fuel rest (by omega)
  obtain ⟨hread, hskip⟩ := afterString?_name hname hgap
    (lead ++ (cs ++ (trail ++ ',' :: (more ++ rest))))
  constructor
  · obtain ⟨hvalue, hend⟩ := afterValue?_framed hlead htrail hvalue hfuel' hcomma (more ++ rest)
    rw [afterMembers?]
    simp only [skipBlank_front hfront, hread, Option.map_some, hskip, hvalue, hend, hmembers]
  · obtain ⟨hvalue, hend⟩ := afterValue?_framed hlead htrail hvalue
      (length_framed_lt lead cs trail (',' :: (more ++ rest))) hcomma (more ++ rest)
    rw [memberTexts]
    simp only [skipBlank_front hfront, hread, hskip, hvalue, hend, upTo_value hlead h, upTo_name,
      htexts, Option.map_some]

end Members

theorem accepted_of_fits {p : Part} (h : Fits p cs) : Accepted p cs := by
  induction h with
  | lastItem hlead h htrail ih => exact accepted_lastItem hlead h htrail ih
  | item hlead h htrail _ ih ihmore => exact accepted_item hlead h htrail ih ihmore
  | lastMember hfront hname hgap hlead h htrail ih =>
    exact accepted_lastMember hfront hname hgap hlead h htrail ih
  | member hfront hname hgap hlead h htrail _ ih ihmore =>
    exact accepted_member hfront hname hgap hlead h htrail ih ihmore
  | number h =>
    intro fuel rest hfuel hrest
    obtain ⟨fuel, rfl⟩ := Nat.exists_eq_succ_of_ne_zero (Nat.ne_zero_of_lt hfuel)
    exact afterValue?_number h hrest fuel
  | string h =>
    intro fuel rest hfuel _
    obtain ⟨fuel, rfl⟩ := Nat.exists_eq_succ_of_ne_zero (Nat.ne_zero_of_lt hfuel)
    rw [List.cons_append, List.append_assoc, afterValue?, skipBlank_cons quote_visible]
    exact afterString?_of_stringText h rest
  | noItem hgap =>
    have hclose : isJsonBlank ']' = false := by decide
    intro fuel rest hfuel _
    obtain ⟨fuel, rfl⟩ := Nat.exists_eq_succ_of_ne_zero (Nat.ne_zero_of_lt hfuel)
    rw [List.cons_append, List.append_assoc, afterValue?, skipBlank_cons (by decide)]
    simp only [skipBlank_append hgap, List.singleton_append, skipBlank_cons hclose]
  | noMember hgap =>
    have hclose : isJsonBlank '\x7d' = false := by decide
    intro fuel rest hfuel _
    obtain ⟨fuel, rfl⟩ := Nat.exists_eq_succ_of_ne_zero (Nat.ne_zero_of_lt hfuel)
    rw [List.cons_append, List.append_assoc, afterValue?, skipBlank_cons (by decide)]
    simp only [skipBlank_append hgap, List.singleton_append, skipBlank_cons hclose]
  | array h ih =>
    intro fuel rest hfuel _
    obtain ⟨fuel, rfl⟩ := Nat.exists_eq_succ_of_ne_zero (Nat.ne_zero_of_lt hfuel)
    exact afterValue?_array h (ih fuel rest (Nat.lt_of_succ_lt_succ hfuel)).1
  | object h ih =>
    intro fuel rest hfuel _
    obtain ⟨fuel, rfl⟩ := Nat.exists_eq_succ_of_ne_zero (Nat.ne_zero_of_lt hfuel)
    exact afterValue?_object h (ih fuel rest (Nat.lt_of_succ_lt_succ hfuel)).1
  | _ =>
    intro fuel rest hfuel _
    obtain ⟨fuel, rfl⟩ := Nat.exists_eq_succ_of_ne_zero (Nat.ne_zero_of_lt hfuel)
    rfl

theorem ended_eq_some_iff {α β : Type} {f : α → β} {a : α} {b : β} :
    ended f (a, rest) = some b ↔ Blanks rest ∧ f a = b := by
  obtain ⟨lead, body, rfl, hskip, hlead, hbody⟩ := exists_blanks rest
  rw [ended, hskip]
  cases body with
  | nil =>
    rw [List.append_nil]
    exact ⟨fun h => ⟨hlead, Option.some.inj h⟩, fun h => congrArg some h.2⟩
  | cons c body =>
    have hc : isJsonBlank c = false := hbody c rfl
    refine ⟨fun h => (nomatch h), fun h => ?_⟩
    rw [h.1 c (by simp)] at hc
    cases hc

theorem arrayText_of_outline? (h : outline? cs = some (.items texts)) : ArrayText texts cs := by
  obtain ⟨lead, body, rfl, hskip, hlead, -⟩ := exists_blanks cs
  rw [outline?, hskip] at h
  split at h
  · next cs =>
    obtain ⟨gap, inner, rfl, hskip, hgap, -⟩ := exists_blanks cs
    rw [hskip] at h
    split at h
    · obtain ⟨htrail, heq⟩ := ended_eq_some_iff.mp h
      cases heq
      exact .none hlead hgap htrail
    · obtain ⟨⟨found, rest⟩, hfound, h⟩ := Option.bind_eq_some_iff.mp h
      obtain ⟨htrail, heq⟩ := ended_eq_some_iff.mp h
      cases heq
      obtain ⟨part, rfl, hpart⟩ := fits_of_itemTexts hfound
      rw [← List.append_assoc]
      exact .some hlead (fits_items_append hgap hpart) htrail
  · split at h
    · cases (ended_eq_some_iff.mp h).2
    · obtain ⟨⟨found, rest⟩, -, h⟩ := Option.bind_eq_some_iff.mp h
      cases (ended_eq_some_iff.mp h).2
  · cases h

theorem outline?_of_arrayText (h : ArrayText texts cs) : outline? cs = some (.items texts) := by
  cases h with
  | @none lead gap trail hlead hgap htrail =>
    have hclose : isJsonBlank ']' = false := by decide
    rw [outline?, skipBlank_append hlead, skipBlank_cons (by decide)]
    simp only [skipBlank_append hgap, skipBlank_cons hclose]
    exact ended_eq_some_iff.mpr ⟨htrail, rfl⟩
  | @some _ lead cs trail hlead h htrail =>
    obtain ⟨body, hfits, hbody⟩ := exists_items h
    obtain ⟨hskip, hhead⟩ := hbody trail
    have hread := (accepted_of_fits hfits ((body ++ trail).length + 1) trail
      (by rw [List.length_append]; omega)).2
    rw [outline?, skipBlank_append hlead, skipBlank_cons (by decide)]
    simp only [hskip]
    split
    · next heq =>
      rw [heq] at hhead
      exact absurd rfl hhead
    · rw [hread]
      exact ended_eq_some_iff.mpr ⟨htrail, rfl⟩

/-- The outline of a text gives these items exactly if the text is an array of them. -/
theorem outline?_eq_items_iff : outline? cs = some (.items texts) ↔ ArrayText texts cs :=
  ⟨arrayText_of_outline?, outline?_of_arrayText⟩

theorem objectText_of_outline? (h : outline? cs = some (.members pairs)) : ObjectText pairs cs := by
  obtain ⟨lead, body, rfl, hskip, hlead, -⟩ := exists_blanks cs
  rw [outline?, hskip] at h
  split at h
  · split at h
    · cases (ended_eq_some_iff.mp h).2
    · obtain ⟨⟨found, rest⟩, -, h⟩ := Option.bind_eq_some_iff.mp h
      cases (ended_eq_some_iff.mp h).2
  · next cs =>
    obtain ⟨gap, inner, rfl, hskip, hgap, -⟩ := exists_blanks cs
    rw [hskip] at h
    split at h
    · obtain ⟨htrail, heq⟩ := ended_eq_some_iff.mp h
      cases heq
      exact .none hlead hgap htrail
    · obtain ⟨⟨found, rest⟩, hfound, h⟩ := Option.bind_eq_some_iff.mp h
      obtain ⟨htrail, heq⟩ := ended_eq_some_iff.mp h
      cases heq
      obtain ⟨part, rfl, hpart⟩ := fits_of_memberTexts hfound
      rw [← List.append_assoc]
      exact .some hlead (fits_members_append hgap hpart) htrail
  · cases h

theorem outline?_of_objectText (h : ObjectText pairs cs) : outline? cs = some (.members pairs) := by
  cases h with
  | @none lead gap trail hlead hgap htrail =>
    have hclose : isJsonBlank '\x7d' = false := by decide
    rw [outline?, skipBlank_append hlead, skipBlank_cons (by decide)]
    simp only [skipBlank_append hgap, skipBlank_cons hclose]
    exact ended_eq_some_iff.mpr ⟨htrail, rfl⟩
  | @some _ lead cs trail hlead h htrail =>
    obtain ⟨body, hfits, hbody⟩ := exists_members h
    obtain ⟨hskip, hhead⟩ := hbody trail
    have hread := (accepted_of_fits hfits ((body ++ trail).length + 1) trail
      (by rw [List.length_append]; omega)).2
    rw [outline?, skipBlank_append hlead, skipBlank_cons (by decide)]
    simp only [hskip]
    split
    · next heq =>
      rw [heq] at hhead
      cases hhead
    · rw [hread]
      exact ended_eq_some_iff.mpr ⟨htrail, rfl⟩

/-- The outline of a text gives these members exactly if the text is an object of them. -/
theorem outline?_eq_members_iff : outline? cs = some (.members pairs) ↔ ObjectText pairs cs :=
  ⟨objectText_of_outline?, outline?_of_objectText⟩

end Complete

end BrokerGate.Json
