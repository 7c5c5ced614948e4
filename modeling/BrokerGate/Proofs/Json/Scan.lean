import BrokerGate.Proofs.Json.Grammar

/-! Strings and numbers are read exactly as far as they go. -/
namespace BrokerGate.Json
open Text Decimal

section Strings
variable {cs rest body u ds acc : List Char} {fuel n : Nat} {s : String} {c d e : Char}

theorem stringText_of_afterString? (h : afterString? cs = some rest) :
    ∃ body, cs = body ++ '"' :: rest ∧ StringText body := by
  fun_induction afterString? cs with
  | case1 cs =>
    cases h
    exact ⟨[], rfl, .nil⟩
  | case2 a b c d cs hds ih =>
    obtain ⟨body, rfl, hbody⟩ := ih h
    exact ⟨'\\' :: 'u' :: ([a, b, c, d] ++ body), rfl,
      .unicode rfl (List.all_eq_true.mp hds) hbody⟩
  | case4 e cs hunicode he ih =>
    obtain ⟨body, rfl, hbody⟩ := ih h
    have hmem : e ∈ simpleEscapes.map Prod.fst := List.contains_iff_mem.mp he
    obtain ⟨x, hx, rfl⟩ := List.mem_map.mp hmem
    exact ⟨'\\' :: x.1 :: body, rfl, .simple hx hbody⟩
  | case7 c cs hquote hunicode hslash hcontrol ih =>
    have hplain : c ≠ '\\' := by
      rintro rfl
      cases cs with
      | nil => cases h
      | cons e cs => exact hslash e cs rfl rfl
    obtain ⟨body, rfl, hbody⟩ := ih h
    exact ⟨c :: body, rfl, .plain hquote hplain (Nat.le_of_not_lt hcontrol) hbody⟩
  | _ => cases h

theorem afterString?_plain (hquote : c ≠ '"') (hslash : c ≠ '\\') (hcontrol : 0x20 ≤ c.toNat) :
    afterString? (c :: cs) = afterString? cs := by
  rw [afterString?.eq_def]
  split
  · next heq => exact absurd (List.cons.inj heq).1 hquote
  · next heq => exact absurd (List.cons.inj heq).1 hslash
  · next heq => exact absurd (List.cons.inj heq).1 hslash
  · next heq =>
    cases heq
    rw [if_neg (Nat.not_lt.mpr hcontrol)]
  · next heq => cases heq

theorem afterString?_simple (he : (e, c) ∈ simpleEscapes) :
    afterString? ('\\' :: e :: cs) = afterString? cs := by
  simp only [simpleEscapes, List.mem_cons, Prod.mk.injEq, List.not_mem_nil, or_false] at he
  rcases he with ⟨rfl, -⟩ | ⟨rfl, -⟩ | ⟨rfl, -⟩ | ⟨rfl, -⟩ | ⟨rfl, -⟩ | ⟨rfl, -⟩ | ⟨rfl, -⟩ |
    ⟨rfl, -⟩ <;> rfl

theorem afterString?_unicode (hlength : ds.length = 4)
    (hds : ∀ d ∈ ds, (hexDigit? d).isSome = true) :
    afterString? ('\\' :: 'u' :: (ds ++ cs)) = afterString? cs := by
  obtain ⟨a, b, c, d, rfl⟩ : ∃ a b c d, ds = [a, b, c, d] := by
    match ds, hlength with
    | [a, b, c, d], _ => exact ⟨a, b, c, d, rfl⟩
  exact if_pos (List.all_eq_true.mpr hds)

theorem afterString?_of_stringText (h : StringText body) (rest : List Char) :
    afterString? (body ++ '"' :: rest) = some rest := by
  induction h with
  | nil => rfl
  | plain hquote hslash hcontrol _ ih =>
    exact (afterString?_plain hquote hslash hcontrol).trans ih
  | simple he _ ih => exact (afterString?_simple he).trans ih
  | unicode hlength hds _ ih =>
    rw [List.cons_append, List.cons_append, List.append_assoc]
    exact (afterString?_unicode hlength hds).trans ih

theorem exists_hexQuad? (h : hexQuad? cs = some (n, rest)) :
    ∃ ds, cs = ds ++ rest ∧ hexQuad? ds = some (n, []) := by
  match cs with
  | a :: b :: c :: d :: cs =>
    refine ⟨[a, b, c, d], ?_⟩
    simp only [hexQuad?] at h ⊢
    split at h
    · cases h
      exact ⟨rfl, rfl⟩
    · cases h
  | [] | [_] | [_, _] | [_, _, _] => cases h

theorem hexQuad?_append (h : hexQuad? ds = some (n, [])) (rest : List Char) :
    hexQuad? (ds ++ rest) = some (n, rest) := by
  match ds with
  | a :: b :: c :: d :: ds =>
    simp only [List.cons_append, hexQuad?] at h ⊢
    split at h
    · cases h
      rfl
    · cases h
  | [] | [_] | [_, _] | [_, _, _] => cases h

/-- What follows a backslash is one of the escapes. -/
theorem spells_of_escape? (h : escape? cs = some (d, rest)) : ∃ e, cs = e ++ rest ∧
    ∀ {body u}, Spells body u → Spells ('\\' :: (e ++ body)) (d :: u) := by
  have hsimple : ∀ e c, (e, c) ∈ simpleEscapes → cs = e :: rest → c = d → ∃ e, cs = e ++ rest ∧
      ∀ {body u}, Spells body u → Spells ('\\' :: (e ++ body)) (d :: u) := by
    rintro e c he rfl rfl
    exact ⟨[e], rfl, fun h => .simple he h⟩
  unfold escape? at h
  split at h
  case h_9 =>
    rw [unicodeEscape?] at h
    split at h
    · cases h
    · next n more hquad =>
      obtain ⟨ds, rfl, hds⟩ := exists_hexQuad? hquad
      split at h
      · next hhigh =>
        split at h
        · next more =>
          split at h
          · next hquad' =>
            obtain ⟨ds', rfl, hds'⟩ := exists_hexQuad? hquad'
            split at h
            · next hlow =>
              obtain ⟨rfl, rfl⟩ := Prod.mk.inj (Option.some.inj h)
              refine ⟨'u' :: (ds ++ '\\' :: 'u' :: ds'), by simp, ?_⟩
              intro body u hbody
              have hpair := Spells.pair hds hds' hhigh hlow hbody
              simpa using hpair
            · cases h
          · cases h
        · cases h
      · next hhigh =>
        split at h
        · cases h
        · next hlow =>
          obtain ⟨rfl, rfl⟩ := Prod.mk.inj (Option.some.inj h)
          refine ⟨'u' :: ds, rfl, fun hbody => ?_⟩
          exact .unit hds (by simpa using hhigh) (by simpa using hlow) hbody
  case h_10 => cases h
  all_goals
    cases h
    refine hsimple _ _ ?_ rfl rfl
    simp [simpleEscapes]

theorem spells_of_stringBody (h : stringBody fuel acc cs = some (s, rest)) : ∃ body u,
    cs = body ++ '"' :: rest ∧ Spells body u ∧ s = String.ofList (acc.reverse ++ u) := by
  fun_induction stringBody fuel acc cs with
  | case1 acc fuel cs =>
    cases h
    exact ⟨[], [], rfl, .nil, by simp⟩
  | case2 acc fuel cs d more hescape hne ih =>
    obtain ⟨e, rfl, hspells⟩ := spells_of_escape? hescape
    obtain ⟨body, u, rfl, hbody, rfl⟩ := ih h
    exact ⟨'\\' :: (e ++ body), d :: u, by simp, hspells hbody, by simp⟩
  | case5 acc fuel c cs hquote hslash hcontrol ih =>
    obtain ⟨body, u, rfl, hbody, rfl⟩ := ih h
    exact ⟨c :: body, c :: u, rfl, .plain hquote hslash (Nat.le_of_not_lt hcontrol) hbody, by simp⟩
  | _ => cases h

theorem escape?_simple (he : (e, c) ∈ simpleEscapes) : escape? (e :: cs) = some (c, cs) := by
  simp only [simpleEscapes, List.mem_cons, Prod.mk.injEq, List.not_mem_nil, or_false] at he
  rcases he with ⟨rfl, rfl⟩ | ⟨rfl, rfl⟩ | ⟨rfl, rfl⟩ | ⟨rfl, rfl⟩ | ⟨rfl, rfl⟩ | ⟨rfl, rfl⟩ |
    ⟨rfl, rfl⟩ | ⟨rfl, rfl⟩ <;> rfl

theorem stringBody_escape (h : escape? cs = some (d, rest)) :
    stringBody (fuel + 1) acc ('\\' :: cs) = stringBody fuel (d :: acc) rest := by
  rw [stringBody, if_neg (by decide), if_pos rfl, h]

theorem stringBody_of_spells (h : Spells body u) (acc rest : List Char)
    (hfuel : body.length < fuel) :
    stringBody fuel acc (body ++ '"' :: rest) = some (String.ofList (acc.reverse ++ u), rest) := by
  induction h generalizing fuel acc with
  | nil =>
    obtain ⟨fuel, rfl⟩ := Nat.exists_eq_succ_of_ne_zero (Nat.ne_zero_of_lt hfuel)
    rw [List.nil_append, stringBody, if_pos rfl, List.append_nil]
  | plain hquote hslash hcontrol _ ih =>
    obtain ⟨fuel, rfl⟩ := Nat.exists_eq_succ_of_ne_zero (Nat.ne_zero_of_lt hfuel)
    rw [List.cons_append, stringBody, if_neg hquote, if_neg hslash,
      if_neg (Nat.not_lt.mpr hcontrol), ih _ (Nat.lt_of_succ_lt_succ hfuel)]
    simp
  | simple he _ ih =>
    obtain ⟨fuel, rfl⟩ := Nat.exists_eq_succ_of_ne_zero (Nat.ne_zero_of_lt hfuel)
    simp only [List.length_cons] at hfuel
    rw [List.cons_append, List.cons_append, stringBody_escape (escape?_simple he), ih _ (by omega)]
    simp
  | @unit ds cs u n hds hhigh hlow _ ih =>
    obtain ⟨fuel, rfl⟩ := Nat.exists_eq_succ_of_ne_zero (Nat.ne_zero_of_lt hfuel)
    simp only [List.length_cons, List.length_append] at hfuel
    have hescape : escape? ('u' :: (ds ++ (cs ++ '"' :: rest))) =
        some (Char.ofNat n, cs ++ '"' :: rest) := by
      rw [escape?, unicodeEscape?, hexQuad?_append hds]
      simp [hhigh, hlow]
    rw [List.cons_append, List.cons_append, List.append_assoc, stringBody_escape hescape,
      ih _ (by omega)]
    simp
  | @pair ds ds' cs u n m hds hds' hhigh hlow _ ih =>
    obtain ⟨fuel, rfl⟩ := Nat.exists_eq_succ_of_ne_zero (Nat.ne_zero_of_lt hfuel)
    simp only [List.length_cons, List.length_append] at hfuel
    have hescape : escape? ('u' :: (ds ++ '\\' :: 'u' :: (ds' ++ (cs ++ '"' :: rest)))) =
        some (Char.ofNat (0x10000 + (n - 0xD800) * 1024 + (m - 0xDC00)), cs ++ '"' :: rest) := by
      rw [escape?, unicodeEscape?, hexQuad?_append hds]
      simp [hhigh, hlow, hexQuad?_append hds']
    rw [List.cons_append, List.cons_append, List.append_assoc, List.cons_append, List.cons_append,
      List.append_assoc, stringBody_escape hescape, ih _ (by omega)]
    simp

end Strings

section Numbers
variable {cs rest ds part : List Char}

theorem exists_digitRun (cs : List Char) : cs = (digitRun cs).1 ++ (digitRun cs).2 ∧
    ∀ c ∈ (digitRun cs).1, c.isDigit = true :=
  ⟨List.takeWhile_append_dropWhile.symm, List.all_eq_true.mp List.all_takeWhile⟩

theorem digitRun_append (hds : Digits ds) (hrest : ∀ c ∈ rest.head?, c.isDigit = false) :
    digitRun (ds ++ rest) = (ds, rest) := by
  obtain ⟨htake, hdrop⟩ := span_append hds.2 hrest
  rw [digitRun, htake, hdrop]

theorem exists_signIn (signs cs : List Char) : cs = (signIn signs cs).1 ++ (signIn signs cs).2 ∧
    ((signIn signs cs).1 = [] ∨ ∃ c ∈ signs, (signIn signs cs).1 = [c]) := by
  cases cs with
  | nil => exact ⟨rfl, .inl rfl⟩
  | cons c cs =>
    rw [signIn]
    split
    · next hc => exact ⟨rfl, .inr ⟨c, List.contains_iff_mem.mp hc, rfl⟩⟩
    · exact ⟨rfl, .inl rfl⟩

/-- A sign, or none, in front of digits. -/
theorem signIn_append {signs sign : List Char} (hsign : sign = [] ∨ ∃ c ∈ signs, sign = [c])
    (hds : Digits ds) (hsigns : ∀ c ∈ signs, c.isDigit = false) (rest : List Char) :
    signIn signs (sign ++ (ds ++ rest)) = (sign, ds ++ rest) := by
  obtain ⟨d, more, rfl⟩ := List.exists_cons_of_ne_nil hds.1
  rcases hsign with rfl | ⟨c, hc, rfl⟩
  · refine if_neg fun hmem => ?_
    have hdigit := hsigns d (List.contains_iff_mem.mp hmem)
    rw [hds.2 d List.mem_cons_self] at hdigit
    cases hdigit
  · exact if_pos (List.contains_iff_mem.mpr hc)

theorem whole_of_wholePart? (h : wholePart? cs = some (part, rest)) :
    cs = part ++ rest ∧ Whole part := by
  obtain ⟨hcs, hds⟩ := exists_digitRun cs
  unfold wholePart? at h
  dsimp only at h
  split at h
  · cases h
  · next hwhole =>
    cases h
    simp only [Bool.or_eq_true, List.isEmpty_iff, Bool.and_eq_true, decide_eq_true_eq, not_or,
      not_and] at hwhole
    refine ⟨hcs, ⟨hwhole.1, hds⟩, fun hzero => ?_⟩
    obtain ⟨more, hmore⟩ := List.head?_eq_some_iff.mp hzero
    have hlength : ¬ 1 < (digitRun cs).1.length := fun hlt => hwhole.2 hlt hzero
    rw [hmore] at hlength ⊢
    cases more with
    | nil => rfl
    | cons c more => simp at hlength

theorem wholePart?_append (h : Whole part) (hrest : ∀ c ∈ rest.head?, c.isDigit = false) :
    wholePart? (part ++ rest) = some (part, rest) := by
  unfold wholePart?
  rw [digitRun_append h.digits hrest]
  refine if_neg ?_
  simp only [Bool.or_eq_true, List.isEmpty_iff, Bool.and_eq_true, decide_eq_true_eq, not_or,
    not_and]
  refine ⟨h.digits.1, fun hlength hzero => ?_⟩
  rw [h.zero hzero] at hlength
  exact absurd hlength (by decide)

theorem fraction_of_fractionPart? (h : fractionPart? cs = some (part, rest)) :
    cs = part ++ rest ∧ Fraction part := by
  unfold fractionPart? at h
  split at h
  · next cs =>
    obtain ⟨hcs, hds⟩ := exists_digitRun cs
    dsimp only at h
    split at h
    · cases h
    · next hne =>
      cases h
      exact ⟨congrArg _ hcs, .some ⟨by simpa using hne, hds⟩⟩
  · cases h
    exact ⟨rfl, .none⟩

theorem fractionPart?_append (h : Fraction part)
    (hrest : ∀ c ∈ rest.head?, c.isDigit = false ∧ c ≠ '.') :
    fractionPart? (part ++ rest) = some (part, rest) := by
  cases h with
  | none =>
    rw [List.nil_append]
    unfold fractionPart?
    split
    · exact absurd rfl (hrest '.' rfl).2
    · rfl
  | some hds =>
    rw [List.cons_append, fractionPart?, digitRun_append hds fun c hc => (hrest c hc).1]
    exact if_neg fun hempty => hds.1 (List.isEmpty_iff.mp hempty)

theorem exponent_of_exponentPart? (h : exponentPart? cs = some (part, rest)) :
    cs = part ++ rest ∧ Exponent part := by
  cases cs with
  | nil =>
    cases h
    exact ⟨rfl, .none⟩
  | cons m r =>
    obtain ⟨hr, hsign⟩ := exists_signIn ['+', '-'] r
    obtain ⟨hds, hdigits⟩ := exists_digitRun (signIn ['+', '-'] r).2
    rw [exponentPart?] at h
    split at h
    · next hm =>
      dsimp only at h
      split at h
      · cases h
      · next hne =>
        cases h
        refine ⟨?_, .some (by simpa using hm) (mem_signs_iff.mpr hsign)
          ⟨by simpa using hne, hdigits⟩⟩
        rw [List.cons_append, List.append_assoc, ← hds, ← hr]
    · cases h
      exact ⟨rfl, .none⟩

theorem exponentPart?_append (h : Exponent part)
    (hrest : ∀ c ∈ rest.head?, c.isDigit = false ∧ c ≠ 'e' ∧ c ≠ 'E') :
    exponentPart? (part ++ rest) = some (part, rest) := by
  cases h with
  | none =>
    cases rest with
    | nil => rfl
    | cons c rest =>
      obtain ⟨-, he, hE⟩ := hrest c rfl
      exact if_neg (by simp [he, hE])
  | @some m sign ds hm hsign hds =>
    have hm' : (m = 'e' || m = 'E') = true := by simpa using hm
    rw [List.cons_append, List.append_assoc, exponentPart?, if_pos hm',
      signIn_append (mem_signs_iff.mp hsign) hds (by simp)]
    dsimp only
    rw [digitRun_append hds fun c hc => (hrest c hc).1]
    exact if_neg fun hempty => hds.1 (List.isEmpty_iff.mp hempty)

/-- A number ends in front of what may follow a value. -/
def EndsValue (cs : List Char) : Prop :=
  ∀ c ∈ cs.head?, isJsonBlank c = true ∨ c = ',' ∨ c = ']' ∨ c = '\x7d'

theorem EndsValue.not_number (h : EndsValue rest) :
    ∀ c ∈ rest.head?, c.isDigit = false ∧ c ≠ '.' ∧ c ≠ 'e' ∧ c ≠ 'E' := by
  intro c hc
  rcases h c hc with hblank | rfl | rfl | rfl
  · simp only [isJsonBlank, Bool.or_eq_true, decide_eq_true_eq] at hblank
    rcases hblank with ((rfl | rfl) | rfl) | rfl <;> decide
  all_goals decide

theorem numberText_of_number? (h : number? cs = some (part, rest)) :
    cs = part ++ rest ∧ NumberText part := by
  obtain ⟨hcs, hsign⟩ := exists_signIn ['-'] cs
  rw [number?] at h
  generalize signIn ['-'] cs = p at h hcs hsign
  obtain ⟨sign, r⟩ := p
  obtain ⟨⟨whole, r⟩, hwhole, h⟩ := Option.bind_eq_some_iff.mp h
  obtain ⟨⟨fraction, r'⟩, hfraction, h⟩ := Option.bind_eq_some_iff.mp h
  obtain ⟨⟨e, r''⟩, he, h⟩ := Option.bind_eq_some_iff.mp h
  cases h
  obtain ⟨rfl, hwholeText⟩ := whole_of_wholePart? hwhole
  obtain ⟨rfl, hfractionText⟩ := fraction_of_fractionPart? hfraction
  obtain ⟨rfl, heText⟩ := exponent_of_exponentPart? he
  exact ⟨by simp [hcs], .intro (by simpa using hsign) hwholeText hfractionText heText⟩

theorem number?_of_numberText (h : NumberText part) (hrest : EndsValue rest) :
    number? (part ++ rest) = some (part, rest) := by
  obtain @⟨sign, whole, fraction, e, hsign, hwhole, hfraction, he⟩ := h
  have hend := hrest.not_number
  have hafter : ∀ c ∈ (e ++ rest).head?, c.isDigit = false ∧ c ≠ '.' := by
    cases he with
    | none => exact fun c hc => ⟨(hend c hc).1, (hend c hc).2.1⟩
    | some hm =>
      rintro c ⟨⟩
      rcases hm with rfl | rfl <;> decide
  have hbehind : ∀ c ∈ (fraction ++ (e ++ rest)).head?, c.isDigit = false := by
    cases hfraction with
    | none => exact fun c hc => (hafter c hc).1
    | some _ =>
      rintro c ⟨⟩
      decide
  have hsign' : sign = [] ∨ ∃ c ∈ ['-'], sign = [c] := by simpa using hsign
  have hread := signIn_append hsign' hwhole.digits (by simp) (fraction ++ (e ++ rest))
  simp only [List.append_assoc, number?, hread, wholePart?_append hwhole hbehind,
    fractionPart?_append hfraction hafter,
    exponentPart?_append he fun c hc => ⟨(hend c hc).1, (hend c hc).2.2⟩, Option.bind_eq_bind,
    Option.bind_some]

end Numbers

end BrokerGate.Json
