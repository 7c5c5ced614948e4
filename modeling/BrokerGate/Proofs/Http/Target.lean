import BrokerGate.Http.Target
import BrokerGate.Proofs.Text.Split

/-! What is forwarded of a request target. Of an absolute URL it is what follows the authority,
whichever scheme and authority it names. -/
namespace BrokerGate.Http.RequestTarget
open Text

/-- A target without path and query counts as the root. -/
def rootIfEmpty (cs : List Char) : List Char := if cs = [] then ['/'] else cs

theorem forwarded_eq (t : RequestTarget) : t.forwarded = rootIfEmpty (t.pathQuery.getD []) := by
  rw [forwarded.eq_def]
  split
  · rename_i h
    simp [h, rootIfEmpty]
  · rename_i h
    simp [h, rootIfEmpty]
  · rename_i cs hne h
    rw [h, rootIfEmpty, if_neg (by simpa [h] using hne)]
    rfl

section Absolute
variable {s a r : List Char}

theorem afterScheme_eq (hs : ∀ c ∈ s, isSchemeByte c = true) {o : Option (List Char)}
    (h : afterScheme (s ++ ':' :: '/' :: '/' :: r) = .ok o) : o = some r := by
  have hcolon : isSchemeByte ':' = false := by decide +kernel
  have htake : (s ++ ':' :: '/' :: '/' :: r).takeWhile isSchemeByte = s := by
    rw [List.takeWhile_append_of_pos hs, List.takeWhile_cons_of_neg (by simp [hcolon]),
      List.append_nil]
  have hword : dropWord? "://".toList (':' :: '/' :: '/' :: r) = some r :=
    dropWord?_append "://".toList r
  simp only [afterScheme, htake, List.drop_left, hword] at h
  split at h
  · cases h
  · cases h
    rfl

theorem cutAuthority_eq (ha : ∀ c ∈ a, endsTargetAuthority c = false)
    (hr : ∀ c ∈ r.head?, endsTargetAuthority c = true) {p : List Char × List Char}
    (h : cutAuthority (a ++ r) = .ok p) : p = (a, r) := by
  have htake : (a ++ r).takeWhile (fun c => !endsTargetAuthority c) = a := by
    rw [List.takeWhile_append_of_pos fun c hc => by simp [ha c hc]]
    cases r with
    | nil => simp
    | cons c r => simp [hr c rfl]
  simp only [cutAuthority, htake, List.drop_left] at h
  split at h
  · cases h
  · split at h
    · cases h
    · cases h
      rfl

theorem readPathQuery_eq {cs kept : List Char} (h : readPathQuery cs = .ok kept) :
    kept = cs.takeWhile (· ≠ '#') := by
  simp only [readPathQuery] at h
  split at h
  · cases h
    rfl
  · cases h

theorem parse_absolute (hs : ∀ c ∈ s, isSchemeByte c = true)
    (ha : ∀ c ∈ a, endsTargetAuthority c = false)
    (hr : ∀ c ∈ r.head?, endsTargetAuthority c = true) {t : RequestTarget}
    (h : parse (s ++ ':' :: '/' :: '/' :: (a ++ r)) = .ok t) :
    t.pathQuery = some (r.takeWhile (· ≠ '#')) := by
  have hslash : isSchemeByte '/' = false := by decide +kernel
  simp only [parse, bind, Except.bind, pure, Except.pure, throw, throwThe,
    MonadExceptOf.throw] at h
  split at h
  · cases h
  split at h
  · rename_i hnil
    simp at hnil
  · rename_i hstar
    have := congrArg List.length hstar
    simp at this
    omega
  · rename_i cs hcons
    cases s with
    | nil => cases hcons
    | cons c s =>
      cases hcons
      rw [hs '/' (List.mem_cons_self ..)] at hslash
      cases hslash
  · split at h
    · cases h
    rename_i o ho
    obtain rfl := afterScheme_eq hs ho
    rw [Option.getD_some] at h
    split at h
    · cases h
    rename_i p hp
    obtain rfl := cutAuthority_eq ha hr hp
    simp only [Option.isSome_some, if_true] at h
    split at h
    · cases h
    · split at h
      · cases h
      · rename_i kept hkept
        cases h
        rw [readPathQuery_eq hkept]

end Absolute

end BrokerGate.Http.RequestTarget
