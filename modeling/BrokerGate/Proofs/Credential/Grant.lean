import Mathlib.Data.List.Forall2
import BrokerGate.Credential.Metadata
import BrokerGate.Proofs.Json.Piece

/-! The bodies that grant a token: an object with one token among its members, or an array that
begins with a token. A time of expiry beside it has to be one. -/
namespace BrokerGate.Credential
open Text Utf8 Json Decimal

/-- A time of expiry, or none: whole seconds that fit 64 bits. -/
inductive Expiry : Option Nat → List Char → Prop
  | never : Expiry none "null".toList
  | seconds {ds : List Char} (hds : Whole ds) (hmax : wholeNumber ds ≤ maxExpiry) :
    Expiry (some (wholeNumber ds)) ds

/-- The text of an item or a member, in UTF-8, is of a form. -/
def Holds (piece : List Char) (p : List Char → Prop) : Prop :=
  ∃ cs, decoded? piece = some cs ∧ Framed p cs

/-- The time of expiry among members, which may be left out. -/
inductive Expires : List (List Char) → Option Nat → Prop
  | unsaid : Expires [] none
  | said {piece : List Char} {n : Option Nat} (h : Holds piece (Expiry n)) : Expires [piece] n

/-- An object with these members; the names are read, the values are not. -/
def HasMembers (body : Bytes) (members : List (String × List Char)) : Prop :=
  ∃ texts, ObjectText texts (octets body) ∧
    List.Forall₂ (fun text m => Holds text.1 (Quoted m.1) ∧ text.2 = m.2) texts members

/-- A body that grants a token. -/
inductive Grants (body : Bytes) : Grant → Prop
  | object {members : List (String × List Char)} {piece : List Char} {g : Grant}
    (hbody : HasMembers body members) (hone : piecesNamed "access_token" members = [piece])
    (htoken : Holds piece (Quoted g.accessToken))
    (hexpiry : Expires (piecesNamed "expires_in" members) g.expiresIn) : Grants body g
  | array {piece : List Char} {more : List (List Char)} {g : Grant}
    (hbody : ArrayText (piece :: more) (octets body))
    (htoken : Holds piece (Quoted g.accessToken)) (hexpiry : Expires more g.expiresIn) :
    Grants body g

section Pieces
variable {piece : List Char} {s : String} {n : Option Nat} {t : List Char}

theorem stringPiece?_eq_some_iff : stringPiece? piece = some s ↔ Holds piece (Quoted s) := by
  simp only [stringPiece?, ofOctets?, Option.bind_eq_some_iff, Holds, ← parse?_eq_string_iff]
  constructor
  · rintro ⟨j, ⟨cs, hcs, hj⟩, hs⟩
    cases j with
    | string u =>
      cases hs
      exact ⟨cs, hcs, hj⟩
    | _ => cases hs
  · rintro ⟨cs, hcs, hj⟩
    exact ⟨string s, ⟨cs, hcs, hj⟩, rfl⟩

/-- A number that is all digits is whole. -/
theorem whole_of_numberText (h : NumberText t) (hdigits : ∀ c ∈ t, c.isDigit = true) :
    Whole t := by
  obtain @⟨sign, whole, fraction, e, hsign, hwhole, hfraction, he⟩ := h
  have hsign' : sign = [] := by
    rcases hsign with rfl | rfl
    · rfl
    · cases hdigits '-' (by simp)
  have hfraction' : fraction = [] := by
    cases hfraction with
    | none => rfl
    | some _ => cases hdigits '.' (by simp)
  have he' : e = [] := by
    cases he with
    | none => rfl
    | @some m _ _ hm _ _ =>
      have hdigit := hdigits m (by simp)
      rcases hm with rfl | rfl <;> cases hdigit
  rw [hsign', hfraction', he', List.nil_append, List.nil_append, List.append_nil]
  exact hwhole

theorem numberText_of_whole {ds : List Char} (h : Whole ds) : NumberText ds := by
  have htext := NumberText.intro (.inl rfl) h .none .none
  rwa [List.nil_append, List.nil_append, List.append_nil] at htext

theorem seconds?_number_iff : seconds? (number t) = some n ↔
    (∀ c ∈ t, c.isDigit = true) ∧ ∃ m, n = some m ∧ natural? 10 t = some m ∧ m ≤ maxExpiry := by
  rw [seconds?]
  split
  · next hall =>
    cases hnatural : natural? 10 t with
    | none => simp
    | some m =>
      dsimp only
      split
      · next hmax =>
        constructor
        · intro h
          cases h
          exact ⟨List.all_eq_true.mp hall, m, rfl, rfl, hmax⟩
        · rintro ⟨-, m, rfl, hm, -⟩
          cases hm
          rfl
      · next hmax =>
        refine ⟨fun h => (nomatch h), ?_⟩
        rintro ⟨-, m, rfl, hm, hmax'⟩
        cases hm
        exact absurd hmax' hmax
  · next hall =>
    exact ⟨fun h => (nomatch h), fun h => absurd (List.all_eq_true.mpr h.1) hall⟩

theorem secondsPiece?_eq_some_iff : secondsPiece? piece = some n ↔ Holds piece (Expiry n) := by
  simp only [secondsPiece?, ofOctets?, Option.bind_eq_some_iff, Holds]
  constructor
  · rintro ⟨j, ⟨cs, hcs, hj⟩, hn⟩
    refine ⟨cs, hcs, ?_⟩
    cases j with
    | null =>
      cases hn
      refine (parse?_eq_null_iff.mp hj).imp ?_
      rintro _ rfl
      exact .never
    | number t =>
      obtain ⟨hdigits, m, rfl, hm, hmax⟩ := seconds?_number_iff.mp hn
      obtain ⟨-, rfl⟩ := natural?_eq_some_iff.mp hm
      refine (parse?_eq_number_iff.mp hj).imp ?_
      rintro _ ⟨rfl, htext⟩
      exact .seconds (whole_of_numberText htext hdigits) hmax
    | _ => cases hn
  · rintro ⟨cs, hcs, lead, part, trail, rfl, hlead, htrail, hexpiry⟩
    cases hexpiry with
    | never =>
      exact ⟨null, ⟨_, hcs, parse?_eq_null_iff.mpr ⟨_, _, _, rfl, hlead, htrail, rfl⟩⟩, rfl⟩
    | seconds hds hmax =>
      refine ⟨number part, ⟨_, hcs, parse?_eq_number_iff.mpr
        ⟨_, _, _, rfl, hlead, htrail, rfl, numberText_of_whole hds⟩⟩, ?_⟩
      exact seconds?_number_iff.mpr
        ⟨hds.digits.2, _, rfl, natural?_eq_some_iff.mpr ⟨hds.digits, rfl⟩, hmax⟩

end Pieces

section Body
variable {members : List (String × List Char)} {texts : List (List Char × List Char)}
  {pieces : List (List Char)} {g : Grant} {body : Bytes}

theorem names_eq_some_iff :
    (texts.mapM fun m => (stringPiece? m.1).map fun name => (name, m.2)) = some members ↔
      List.Forall₂ (fun text m => Holds text.1 (Quoted m.1) ∧ text.2 = m.2) texts members := by
  have hname : ∀ (text : List Char × List Char) (m : String × List Char),
      (stringPiece? text.1).map (fun name => (name, text.2)) = some m ↔
        Holds text.1 (Quoted m.1) ∧ text.2 = m.2 := by
    rintro text ⟨name, value⟩
    simp only [Option.map_eq_some_iff, stringPiece?_eq_some_iff, Prod.mk.injEq]
    exact ⟨fun ⟨_, h, hn, hv⟩ => ⟨hn ▸ h, hv⟩, fun ⟨h, hv⟩ => ⟨name, h, rfl, hv⟩⟩
  induction texts generalizing members with
  | nil => simp [eq_comm]
  | cons text texts ih =>
    rw [List.mapM_cons]
    constructor
    · intro h
      obtain ⟨m, hm, h⟩ := Option.bind_eq_some_iff.mp h
      obtain ⟨ms, hms, h⟩ := Option.bind_eq_some_iff.mp h
      cases h
      exact .cons ((hname _ _).mp hm) (ih.mp hms)
    · rintro (_ | ⟨hm, hms⟩)
      exact Option.bind_eq_some_iff.mpr
        ⟨_, (hname _ _).mpr hm, Option.bind_eq_some_iff.mpr ⟨_, ih.mpr hms, rfl⟩⟩

theorem expires_nil_iff {n : Option Nat} : Expires [] n ↔ n = none := by
  constructor
  · rintro ⟨⟩
    rfl
  · rintro rfl
    exact .unsaid

theorem expires_singleton_iff {piece : List Char} {n : Option Nat} :
    Expires [piece] n ↔ Holds piece (Expiry n) := by
  constructor
  · rintro (_ | h)
    exact h
  · exact .said

theorem grant_alone_iff {piece : List Char} :
    (stringPiece? piece).map (fun t => (⟨t, none⟩ : Grant)) = some g ↔
      Holds piece (Quoted g.accessToken) ∧ Expires [] g.expiresIn := by
  rw [expires_nil_iff, ← stringPiece?_eq_some_iff, Option.map_eq_some_iff]
  constructor
  · rintro ⟨t, ht, rfl⟩
    exact ⟨ht, rfl⟩
  · rintro ⟨ht, hn⟩
    exact ⟨_, ht, by rw [← hn]⟩

theorem grant_expiring_iff {piece expiry : List Char} :
    (match stringPiece? piece, secondsPiece? expiry with
      | some t, some n => some ⟨t, n⟩
      | _, _ => none) = some g ↔
      Holds piece (Quoted g.accessToken) ∧ Expires [expiry] g.expiresIn := by
  rw [expires_singleton_iff, ← stringPiece?_eq_some_iff, ← secondsPiece?_eq_some_iff]
  split
  · next t n ht hn =>
    rw [ht, hn, Option.some_inj, Option.some_inj, Option.some_inj]
    exact ⟨fun h => h ▸ ⟨rfl, rfl⟩, fun ⟨ht, hn⟩ => by rw [ht, hn]⟩
  · next hother => exact ⟨fun h => (nomatch h), fun h => (hother _ _ h.1 h.2).elim⟩

theorem grantOfMembers?_eq_some_iff : grantOfMembers? members = some g ↔
    ∃ piece, piecesNamed "access_token" members = [piece] ∧ Holds piece (Quoted g.accessToken) ∧
      Expires (piecesNamed "expires_in" members) g.expiresIn := by
  rw [grantOfMembers?]
  split
  · next piece htoken hexpiry =>
    rw [htoken, hexpiry, grant_alone_iff]
    simp
  · next piece expiry htoken hexpiry =>
    rw [htoken, hexpiry]
    exact grant_expiring_iff.trans (by simp)
  · next hnone hone =>
    refine ⟨fun h => (nomatch h), ?_⟩
    rintro ⟨piece, htoken, -, hexpires⟩
    cases hlist : piecesNamed "expires_in" members with
    | nil => exact (hnone piece htoken hlist).elim
    | cons expiry more =>
      rw [hlist] at hexpires
      cases hexpires
      exact (hone piece expiry htoken hlist).elim

theorem grantOfItems?_eq_some_iff : grantOfItems? pieces = some g ↔
    ∃ piece more, pieces = piece :: more ∧ Holds piece (Quoted g.accessToken) ∧
      Expires more g.expiresIn := by
  rw [grantOfItems?.eq_def]
  split
  · rw [grant_alone_iff]
    simp
  · next piece expiry =>
    rw [grantOfMembers?_eq_some_iff]
    simp [piecesNamed]
  · next hone htwo =>
    refine ⟨fun h => (nomatch h), ?_⟩
    rintro ⟨piece, more, rfl, -, hexpires⟩
    generalize g.expiresIn = n at hexpires
    cases hexpires with
    | unsaid => exact (hone _ rfl).elim
    | said => exact (htwo _ _ rfl).elim

/-- A body is read exactly if it grants a token. -/
theorem readGrant?_eq_some_iff : readGrant? body = some g ↔ Grants body g := by
  rw [readGrant?]
  constructor
  · intro h
    split at h
    · next pieces hpieces =>
      obtain ⟨piece, more, rfl, htoken, hexpiry⟩ := grantOfItems?_eq_some_iff.mp h
      exact .array (outline?_eq_items_iff.mp hpieces) htoken hexpiry
    · next texts htexts =>
      obtain ⟨members, hmembers, h⟩ := Option.bind_eq_some_iff.mp h
      obtain ⟨piece, hone, htoken, hexpiry⟩ := grantOfMembers?_eq_some_iff.mp h
      exact .object ⟨texts, outline?_eq_members_iff.mp htexts, names_eq_some_iff.mp hmembers⟩ hone
        htoken hexpiry
    · cases h
  · intro h
    cases h with
    | object hbody hone htoken hexpiry =>
      obtain ⟨texts, htexts, hnames⟩ := hbody
      rw [outline?_eq_members_iff.mpr htexts]
      exact Option.bind_eq_some_iff.mpr ⟨_, names_eq_some_iff.mpr hnames,
        grantOfMembers?_eq_some_iff.mpr ⟨_, hone, htoken, hexpiry⟩⟩
    | array hbody htoken hexpiry =>
      rw [outline?_eq_items_iff.mpr hbody]
      exact grantOfItems?_eq_some_iff.mpr ⟨_, _, rfl, htoken, hexpiry⟩

end Body

end BrokerGate.Credential
