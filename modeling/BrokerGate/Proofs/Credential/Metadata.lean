import BrokerGate.Credential.Source
import BrokerGate.Proofs.Credential.Grant
import BrokerGate.Proofs.Except

/-! Fetches from a metadata server. The answer has to be successful and complete, and its body has
to grant a token that is not empty; all else is a failure to obtain one. -/
namespace BrokerGate.Credential
open Text Utf8 Http Config Json

/-- A successful answer and its whole body. -/
structure Delivers (reply : Response) (body : Bytes) : Prop where
  success : reply.isSuccess = true
  complete : reply.body.complete? = some body

/-- The request of a fetch is made and gets this answer. -/
def Answered {σ : Type} (world : Surroundings σ) (state : σ) (url : Option String)
    (reply : Response) : Prop :=
  ∃ request, metadataRequest url = .ok request ∧ (world.ask request state).1 = .ok reply

section Grant
variable {reply : Response} {body : Bytes} {members : List (String × List Char)} {g : Grant}

theorem grantOf_eq_ok_iff :
    grantOf reply = .ok g ↔ ∃ body, Delivers reply body ∧ Grants body g ∧ g.accessToken ≠ "" := by
  rw [grantOf]
  constructor
  · intro h
    split at h
    · cases h
    · next hsuccess =>
      split at h
      · cases h
      · next found hfound =>
        obtain ⟨body, hbody, hread⟩ := Option.bind_eq_some_iff.mp hfound
        split at h
        · cases h
        · next hne =>
          cases h
          exact ⟨body, ⟨by simpa using hsuccess, hbody⟩, readGrant?_eq_some_iff.mp hread, hne⟩
  · rintro ⟨body, ⟨hsuccess, hbody⟩, hgrants, hne⟩
    rw [hsuccess, hbody, Option.bind_some, readGrant?_eq_some_iff.mpr hgrants]
    simp only [Bool.not_true, Bool.false_eq_true, if_false, if_neg hne]

theorem grantOf_of_unsuccessful (h : reply.isSuccess = false) :
    grantOf reply = .error (.status reply.status (bodyText reply.body)) := by
  rw [grantOf, h]
  rfl

theorem readGrant?_of_hasMembers (h : HasMembers body members) :
    readGrant? body = grantOfMembers? members := by
  obtain ⟨texts, htexts, hnames⟩ := h
  rw [readGrant?, outline?_eq_members_iff.mpr htexts]
  dsimp only
  rw [names_eq_some_iff.mpr hnames, Option.bind_some]

/-- Of an object whose time of expiry is one, the token alone decides. -/
theorem grants_iff_of_hasMembers (h : HasMembers body members) {n : Option Nat}
    (hexpiry : Expires (piecesNamed "expires_in" members) n) (t : String) :
    (∃ n, Grants body ⟨t, n⟩) ↔
      ∃ piece, piecesNamed "access_token" members = [piece] ∧ Holds piece (Quoted t) := by
  constructor
  · rintro ⟨m, hgrants⟩
    rw [← readGrant?_eq_some_iff, readGrant?_of_hasMembers h] at hgrants
    obtain ⟨piece, hone, htoken, -⟩ := grantOfMembers?_eq_some_iff.mp hgrants
    exact ⟨piece, hone, htoken⟩
  · rintro ⟨piece, hone, htoken⟩
    exact ⟨n, .object h hone htoken hexpiry⟩

end Grant

section Fetch
variable {σ : Type} {world : Surroundings σ} {state : σ} {url : Option String} {reply : Response}

theorem fetch_of_answered (h : Answered world state url reply) :
    (fetch world state (.metadata url)).token =
      ((grantOf reply).mapError fun f => GateError.credential f.message).map
        fun g => ⟨g.accessToken⟩ := by
  obtain ⟨request, hrequest, hreply⟩ := h
  simp only [fetch, hrequest, grantedToken, hreply]
  cases grantOf reply <;> rfl

/-- A fetch that gets no answer gives no token. -/
theorem fetch_of_unanswered (h : ∀ reply, ¬ Answered world state url reply) :
    ∃ reason, (fetch world state (.metadata url)).token = .error (.credential reason) := by
  rw [fetch]
  cases hrequest : metadataRequest url with
  | error e => exact ⟨_, rfl⟩
  | ok request =>
    cases hreply : (world.ask request state).1 with
    | ok reply => exact absurd ⟨request, hrequest, hreply⟩ (h reply)
    | error e =>
      dsimp only
      rw [hreply]
      exact ⟨_, rfl⟩

theorem Answered.unique {reply' : Response} (h : Answered world state url reply)
    (h' : Answered world state url reply') : reply = reply' := by
  obtain ⟨request, hrequest, hreply⟩ := h
  obtain ⟨_, hrequest', hreply'⟩ := h'
  cases hrequest.symm.trans hrequest'
  exact Except.ok.inj (hreply.symm.trans hreply')

theorem fetch_eq_ok_iff_of_answered (h : Answered world state url reply) {t : BearerToken} :
    (fetch world state (.metadata url)).token = .ok t ↔
      ∃ g, grantOf reply = .ok g ∧ g.accessToken = t.secret := by
  rw [fetch_of_answered h]
  cases grantOf reply with
  | error f => exact ⟨fun h => (nomatch h), fun ⟨_, h, _⟩ => (nomatch h)⟩
  | ok g =>
    constructor
    · intro h
      cases h
      exact ⟨g, rfl, rfl⟩
    · rintro ⟨_, ⟨⟩, htoken⟩
      exact congrArg Except.ok (congrArg BearerToken.mk htoken)

theorem fetch_eq_ok_iff {t : BearerToken} :
    (fetch world state (.metadata url)).token = .ok t ↔ ∃ reply body n,
      Answered world state url reply ∧ Delivers reply body ∧ Grants body ⟨t.secret, n⟩ ∧
        t.secret ≠ "" := by
  constructor
  · intro h
    by_cases hanswer : ∃ reply, Answered world state url reply
    · obtain ⟨reply, hreply⟩ := hanswer
      obtain ⟨⟨secret, n⟩, hgrant, rfl⟩ := (fetch_eq_ok_iff_of_answered hreply).mp h
      obtain ⟨body, hbody, hgrants, hne⟩ := grantOf_eq_ok_iff.mp hgrant
      exact ⟨reply, body, n, hreply, hbody, hgrants, hne⟩
    · obtain ⟨reason, herror⟩ := fetch_of_unanswered (not_exists.mp hanswer)
      cases h.symm.trans herror
  · rintro ⟨reply, body, n, hreply, hbody, hgrants, hne⟩
    exact (fetch_eq_ok_iff_of_answered hreply).mpr
      ⟨_, grantOf_eq_ok_iff.mpr ⟨body, hbody, hgrants, hne⟩, rfl⟩

/-- A metadata server that gives no token is a failure to obtain one. -/
theorem credential_of_fetch_metadata {e : GateError}
    (h : (fetch world state (.metadata url)).token = .error e) :
    ∃ reason, e = .credential reason := by
  by_cases hanswer : ∃ reply, Answered world state url reply
  · obtain ⟨reply, hreply⟩ := hanswer
    rw [fetch_of_answered hreply] at h
    cases hgrant : grantOf reply with
    | ok g =>
      rw [hgrant] at h
      cases h
    | error f =>
      rw [hgrant] at h
      cases h
      exact ⟨_, rfl⟩
  · obtain ⟨reason, herror⟩ := fetch_of_unanswered (not_exists.mp hanswer)
    cases h.symm.trans herror
    exact ⟨reason, rfl⟩

end Fetch

/-- The token of a metadata server is the one that a successful answer grants. Where the body is an
object whose time of expiry is one, no other member matters. All else is a failure to obtain a
token, and it tells the status of an answer that is not successful, and its text. -/
theorem metadata_token {σ : Type} (world : Surroundings σ) (state : σ) (url : Option String) :
    (∀ t, (fetch world state (.metadata url)).token = .ok t ↔ ∃ reply body n,
      Answered world state url reply ∧ Delivers reply body ∧ Grants body ⟨t.secret, n⟩ ∧
        t.secret ≠ "") ∧
    (∀ reply body members n, Answered world state url reply → Delivers reply body →
      HasMembers body members → Expires (piecesNamed "expires_in" members) n →
      ∀ t, (fetch world state (.metadata url)).token = .ok t ↔
        t.secret ≠ "" ∧ ∃ piece, piecesNamed "access_token" members = [piece] ∧
          Holds piece (Quoted t.secret)) ∧
    (∀ e, (fetch world state (.metadata url)).token = .error e → ∃ reason, e = .credential reason) ∧
    ∀ reply, Answered world state url reply → reply.isSuccess = false →
      (fetch world state (.metadata url)).token = .error (.credential
        ("metadata server returned " ++ statusText reply.status ++ ": " ++
          bodyText reply.body)) := by
  refine ⟨fun t => fetch_eq_ok_iff, ?_, fun e => credential_of_fetch_metadata, ?_⟩
  · intro reply body members n hreply hbody hmembers hexpiry t
    rw [← grants_iff_of_hasMembers hmembers hexpiry, fetch_eq_ok_iff]
    constructor
    · rintro ⟨reply', body', m, hreply', hbody', hgrants, hne⟩
      cases hreply.unique hreply'
      cases hbody.complete.symm.trans hbody'.complete
      exact ⟨hne, m, hgrants⟩
    · rintro ⟨hne, m, hgrants⟩
      exact ⟨reply, body, m, hreply, hbody, hgrants, hne⟩
  · intro reply hreply hstatus
    rw [fetch_of_answered hreply, grantOf_of_unsuccessful hstatus]
    rfl

/-- The answer with a body in one piece. -/
def wholeReply (body : String) : Response := ⟨200, [], ⟨[ofString body], false⟩⟩

/-- A metadata server that always gives the same answer. -/
def oneAnswer (body : String) : Surroundings Unit where
  run := fun _ _ _ => (.notStarted "", ())
  ask := fun _ _ => (.ok (wholeReply body), ())

def metadataAddress : Option String := some "http://m.example/"

theorem answered_oneAnswer (body : String) :
    Answered (oneAnswer body) () metadataAddress (wholeReply body) := by
  have hrequest : (metadataRequest metadataAddress).toOption.isSome = true := by decide +kernel
  obtain ⟨request, h⟩ := Option.isSome_iff_exists.mp hrequest
  exact ⟨request, eq_ok_of_toOption h, rfl⟩

theorem delivers_wholeReply (body : String) : Delivers (wholeReply body) (ofString body) :=
  ⟨rfl, congrArg some (List.append_nil _)⟩

/-- Other members, and a time of expiry in front of the token, do no harm. -/
def grantedBody : String :=
  "\x7b\"expires_in\": 3599, \"scope\": [\"a\", \x7b\x7d], \"access_token\": \"t\"\x7d"

theorem metadata_token_granted :
    (fetch (oneAnswer grantedBody) () (.metadata metadataAddress)).token = .ok ⟨"t"⟩ ∧
      ∃ n, Grants (ofString grantedBody) ⟨"t", n⟩ := by
  have htoken : (fetch (oneAnswer grantedBody) () (.metadata metadataAddress)).token = .ok ⟨"t"⟩ :=
    eq_ok_of_toOption (by decide +kernel)
  obtain ⟨reply, body, n, hreply, hbody, hgrants, -⟩ :=
    ((metadata_token (oneAnswer grantedBody) () metadataAddress).1 ⟨"t"⟩).mp htoken
  cases (answered_oneAnswer grantedBody).unique hreply
  cases (delivers_wholeReply grantedBody).complete.symm.trans hbody.complete
  exact ⟨htoken, n, hgrants⟩

/-- An object with one token, and a time of expiry in quotes. -/
def quotedExpiryBody : String := "\x7b\"access_token\":\"t\",\"expires_in\":\"3599\"\x7d"

theorem hasMembers_quotedExpiryBody : HasMembers (ofString quotedExpiryBody)
    [("access_token", "\"t\"".toList), ("expires_in", "\"3599\"".toList)] := by
  refine ⟨[("\"access_token\"".toList, "\"t\"".toList),
      ("\"expires_in\"".toList, "\"3599\"".toList)],
    outline?_eq_members_iff.mp (by decide +kernel), .cons ⟨?_, rfl⟩ (.cons ⟨?_, rfl⟩ .nil)⟩
  · exact stringPiece?_eq_some_iff.mp (by decide +kernel)
  · exact stringPiece?_eq_some_iff.mp (by decide +kernel)

/-- A time of expiry in quotes, which is told to nobody but the log, costs the token. -/
theorem token_lost_to_expiry :
    Answered (oneAnswer quotedExpiryBody) () metadataAddress (wholeReply quotedExpiryBody) ∧
      Delivers (wholeReply quotedExpiryBody) (ofString quotedExpiryBody) ∧
      (∃ members piece, HasMembers (ofString quotedExpiryBody) members ∧
        piecesNamed "access_token" members = [piece] ∧ Holds piece (Quoted "t")) ∧
      ∀ t, (fetch (oneAnswer quotedExpiryBody) () (.metadata metadataAddress)).token ≠ .ok t := by
  have hlost : (fetch (oneAnswer quotedExpiryBody) () (.metadata metadataAddress)).token.toOption =
      none := by decide +kernel
  refine ⟨answered_oneAnswer _, delivers_wholeReply _,
    ⟨_, "\"t\"".toList, hasMembers_quotedExpiryBody, by decide +kernel,
      stringPiece?_eq_some_iff.mp (by decide +kernel)⟩, fun t ht => ?_⟩
  rw [ht] at hlost
  cases hlost

end BrokerGate.Credential
