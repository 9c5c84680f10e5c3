import SignedBlog.Http.App
import SignedBlog.Proofs.Authenticity
import SignedBlog.Proofs.Cutting
import SignedBlog.Proofs.Routing

/-!
Requests without the token.

A stranger is somebody whose request does not carry the token. What strangers get on the paths of
the feed is decided by the request and the token alone, before the node is asked for anything:
`App.respond_of_stranger`. So two nodes behind one token cannot be told apart, and neither of them
is changed: `App.handle_of_stranger`.
-/

namespace SignedBlog.Http

set_option autoImplicit false

/-! ## Carrying the token -/

/-- An authorization header has the scheme `bearer`, in any case, and behind the first blank the
token, with any blanks around it. -/
def CarriesToken (token : Text) (authorization : Option Text) : Prop :=
  ∃ scheme supplied : Text, authorization = some (scheme ++ (' ' : CodePoint) :: supplied) ∧
    (' ' : CodePoint) ∉ scheme ∧ scheme.lower = ("bearer" : Text) ∧ supplied ≠ [] ∧
    supplied.strip = token

theorem splitAuthorization_append {scheme : Text} (h : (' ' : CodePoint) ∉ scheme)
    (supplied : Text) :
    splitAuthorization (scheme ++ (' ' : CodePoint) :: supplied) = (scheme, supplied) := by
  unfold splitAuthorization
  rw [Text.cutFirst?_append_cons (Text.beq_eq_false_of_not_mem h) (by simp)]
  rfl

theorem splitAuthorization_cases (header : Text) :
    (splitAuthorization header).2 = [] ∨
      header = (splitAuthorization header).1 ++ (' ' : CodePoint) :: (splitAuthorization header).2 ∧
        (' ' : CodePoint) ∉ (splitAuthorization header).1 := by
  unfold splitAuthorization
  cases hcut : Text.cutFirst? (· == (' ' : CodePoint)) header with
  | none => exact .inl rfl
  | some parts =>
    obtain ⟨scheme, supplied⟩ := parts
    obtain ⟨c, hheader, hc, hpass⟩ := Text.cutFirst?_eq_some hcut
    have e : c = (' ' : CodePoint) := by simpa using hc
    refine .inr ⟨e ▸ hheader, fun hmem => ?_⟩
    have hblank := hpass _ hmem
    simp at hblank

/-- A request may go on exactly if it carries the token and the token is ASCII. -/
theorem checkToken_eq_granted_iff {token : Text} {authorization : Option Text} :
    checkToken token authorization = .ok .granted ↔
      token.isAscii = true ∧ CarriesToken token authorization := by
  constructor
  case mp =>
    intro h
    unfold checkToken at h
    obtain hnone | ⟨hheader, hscheme⟩ := splitAuthorization_cases (authorization.getD [])
    · simp only [hnone, List.isEmpty_nil, Bool.or_true, if_true] at h
      cases h
    · generalize hparts : splitAuthorization (authorization.getD []) = parts at h hheader hscheme
      obtain ⟨scheme, supplied⟩ := parts
      simp only at h hheader hscheme
      split at h
      · cases h
      · rename_i hbearer
        split at h
        · cases h
        · rename_i hascii
          split at h
          · rename_i hsame
            simp only [Bool.or_eq_true, bne_iff_ne, ne_eq, not_or, not_not, Bool.not_eq_true,
              List.isEmpty_eq_false_iff] at hbearer
            simp only [Bool.not_eq_true', Bool.not_eq_false, Bool.and_eq_true] at hascii
            refine ⟨hascii.2, scheme, supplied, ?_, hscheme, hbearer.1, hbearer.2, hsame⟩
            cases authorization with
            | none => simp at hheader
            | some header => exact congrArg some hheader
          · cases h
  case mpr =>
    rintro ⟨hascii, scheme, supplied, rfl, hscheme, hbearer, hsupplied, hsame⟩
    have hfilled : supplied.isEmpty = false := List.isEmpty_eq_false_iff.mpr hsupplied
    unfold checkToken
    rw [Option.getD_some, splitAuthorization_append hscheme]
    simp only [hbearer, hfilled, hsame, hascii]
    simp

/-! ## Turning strangers away -/

/-- What the token and the header alone decide for a request that must not go on. -/
def turnAway (token : Text) (authorization : Option Text) : Except Fault Response :=
  (checkToken token authorization).map fun access =>
    .refusal 401 (if access = .missing then "Missing bearer token" else "Invalid bearer token")
      App.challenge

namespace App

theorem authorized_of_stranger {app : App} {request : Request}
    (h : ¬ CarriesToken app.token (request.header? "authorization")) (next : Outcome Response) :
    app.authorized request next
      = (turnAway app.token (request.header? "authorization"), app.node) := by
  unfold authorized turnAway
  cases hcheck : checkToken app.token (request.header? "authorization") with
  | error fault => rfl
  | ok access =>
    cases access with
    | granted => exact absurd (checkToken_eq_granted_iff.mp hcheck).2 h
    | missing => rfl
    | refused => rfl

/-- What a stranger gets on the paths of the feed does not depend on the node, and the node stays as
it is. -/
theorem respond_of_stranger {token : Text} {request : Request}
    (hpath : ("/v1" : Text) <+: request.path)
    (hheader : ¬ CarriesToken token (request.header? "authorization")) :
    ∃ outcome, ∀ (app : App) (arrival : Arrival), app.token = token →
      app.respond arrival request = (outcome, app.node) := by
  unfold respond
  obtain hfind | hfind | hfind | ⟨bare, hfind⟩ | hfind :=
    @Target.find_of_version request.method _ hpath
  · refine ⟨turnAway token (request.header? "authorization"), fun app _ htoken => ?_⟩
    subst htoken
    rw [hfind]
    exact authorized_of_stranger hheader _
  · -- the body is read before the header is looked at, so a bad body is complained of to anybody
    simp only [hfind]
    unfold servePublish
    cases request.readBody with
    | error unreadable =>
      cases unreadable with
      | notText => exact ⟨_, fun _ _ _ => rfl⟩
      | notJson misread => exact ⟨_, fun _ _ _ => rfl⟩
    | ok body =>
      refine ⟨turnAway token (request.header? "authorization"), fun app _ htoken => ?_⟩
      subst htoken
      exact authorized_of_stranger hheader _
  · rw [hfind]
    exact ⟨_, fun _ _ _ => rfl⟩
  · rw [hfind]
    exact ⟨_, fun _ _ _ => rfl⟩
  · rw [hfind]
    exact ⟨_, fun _ _ _ => rfl⟩

/-! ## Two nodes behind one token -/

/-- What is stored in a node and counted of its posts. -/
structure Untouched (before after : Node) : Prop where
  blogs : after.store.blogs = before.store.blogs
  messages : after.store.messages = before.store.messages
  postsCreated : after.metrics.postsCreated = before.metrics.postsCreated
  postsRejected : after.metrics.postsRejected = before.metrics.postsRejected
  listingsServed : after.metrics.listingsServed = before.metrics.listingsServed

/-- Two answers to one request are the same, but for an id that was made up for it. -/
structure Alike (request : Request) (first second : Reply) : Prop where
  response : first.response = second.response
  raised : first.raised = second.raised
  answered : first.requestId.isSome = second.requestId.isSome
  named : (request.header? "x-request-id").isSome → first.requestId = second.requestId

theorem untouched_count (app : App) (elapsed : Int) (success : Bool) :
    Untouched app.node (app.count elapsed success).node := by
  unfold count
  cases app.requests with
  | none => exact ⟨rfl, rfl, rfl, rfl, rfl⟩
  | some metrics => exact ⟨rfl, rfl, rfl, rfl, rfl⟩

theorem untouched_handle {app : App} {arrival : Arrival} {request : Request}
    {outcome : Except Fault Response}
    (h : app.respond arrival request = (outcome, app.node)) :
    Untouched app.node (app.handle arrival request).2.node := by
  unfold handle
  rw [h]
  cases outcome with
  | error fault => exact untouched_count app arrival.elapsed false
  | ok response => exact untouched_count app arrival.elapsed (response.status < 500)

theorem alike_handle {a b : App} {first second : Arrival} {request : Request}
    {outcome : Except Fault Response} (ha : a.respond first request = (outcome, a.node))
    (hb : b.respond second request = (outcome, b.node)) :
    Alike request (a.handle first request).1 (b.handle second request).1 := by
  unfold handle
  rw [ha, hb]
  cases outcome with
  | error fault => exact ⟨rfl, rfl, rfl, fun _ => rfl⟩
  | ok response =>
    refine ⟨rfl, rfl, rfl, fun hnamed => ?_⟩
    obtain ⟨id, hid⟩ := Option.isSome_iff_exists.mp hnamed
    simp only [hid, Option.getD_some]

/-- Without the token nobody learns on the paths of the feed which of two nodes behind it answers,
and neither node is changed. -/
theorem handle_of_stranger {a b : App} (first second : Arrival) {request : Request}
    (htoken : a.token = b.token) (hpath : ("/v1" : Text) <+: request.path)
    (hheader : ¬ CarriesToken a.token (request.header? "authorization")) :
    Alike request (a.handle first request).1 (b.handle second request).1 ∧
      Untouched a.node (a.handle first request).2.node ∧
      Untouched b.node (b.handle second request).2.node := by
  obtain ⟨outcome, hrespond⟩ := respond_of_stranger hpath hheader
  have ha := hrespond a first rfl
  have hb := hrespond b second htoken.symm
  exact ⟨alike_handle ha hb, untouched_handle ha, untouched_handle hb⟩

/-- Two nodes behind one token, one of which has published a post. -/
def quiet : App := ⟨Node.annsNode, "secret", none⟩

def busy : App := ⟨Node.annsNode.run [.createPost "hello"], "secret", some {}⟩

def nearMiss : Request :=
  ⟨"POST", "/v1/blogs/posts", [], [("Authorization", "Bearer secret2")], []⟩

theorem handle_of_stranger_nearMiss :
    quiet.token = busy.token ∧ ("/v1" : Text) <+: nearMiss.path ∧
      ¬ CarriesToken quiet.token (nearMiss.header? "authorization") ∧
      Alike nearMiss (quiet.handle ⟨"1", 3⟩ nearMiss).1 (busy.handle ⟨"2", 4⟩ nearMiss).1 ∧
      Untouched quiet.node (quiet.handle ⟨"1", 3⟩ nearMiss).2.node ∧
      Untouched busy.node (busy.handle ⟨"2", 4⟩ nearMiss).2.node := by
  have hpath : ("/v1" : Text) <+: nearMiss.path := by decide
  have hrefused : checkToken quiet.token (nearMiss.header? "authorization") = .ok .refused := by
    decide
  have hheader : ¬ CarriesToken quiet.token (nearMiss.header? "authorization") := by
    intro hcarries
    have hgranted := checkToken_eq_granted_iff.mpr ⟨by decide, hcarries⟩
    rw [hrefused] at hgranted
    cases hgranted
  exact ⟨rfl, hpath, hheader, handle_of_stranger ⟨"1", 3⟩ ⟨"2", 4⟩ rfl hpath hheader⟩

end App

end SignedBlog.Http
