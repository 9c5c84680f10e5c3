import SignedBlog.Http.App
import SignedBlog.Proofs.Routing
import SignedBlog.Proofs.Serving

/-!
What requests do to a node.

`App.Served` lists the three things that can come of a request: nothing is done, the feed is listed,
or a text is handed in. Each of the last two needs the path of the feed and the token. What stays
true of an interface however often it is used is `App.Live`.
-/

namespace SignedBlog.Http

set_option autoImplicit false

/-- The text that a request brings, if its body can be read and holds one. -/
def Request.sentText? (request : Request) : Option Text :=
  match request.readBody with
  | .error _ => none
  | .ok body => body.text.toOption

namespace App

/-! ## Events -/

/-- What happens to an interface: a request arrives, or the clock of its node is set. -/
inductive Event where
  | request (arrival : Arrival) (request : Request)
  | setClock (time : Int)
  /-- Until the clock is set again, it reads this time when the store takes a post. -/
  | setArrivalClock (time : UInt64)

def after (app : App) : Event → App
  | .request arrival request => (app.handle arrival request).2
  | .setClock time => { app with node := app.node.setClock time }
  | .setArrivalClock time => { app with node := app.node.setArrivalClock time.toNat }

def run (app : App) (events : List Event) : App := events.foldl after app

/-! ## One request -/

def Admits (app : App) (request : Request) : Prop :=
  checkToken app.token (request.header? "authorization") = .ok .granted

/-- A request that publishes has a text and goes to the feed. -/
structure Posts (app : App) (request : Request) (text : Text) : Prop where
  method : request.method = "POST"
  path : At postsPath request.path
  admitted : app.Admits request
  sent : request.sentText? = some text

structure Lists (app : App) (request : Request) : Prop where
  method : request.method = "GET"
  path : At postsPath request.path
  admitted : app.Admits request

/-- What a text that is handed in is answered with. -/
def answerPost (text : Text) (node : Node) : Outcome Response :=
  match node.createPost text with
  | (.error (.invalidText defect), node) => (.ok (.refusal 400 defect.message []), node)
  | (.error fault, node) => (.error fault, node)
  | (.ok record, node) => (answer record.toValue.render, node)

inductive Served (app : App) (request : Request) : Outcome Response → Prop where
  /-- The node is not asked for anything. No such answer to a `POST` to the feed is a success. -/
  | idle {outcome : Except Fault Response}
      (hidle : request.method = "POST" → At postsPath request.path →
        ∀ response, outcome = .ok response → response.status ≠ 200) :
      Served app request (outcome, app.node)
  | listed (h : app.Lists request) : Served app request (serveFeed app.node)
  | posted {text : Text} (h : app.Posts request text) :
      Served app request (answerPost text app.node)

theorem status_ofJson {status : Nat} {json : Json} {response : Response}
    (h : Response.ofJson status json = .ok response) : response.status = status := by
  unfold Response.ofJson at h
  cases hbody : encodeJson json with
  | error fault =>
    rw [hbody] at h
    cases h
  | ok body =>
    rw [hbody] at h
    cases h
    rfl

theorem served_of_refused {app : App} {request : Request} {status : Nat} (h : status ≠ 200)
    (detail : Text) (headers : List (Text × Text)) :
    Served app request (.ok (.refusal status detail headers), app.node) := by
  refine .idle fun _ _ response hresponse => ?_
  cases hresponse
  exact h

theorem served_of_fault {app : App} {request : Request} (fault : Fault) :
    Served app request (.error fault, app.node) :=
  .idle fun _ _ _ hresponse => nomatch hresponse

theorem served_of_ofJson {app : App} {request : Request} {status : Nat} (h : status ≠ 200)
    (json : Json) : Served app request (Response.ofJson status json, app.node) := by
  refine .idle fun _ _ response hresponse => ?_
  rw [status_ofJson hresponse]
  exact h

theorem served_authorized {app : App} {request : Request} {next : Outcome Response}
    (h : app.Admits request → Served app request next) :
    Served app request (app.authorized request next) := by
  unfold authorized
  unfold Admits at h
  cases hcheck : checkToken app.token (request.header? "authorization") with
  | error fault => exact served_of_fault fault
  | ok access =>
    cases access with
    | granted => exact h hcheck
    | missing => exact served_of_refused (by decide) _ _
    | refused => exact served_of_refused (by decide) _ _

theorem publish_of_text {body : Body} {text : Text} (h : body.text = .ok text) (node : Node) :
    publish body node = answerPost text node := by
  unfold publish
  rw [h]
  rfl

theorem served_publish {app : App} {request : Request} {body : Body}
    (hmethod : request.method = "POST") (hpath : At postsPath request.path)
    (hbody : request.readBody = .ok body) (hadmits : app.Admits request) :
    Served app request (publish body app.node) := by
  cases htext : body.text with
  | error complaint =>
    unfold publish
    simp only [htext]
    cases hjson : complaint.toJson with
    | error fault => exact served_of_fault fault
    | ok json => exact served_of_ofJson (by decide) json
  | ok text =>
    have hsent : request.sentText? = some text := by
      unfold Request.sentText?
      simp only [hbody, htext]
      rfl
    rw [publish_of_text htext]
    exact .posted ⟨hmethod, hpath, hadmits, hsent⟩

theorem served_servePublish {app : App} {request : Request} (hmethod : request.method = "POST")
    (hpath : At postsPath request.path) : Served app request (app.servePublish request) := by
  unfold servePublish
  cases hbody : request.readBody with
  | error unreadable =>
    cases unreadable with
    | notText => exact served_of_refused (by decide) _ _
    | notJson misread => exact served_of_ofJson (by decide) _
  | ok body => exact served_authorized (served_publish hmethod hpath hbody)

theorem served (app : App) (arrival : Arrival) (request : Request) :
    Served app request (app.respond arrival request) := by
  by_cases hpost : Target.find request.method request.path = .createPost
  · obtain ⟨hmethod, hpath⟩ := Target.find_eq_createPost_iff.mp hpost
    unfold respond
    rw [hpost]
    exact served_servePublish hmethod hpath
  by_cases hlist : Target.find request.method request.path = .listPosts
  · obtain ⟨hmethod, hpath⟩ := Target.find_eq_listPosts_iff.mp hlist
    unfold respond
    rw [hlist]
    exact served_authorized fun hadmits => .listed ⟨hmethod, hpath, hadmits⟩
  · have hidle : ∀ outcome, Served app request (outcome, app.node) := fun outcome =>
      .idle fun hmethod hpath =>
        absurd (Target.find_eq_createPost_iff.mpr ⟨hmethod, hpath⟩) hpost
    unfold respond
    cases hfind : Target.find request.method request.path with
    | listPosts => exact absurd hfind hlist
    | createPost => exact absurd hfind hpost
    | health => exact hidle _
    | detailedHealth => exact hidle _
    | metrics => exact hidle _
    | wrongMethod => exact hidle _
    | elsewhere path => exact hidle _
    | unknown => exact hidle _

theorem respond_of_lists {app : App} {request : Request} (h : app.Lists request)
    (arrival : Arrival) : app.respond arrival request = serveFeed app.node := by
  have hfind := Target.find_eq_listPosts_iff.mpr ⟨h.method, h.path⟩
  have hadmitted := h.admitted
  unfold Admits at hadmitted
  unfold respond authorized
  simp only [hfind, hadmitted]

theorem respond_of_posts {app : App} {request : Request} {text : Text} (h : app.Posts request text)
    (arrival : Arrival) : app.respond arrival request = answerPost text app.node := by
  have hfind := Target.find_eq_createPost_iff.mpr ⟨h.method, h.path⟩
  have hadmitted := h.admitted
  have hsent := h.sent
  unfold Admits at hadmitted
  unfold Request.sentText? at hsent
  cases hbody : request.readBody with
  | error unreadable =>
    rw [hbody] at hsent
    cases hsent
  | ok body =>
    simp only [hbody] at hsent
    have htext : body.text = .ok text := by
      cases hread : body.text with
      | error complaint =>
        rw [hread] at hsent
        cases hsent
      | ok found =>
        rw [hread] at hsent
        cases hsent
        rfl
    unfold respond servePublish authorized
    simp only [hfind, hbody, hadmitted]
    exact publish_of_text htext app.node

/-! ## What is handed in -/

theorem answerPost_node (text : Text) (node : Node) :
    (answerPost text node).2 = (node.createPost text).2 := by
  unfold answerPost
  cases hcreate : node.createPost text with
  | mk result next =>
    cases result with
    | error fault => cases fault <;> rfl
    | ok record => rfl

theorem answerPost_of_created {node : Node} {text : Text} {record : Record}
    (h : (node.createPost text).1 = .ok record) :
    (answerPost text node).1 = answer record.toValue.render := by
  unfold answerPost
  cases hresult : node.createPost text with
  | mk result next =>
    rw [hresult] at h
    subst h
    rfl

theorem record_of_draft {node : Node} {text : Text} {post : Post}
    (hdraft : node.draft text = .ok post) :
    (⟨node.identity.withStatus (node.store.arriving node.arrivalClock post true).header, text⟩ : Record)
      = node.identity.record (node.store.arriving node.arrivalClock post true) := by
  obtain ⟨-, -, -, htext, -⟩ := Node.draft_eq_ok hdraft
  rw [Identity.withStatus_header, ← htext]
  rfl

/-- A text is turned down, or stored as a post of which the record is answered. -/
theorem answerPost_cases (text : Text) (node : Node) :
    (∃ outcome metrics, answerPost text node = (outcome, { node with metrics }) ∧
        ∀ response, outcome = .ok response → response.status = 400) ∨
      ∃ post, node.draft text = .ok post ∧ post.blogId ∈ node.store.blogIds ∧
        post.messageId ∉ node.store.messageIds ∧
        answerPost text node =
          (answer (node.identity.record (node.store.arriving node.arrivalClock post true)).toValue.render,
            { node with store := node.store.push node.arrivalClock post true }.countCreated) := by
  unfold answerPost
  obtain ⟨fault, metrics, hrefused⟩ | ⟨post, hdraft, hknown, hfresh, hstored⟩ :=
    Node.createPost_cases text node
  · refine .inl ?_
    rw [hrefused]
    cases fault with
    | invalidText defect =>
      refine ⟨_, metrics, rfl, fun response hresponse => ?_⟩
      cases hresponse
      rfl
    | _ => exact ⟨_, metrics, rfl, fun _ hresponse => nomatch hresponse⟩
  · refine .inr ⟨post, hdraft, hknown, hfresh, ?_⟩
    rw [hstored, record_of_draft hdraft]

/-! ## Counting -/

theorem count_node (app : App) (elapsed : Int) (success : Bool) :
    ∃ metrics, (app.count elapsed success).node = { app.node with metrics } := by
  unfold count
  cases app.requests with
  | none => exact ⟨_, rfl⟩
  | some metrics => exact ⟨_, rfl⟩

theorem count_token (app : App) (elapsed : Int) (success : Bool) :
    (app.count elapsed success).token = app.token := by
  unfold count
  cases app.requests <;> rfl

/-- Of an answered request only the counting is left. -/
theorem handle_app (app : App) (arrival : Arrival) (request : Request) :
    ∃ success, (app.handle arrival request).2
      = { app with node := (app.respond arrival request).2 }.count arrival.elapsed success := by
  unfold handle
  cases app.respond arrival request with
  | mk outcome node =>
    cases outcome with
    | error fault => exact ⟨_, rfl⟩
    | ok response => exact ⟨_, rfl⟩

theorem handle_node (app : App) (arrival : Arrival) (request : Request) :
    ∃ metrics, (app.handle arrival request).2.node
      = { (app.respond arrival request).2 with metrics } := by
  obtain ⟨success, hhandle⟩ := handle_app app arrival request
  rw [hhandle]
  exact count_node _ _ _

theorem handle_of_ok {app : App} {arrival : Arrival} {request : Request} {response : Response}
    (h : (app.respond arrival request).1 = .ok response) :
    (app.handle arrival request).1.response = response := by
  unfold handle
  cases hrespond : app.respond arrival request with
  | mk outcome node =>
    rw [hrespond] at h
    subst h
    rfl

theorem handle_of_error {app : App} {arrival : Arrival} {request : Request} {fault : Fault}
    (h : (app.respond arrival request).1 = .error fault) :
    (app.handle arrival request).1.response = .failure := by
  unfold handle
  cases hrespond : app.respond arrival request with
  | mk outcome node =>
    rw [hrespond] at h
    subst h
    rfl

/-! ## Times of arrival -/

/-- The times of a store stand in eight bytes, so they can be written. -/
structure Dated (store : Store) : Prop where
  latest_nonneg : 0 ≤ store.latest
  latest_lt : store.latest < 256 ^ 8
  arrivals_fit : ∀ stored ∈ store.messages,
    Integer.fits Integer.usualLimit stored.timeReceived = true

theorem dated_empty : Dated .empty := ⟨by decide, by decide, List.forall_mem_nil _⟩

section Dated

variable {store : Store} {clock : Int}

theorem Dated.addBlog (h : Dated store) (blog : Blog) : Dated (store.addBlog blog) := by
  have hlatest : (store.addBlog blog).latest = store.latest := by
    unfold Store.addBlog
    cases store.containsBlog blog.id <;> rfl
  constructor
  · rw [hlatest]
    exact h.latest_nonneg
  · rw [hlatest]
    exact h.latest_lt
  · rw [Store.messages_addBlog]
    exact h.arrivals_fit

theorem Dated.arriving (h : Dated store) (hclock : clock < 256 ^ 8) (post : Post)
    (isLocal : Bool) :
    Integer.fits Integer.usualLimit (store.arriving clock post isLocal).timeReceived = true :=
  Integer.fits_of_eightBytes (Int.le_trans h.latest_nonneg (Int.le_max_right _ _))
    (Int.max_lt.mpr ⟨hclock, h.latest_lt⟩)

theorem Dated.push (h : Dated store) (hclock : clock < 256 ^ 8) (post : Post) (isLocal : Bool) :
    Dated (store.push clock post isLocal) where
  latest_nonneg := Int.le_trans h.latest_nonneg (Int.le_max_right _ _)
  latest_lt := Int.max_lt.mpr ⟨hclock, h.latest_lt⟩
  arrivals_fit := List.forall_mem_append.mpr
    ⟨h.arrivals_fit, List.forall_mem_singleton.mpr (h.arriving hclock post isLocal)⟩

end Dated

theorem clock_of_draft {node : Node} {text : Text} {post : Post}
    (hdraft : node.draft text = .ok post) : node.clock < 256 ^ 8 := by
  obtain ⟨author, -, hcompose⟩ := Node.compose_of_draft hdraft
  obtain ⟨-, messageId, signature, -, hmessage, -⟩ := Post.compose_eq_ok hcompose
  exact (Identifier.message_eq_ok_iff.mp hmessage).2.1

theorem Dated.createPost {node : Node} (h : Dated node.store)
    (hreading : node.clock < 256 ^ 8 → node.arrivalClock < 256 ^ 8) (text : Text) :
    Dated (node.createPost text).2.store := by
  obtain ⟨store, metrics, heffect, hnext⟩ := Node.createPost_effect text node
  rw [hnext]
  cases heffect with
  | kept => exact h
  | blogAdded => exact h.addBlog _
  | @drafted _ post hdraft => exact h.push (hreading (clock_of_draft hdraft)) post true

/-! ## Interfaces in use -/

/-- An interface to which only its own author has published. -/
structure Live (author : LocalAuthor) (token : Text) (app : App) : Prop where
  servable : app.node.Servable
  dated : Dated app.node.store
  /-- Where the clock admits a post, the time of its arrival is no longer. -/
  reading : app.node.clock < 256 ^ 8 → app.node.arrivalClock < 256 ^ 8
  own : ∀ stored ∈ app.node.store.messages, stored.isLocal = true
  identity : app.node.identity = ⟨some author⟩
  token : app.token = token

section Live

variable {author : LocalAuthor} {token : Text} {app : App}

theorem Live.createPost (h : Live author token app) (text : Text) :
    Live author token { app with node := (app.node.createPost text).2 } := by
  obtain ⟨store, metrics, heffect, hnext⟩ := Node.createPost_effect text app.node
  constructor
  case servable => exact h.servable.after (.createPost text)
  case dated => exact h.dated.createPost h.reading text
  case reading =>
    rw [hnext]
    exact h.reading
  case own =>
    rw [hnext]
    refine heffect.forall_messages h.own ?drafted ?delivered
    case drafted =>
      intro _ post _ _
      rfl
    case delivered =>
      intro _ haction
      cases haction
  case identity =>
    rw [hnext]
    exact h.identity
  case token => exact h.token

theorem Live.listPosts (h : Live author token app) :
    Live author token { app with node := app.node.listPosts.2 } := by
  obtain ⟨availability, metrics, hnext⟩ := Node.listPosts_keeps app.node
  constructor
  case servable => exact h.servable.after .listPosts
  case dated =>
    rw [hnext]
    exact h.dated
  case reading =>
    rw [hnext]
    exact h.reading
  case own =>
    rw [hnext]
    exact h.own
  case identity =>
    rw [hnext]
    exact h.identity
  case token => exact h.token

theorem serveFeed_node (node : Node) : (serveFeed node).2 = node.listPosts.2 := by
  unfold serveFeed
  cases node.listPosts with
  | mk result next => cases result <;> rfl

theorem serveFeed_store (node : Node) : (serveFeed node).2.store = node.store := by
  obtain ⟨availability, metrics, hnext⟩ := Node.listPosts_keeps node
  rw [serveFeed_node, hnext]

theorem Live.respond (h : Live author token app) (arrival : Arrival) (request : Request) :
    Live author token { app with node := (app.respond arrival request).2 } := by
  have hserved := served app arrival request
  generalize app.respond arrival request = result at hserved
  cases hserved with
  | idle => exact h
  | listed =>
    rw [serveFeed_node]
    exact h.listPosts
  | posted =>
    rw [answerPost_node]
    exact h.createPost _

theorem Live.count (h : Live author token app) (elapsed : Int) (success : Bool) :
    Live author token (app.count elapsed success) := by
  obtain ⟨metrics, hnode⟩ := count_node app elapsed success
  have hservable := h.servable
  constructor
  case servable =>
    rw [hnode]
    exact { hservable with }
  case dated =>
    rw [hnode]
    exact h.dated
  case reading =>
    rw [hnode]
    exact h.reading
  case own =>
    rw [hnode]
    exact h.own
  case identity =>
    rw [hnode]
    exact h.identity
  case token =>
    rw [count_token]
    exact h.token

theorem Live.after (h : Live author token app) (event : Event) :
    Live author token (app.after event) := by
  cases event with
  | request arrival request =>
    obtain ⟨success, hhandle⟩ := handle_app app arrival request
    rw [App.after, hhandle]
    exact (h.respond arrival request).count _ _
  | setClock time =>
    exact ⟨h.servable.after (.setClock time), h.dated, fun htime => htime, h.own, h.identity,
      h.token⟩
  | setArrivalClock time =>
    have hbytes : (time.toNat : Int) < 256 ^ 8 := by
      have hlt := time.toNat_lt
      omega
    exact ⟨h.servable.after (.setArrivalClock time.toNat), h.dated, fun _ => hbytes, h.own,
      h.identity, h.token⟩

theorem Live.run (h : Live author token app) (events : List Event) :
    Live author token (app.run events) := by
  induction events generalizing app with
  | nil => exact h
  | cons event events ih => exact ih (h.after event)

end Live

/-! ## What is stored stays -/

theorem messages_respond (app : App) (arrival : Arrival) (request : Request) :
    app.node.store.messages <+: (app.respond arrival request).2.store.messages := by
  have hserved := served app arrival request
  generalize app.respond arrival request = result at hserved
  cases hserved with
  | idle => exact List.prefix_refl _
  | listed => exact serveFeed_store app.node ▸ List.prefix_refl _
  | @posted text =>
    obtain ⟨store, metrics, heffect, hnext⟩ := Node.createPost_effect text app.node
    rw [answerPost_node, hnext]
    exact heffect.messages_extend

theorem messages_after (app : App) (event : Event) :
    app.node.store.messages <+: (app.after event).node.store.messages := by
  cases event with
  | request arrival request =>
    obtain ⟨metrics, hnode⟩ := handle_node app arrival request
    rw [after, hnode]
    exact messages_respond app arrival request
  | setClock time => exact List.prefix_refl _
  | setArrivalClock time => exact List.prefix_refl _

theorem messages_run (app : App) (events : List Event) :
    app.node.store.messages <+: (app.run events).node.store.messages := by
  induction events generalizing app with
  | nil => exact List.prefix_refl _
  | cons event events ih => exact (messages_after app event).trans (ih (app.after event))

end App

end SignedBlog.Http
