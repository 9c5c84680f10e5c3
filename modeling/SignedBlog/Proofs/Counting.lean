import SignedBlog.Proofs.Posting
import SignedBlog.Proofs.Publication

/-!
What one request adds to the counters of a node.

A tally counts requests by what they asked for and how they were answered. A request is seen from
outside as an `App.Exchange`, which adds one to some entries of a tally; from inside it moves the
counters of the node. `App.Counted.handle` says that both are the same, also for requests that are
turned away, malformed, or fail.
-/

namespace SignedBlog

set_option autoImplicit false

/-! ## Tallies -/

structure Tally where
  total : Nat
  failed : Nat
  created : Nat
  rejected : Nat
  listings : Nat
deriving DecidableEq

instance : Add Tally where
  add a b := ⟨a.total + b.total, a.failed + b.failed, a.created + b.created,
    a.rejected + b.rejected, a.listings + b.listings⟩

theorem Tally.add_def (a b : Tally) :
    a + b = ⟨a.total + b.total, a.failed + b.failed, a.created + b.created,
      a.rejected + b.rejected, a.listings + b.listings⟩ := rfl

theorem Tally.add_assoc (a b c : Tally) : a + b + c = a + (b + c) := by
  simp only [add_def, Nat.add_assoc]

/-- The counters of a node that requests move. -/
def Metrics.tally (metrics : Metrics) : Tally where
  total := metrics.requestsTotal
  failed := metrics.requestsFailed
  created := metrics.postsCreated
  rejected := metrics.postsRejected
  listings := metrics.listingsServed

namespace Http

instance (known path : Text) : Decidable (At known path) :=
  inferInstanceAs (Decidable (path = known ∨ path = known ++ [('\n' : CodePoint)]))

/-- The answer to a text that is not fit to be published. -/
def rejection (defect : TextDefect) : Response := .refusal 400 defect.message []

namespace App

/-! ## Requests from outside -/

/-- A request and the answer to it. -/
structure Exchange where
  request : Request
  reply : Reply

namespace Exchange

/-- The node failed on the request, or answered that it failed. -/
def failed (exchange : Exchange) : Bool :=
  exchange.reply.raised.isSome || 500 ≤ exchange.reply.response.status

def created (exchange : Exchange) : Bool :=
  exchange.request.method = "POST" && exchange.reply.response.status = 200

/-- A `POST` was answered with what was wrong with its text. -/
def rejected (exchange : Exchange) : Bool :=
  exchange.request.method = "POST" && exchange.reply.response.status = 400 &&
    [TextDefect.notUtf8, .tooLong].any fun defect =>
      exchange.reply.response.body = (rejection defect).body

def listed (exchange : Exchange) : Bool :=
  exchange.request.method = "GET" && At postsPath exchange.request.path &&
    exchange.reply.response.status = 200

/-- What one exchange adds to a tally. -/
def tally (exchange : Exchange) : Tally where
  total := 1
  failed := exchange.failed.toNat
  created := exchange.created.toNat
  rejected := exchange.rejected.toNat
  listings := exchange.listed.toNat

end Exchange

/-- How many of the exchanges are of each kind. -/
def tally (exchanges : List Exchange) : Tally where
  total := exchanges.length
  failed := exchanges.countP (·.failed)
  created := exchanges.countP (·.created)
  rejected := exchanges.countP (·.rejected)
  listings := exchanges.countP (·.listed)

theorem tally_cons (exchange : Exchange) (exchanges : List Exchange) :
    tally (exchange :: exchanges) = exchange.tally + tally exchanges := by
  have hcount : ∀ kind : Exchange → Bool, (exchange :: exchanges).countP kind
      = (kind exchange).toNat + exchanges.countP kind := by
    intro kind
    rw [List.countP_cons, Nat.add_comm]
    cases kind exchange <;> rfl
  simp only [tally, Tally.add_def, Exchange.tally, hcount, List.length_cons, Nat.add_comm 1]

/-! ## Requests that neither list nor publish -/

/-- An answer that no counter of posts or listings goes with. -/
def Silent (request : Request) (outcome : Except Fault Response) : Prop :=
  ∀ response, outcome = .ok response →
    ¬ (request.method = "POST" ∧ response.status = 200) ∧
    ¬ (request.method = "POST" ∧ response.status = 400 ∧
      ∃ defect, response.body = (rejection defect).body) ∧
    ¬ (request.method = "GET" ∧ At postsPath request.path ∧ response.status = 200)

theorem silent_of_status {request : Request} {outcome : Except Fault Response}
    (h : ∀ response, outcome = .ok response → response.status ≠ 200 ∧ response.status ≠ 400) :
    Silent request outcome := by
  intro response hresponse
  obtain ⟨hsuccess, hrefusal⟩ := h response hresponse
  exact ⟨fun hpost => hsuccess hpost.2, fun hpost => hrefusal hpost.2.1,
    fun hlist => hsuccess hlist.2.2⟩

theorem silent_of_refusal {request : Request} {status : Nat} (h : status ≠ 200 ∧ status ≠ 400)
    (detail : Text) (headers : List (Text × Text)) :
    Silent request (.ok (.refusal status detail headers)) := by
  apply silent_of_status
  rintro _ ⟨⟩
  exact h

theorem silent_of_fault {request : Request} (fault : Fault) : Silent request (.error fault) :=
  fun _ hresponse => nomatch hresponse

theorem silent_of_ofJson {request : Request} {status : Nat} (h : status ≠ 200 ∧ status ≠ 400)
    (json : Json) : Silent request (Response.ofJson status json) := by
  apply silent_of_status
  intro response hresponse
  rw [status_ofJson hresponse]
  exact h

/-- Elsewhere only `GET` has a target of its own. -/
theorem get_of_find {method path : Text} (hpath : ¬ At postsPath path)
    (h : Target.find method path ≠ .wrongMethod ∧ Target.find method path ≠ .unknown ∧
      ∀ bare, Target.find method path ≠ .elsewhere bare) : method = "GET" := by
  obtain ⟨route, hroute, hat, hfind⟩ | ⟨bare, hfind⟩ | hfind := Target.find_cases method path
  · simp only [routes, List.mem_cons, List.not_mem_nil, or_false] at hroute
    obtain rfl | hroute := hroute
    · exact absurd hat hpath
    by_contra hother
    have hmethod : (method == ("GET" : Text)) = false := beq_eq_false_iff_ne.mpr hother
    refine h.1 (hfind.trans ?_)
    obtain rfl | rfl | rfl := hroute <;>
      simp only [List.lookup_cons, hmethod, List.lookup_nil, Option.getD_none]
  · exact absurd hfind (h.2.2 bare)
  · exact absurd hfind h.2.1

theorem authorized_of_not_admits {app : App} {request : Request} (h : ¬ app.Admits request)
    (next : Outcome Response) :
    (app.authorized request next).2 = app.node ∧
      Silent request (app.authorized request next).1 := by
  unfold authorized
  unfold Admits at h
  cases hcheck : checkToken app.token (request.header? "authorization") with
  | error fault => exact ⟨rfl, silent_of_fault fault⟩
  | ok access =>
    cases access with
    | granted => exact absurd hcheck h
    | missing => exact ⟨rfl, silent_of_refusal (by decide) _ _⟩
    | refused => exact ⟨rfl, silent_of_refusal (by decide) _ _⟩

/-- A body that cannot be read is refused in other words than a text. -/
theorem silent_of_unreadable {request : Request} (hmethod : request.method = "POST") :
    Silent request (.ok (.refusal 400 "There was an error parsing the body" [])) := by
  rintro _ ⟨⟩
  refine ⟨fun hpost => absurd hpost.2 (by decide), ?_, ?_⟩
  · rintro ⟨-, -, defect, hbody⟩
    cases defect <;> exact absurd hbody (by decide +kernel)
  · rintro ⟨hget, -, -⟩
    rw [hmethod] at hget
    exact absurd hget (by decide)

theorem publish_of_not_posts {app : App} {request : Request} {body : Body}
    (hmethod : request.method = "POST") (hpath : At postsPath request.path)
    (hbody : request.readBody = .ok body) (hposts : ∀ text, ¬ app.Posts request text) :
    (app.authorized request (publish body app.node)).2 = app.node ∧
      Silent request (app.authorized request (publish body app.node)).1 := by
  by_cases hadmits : app.Admits request
  rotate_left
  · exact authorized_of_not_admits hadmits _
  have hgoes : app.authorized request (publish body app.node) = publish body app.node := by
    unfold Admits at hadmits
    unfold authorized
    rw [hadmits]
  rw [hgoes]
  cases htext : body.text with
  | error complaint =>
    have hpublish : publish body app.node
        = (complaint.toJson.bind (Response.ofJson 422), app.node) := by
      unfold publish
      rw [htext]
    rw [hpublish]
    cases complaint.toJson with
    | error fault => exact ⟨rfl, silent_of_fault fault⟩
    | ok json => exact ⟨rfl, silent_of_ofJson (by decide) json⟩
  | ok text =>
    refine absurd ⟨hmethod, hpath, hadmits, ?_⟩ (hposts text)
    unfold Request.sentText?
    simp only [hbody, htext]
    rfl

/-- What neither lists nor publishes leaves the node alone. -/
theorem respond_of_neither {app : App} {request : Request} (hlists : ¬ app.Lists request)
    (hposts : ∀ text, ¬ app.Posts request text) (arrival : Arrival) :
    (app.respond arrival request).2 = app.node ∧
      Silent request (app.respond arrival request).1 := by
  by_cases hpath : At postsPath request.path
  · have hfind := @Target.find_feed request.method _ hpath
    unfold respond
    rw [hfind]
    by_cases hget : request.method = "GET"
    · rw [if_pos hget]
      exact authorized_of_not_admits (fun hadmits => hlists ⟨hget, hpath, hadmits⟩) _
    rw [if_neg hget]
    by_cases hpost : request.method = "POST"
    · rw [if_pos hpost]
      simp only
      unfold servePublish
      cases hbody : request.readBody with
      | error unreadable =>
        cases unreadable with
        | notText => exact ⟨rfl, silent_of_unreadable hpost⟩
        | notJson misread =>
          dsimp only
          exact ⟨rfl, silent_of_ofJson (by decide) (misreadJson misread)⟩
      | ok body => exact publish_of_not_posts hpost hpath hbody hposts
    · rw [if_neg hpost]
      exact ⟨rfl, silent_of_refusal (by decide) _ _⟩
  · obtain ⟨hlist, hcreate⟩ := @Target.find_elsewhere request.method _ hpath
    -- What answers from the node here is asked for by `GET`, and not at the path of the feed.
    have hopen : ∀ outcome : Except Fault Response, request.method = "GET" →
        Silent request outcome := by
      intro outcome hget response _
      have hpost : request.method ≠ "POST" := by
        rw [hget]
        decide
      exact ⟨fun h => hpost h.1, fun h => hpost h.1, fun h => hpath h.2.1⟩
    unfold respond
    cases hfind : Target.find request.method request.path with
    | listPosts => exact absurd hfind hlist
    | createPost => exact absurd hfind hcreate
    | health => exact ⟨rfl, hopen _ (get_of_find hpath (by simp [hfind]))⟩
    | detailedHealth => exact ⟨rfl, hopen _ (get_of_find hpath (by simp [hfind]))⟩
    | metrics => exact ⟨rfl, hopen _ (get_of_find hpath (by simp [hfind]))⟩
    | wrongMethod => exact ⟨rfl, silent_of_refusal (by decide) _ _⟩
    | elsewhere bare =>
      refine ⟨rfl, silent_of_status ?_⟩
      intro response hresponse
      cases hlocation : location request.host bare request.query with
      | error fault => simp only [hlocation, Except.map, reduceCtorEq] at hresponse
      | ok target =>
        simp only [hlocation, Except.map, Except.ok.injEq] at hresponse
        subst hresponse
        change 307 ≠ 200 ∧ 307 ≠ 400
        decide
    | unknown => exact ⟨rfl, silent_of_refusal (by decide) _ _⟩

/-! ## Kinds of exchanges -/

/-- A request and what the interface answers to it. -/
def exchange (app : App) (arrival : Arrival) (request : Request) : Exchange :=
  ⟨request, (app.handle arrival request).1⟩

section Kinds

variable {exchange : Exchange}

theorem Exchange.created_iff : exchange.created = true ↔
    exchange.request.method = "POST" ∧ exchange.reply.response.status = 200 := by
  simp [created]

theorem Exchange.rejected_iff : exchange.rejected = true ↔
    exchange.request.method = "POST" ∧ exchange.reply.response.status = 400 ∧
      ∃ defect, exchange.reply.response.body = (rejection defect).body := by
  have hdefects : (∃ defect, exchange.reply.response.body = (rejection defect).body) ↔
      exchange.reply.response.body = (rejection .notUtf8).body ∨
        exchange.reply.response.body = (rejection .tooLong).body := by
    constructor
    · rintro ⟨defect, hbody⟩
      cases defect with
      | notUtf8 => exact .inl hbody
      | tooLong => exact .inr hbody
    · rintro (hbody | hbody)
      · exact ⟨_, hbody⟩
      · exact ⟨_, hbody⟩
  rw [hdefects]
  simp [rejected, and_assoc]

theorem Exchange.listed_iff : exchange.listed = true ↔
    exchange.request.method = "GET" ∧ At postsPath exchange.request.path ∧
      exchange.reply.response.status = 200 := by
  simp [listed, and_assoc]

/-- The entries of posts and listings that one exchange adds to. -/
structure Exchange.Adds (exchange : Exchange) (created rejected listed : Bool) : Prop where
  created : exchange.created = created
  rejected : exchange.rejected = rejected
  listed : exchange.listed = listed

end Kinds

variable {app : App} {arrival : Arrival} {request : Request}

theorem adds_of_silent (h : Silent request (app.respond arrival request).1) :
    (app.exchange arrival request).Adds false false false := by
  have hkinds : ∀ response, (app.handle arrival request).1.response = response →
      ¬ (request.method = "POST" ∧ response.status = 200) ∧
      ¬ (request.method = "POST" ∧ response.status = 400 ∧
        ∃ defect, response.body = (rejection defect).body) ∧
      ¬ (request.method = "GET" ∧ At postsPath request.path ∧ response.status = 200) := by
    rintro _ rfl
    cases houtcome : (app.respond arrival request).1 with
    | error fault =>
      rw [handle_of_error houtcome]
      exact ⟨fun hpost => absurd hpost.2 (by decide), fun hpost => absurd hpost.2.1 (by decide),
        fun hlist => absurd hlist.2.2 (by decide)⟩
    | ok response =>
      rw [handle_of_ok houtcome]
      exact h response houtcome
  obtain ⟨hcreated, hrejected, hlisted⟩ := hkinds _ rfl
  constructor
  · exact Bool.eq_false_iff.mpr (mt Exchange.created_iff.mp hcreated)
  · exact Bool.eq_false_iff.mpr (mt Exchange.rejected_iff.mp hrejected)
  · exact Bool.eq_false_iff.mpr (mt Exchange.listed_iff.mp hlisted)

theorem adds_of_listed (hmethod : request.method = "GET") (hpath : At postsPath request.path)
    (hstatus : (app.handle arrival request).1.response.status = 200) :
    (app.exchange arrival request).Adds false false true := by
  have hpost : request.method ≠ "POST" := by
    rw [hmethod]
    decide
  constructor
  · exact Bool.eq_false_iff.mpr fun h => hpost (Exchange.created_iff.mp h).1
  · exact Bool.eq_false_iff.mpr fun h => hpost (Exchange.rejected_iff.mp h).1
  · exact Exchange.listed_iff.mpr ⟨hmethod, hpath, hstatus⟩

theorem adds_of_created (hmethod : request.method = "POST")
    (hstatus : (app.handle arrival request).1.response.status = 200) :
    (app.exchange arrival request).Adds true false false := by
  constructor
  · exact Exchange.created_iff.mpr ⟨hmethod, hstatus⟩
  · refine Bool.eq_false_iff.mpr fun h => ?_
    have hrefused := (Exchange.rejected_iff.mp h).2.1
    exact absurd (hstatus.symm.trans hrefused) (by decide)
  · refine Bool.eq_false_iff.mpr fun h => ?_
    exact absurd (hmethod.symm.trans (Exchange.listed_iff.mp h).1) (by decide)

theorem adds_of_rejected {defect : TextDefect} (hmethod : request.method = "POST")
    (hresponse : (app.handle arrival request).1.response = rejection defect) :
    (app.exchange arrival request).Adds false true false := by
  constructor
  · refine Bool.eq_false_iff.mpr fun h => ?_
    have hstatus : (app.handle arrival request).1.response.status = 200 :=
      (Exchange.created_iff.mp h).2
    rw [hresponse] at hstatus
    change 400 = 200 at hstatus
    exact absurd hstatus (by decide)
  · refine Exchange.rejected_iff.mpr ⟨hmethod, ?_, defect, ?_⟩
    · exact congrArg Response.status hresponse
    · exact congrArg Response.body hresponse
  · refine Bool.eq_false_iff.mpr fun h => ?_
    exact absurd (hmethod.symm.trans (Exchange.listed_iff.mp h).1) (by decide)

/-! ## One request -/

/-- An interface that counts its requests in its own node, and to which only its own author has
published. -/
structure Counted (author : LocalAuthor) (token : Text) (app : App) : Prop
    extends Live author token app where
  requests : app.requests = none
  limit : app.node.textLimit ≤ maxTextLength

section Counted

variable {author : LocalAuthor} {token : Text}

/-- What the counters of a node become when some posts and listings are added. -/
structure Moves (before after : Node) (created rejected listed : Bool) : Prop where
  tally : after.metrics.tally
    = before.metrics.tally + ⟨0, 0, created.toNat, rejected.toNat, listed.toNat⟩
  stored : after.store.count = before.store.count + created.toNat

theorem moves_nothing (node : Node) : Moves node node false false false := ⟨rfl, rfl⟩

/-- Before a request is counted it has moved the counters that go with its answer. -/
theorem Counted.respond (h : Counted author token app) (arrival : Arrival) (request : Request) :
    ∃ created rejected listed, (app.exchange arrival request).Adds created rejected listed ∧
      Moves app.node (app.respond arrival request).2 created rejected listed := by
  by_cases hlists : app.Lists request
  · have hstatus := (h.handle_of_lists hlists arrival).1
    refine ⟨false, false, true, adds_of_listed hlists.method hlists.path hstatus, ?_⟩
    rw [respond_of_lists hlists, serveFeed_node, Node.listPosts_eq h.servable.coherent
      (Node.canRead_of_unlimited h.servable.readable _)]
    exact ⟨rfl, rfl⟩
  by_cases hposts : ∃ text, app.Posts request text
  rotate_left
  · obtain ⟨hnode, hsilent⟩ :=
      respond_of_neither hlists (fun text htext => hposts ⟨text, htext⟩) arrival
    refine ⟨false, false, false, adds_of_silent hsilent, ?_⟩
    rw [hnode]
    exact moves_nothing app.node
  obtain ⟨text, hposts⟩ := hposts
  have hrespond := respond_of_posts hposts arrival
  have hpublication := Node.publication h.limit text
  unfold answerPost at hrespond
  generalize app.node.createPost text = outcome at hpublication hrespond
  cases hpublication with
  | @rejected defect hunfit =>
    have hreply := handle_of_ok (congrArg Prod.fst hrespond)
    refine ⟨false, true, false, adds_of_rejected hposts.method hreply, ?_⟩
    rw [hrespond]
    exact ⟨rfl, rfl⟩
  | @failed fault hfit hfault =>
    have hfails : app.respond arrival request = (.error fault, app.node) := by
      rw [hrespond]
      cases fault <;> first | rfl | cases hfault
    refine ⟨false, false, false, adds_of_silent ?_, ?_⟩
    · rw [hfails]
      exact silent_of_fault fault
    · rw [hfails]
      exact moves_nothing app.node
  | @published post hfit hdraft =>
    obtain ⟨body, hbody, -⟩ := h.answer_of_draft hdraft
    simp only [record_of_draft hdraft, hbody] at hrespond
    have hreply := handle_of_ok (congrArg Prod.fst hrespond)
    refine ⟨true, false, false, adds_of_created hposts.method (by rw [hreply]), ?_⟩
    rw [hrespond]
    refine ⟨rfl, ?_⟩
    simp [Store.count, Node.countCreated, Store.push]

/-- Whatever comes of a request, it is counted once, and as failed if the node failed on it. -/
theorem metrics_handle (hrequests : app.requests = none) (arrival : Arrival) (request : Request) :
    (app.handle arrival request).2.node.metrics.tally
      = (app.respond arrival request).2.metrics.tally
        + ⟨1, (app.exchange arrival request).failed.toNat, 0, 0, 0⟩ := by
  unfold exchange Exchange.failed handle
  cases app.respond arrival request with
  | mk outcome node =>
    cases outcome with
    | error fault => simp [count, hrequests, Metrics.recordRequest, Metrics.tally, Tally.add_def]
    | ok response =>
      by_cases hfailed : 500 ≤ response.status
      · simp [count, hrequests, Metrics.recordRequest, Metrics.tally, Tally.add_def, hfailed]
      · simp [count, hrequests, Metrics.recordRequest, Metrics.tally, Tally.add_def, hfailed,
          Nat.lt_of_not_le hfailed]

theorem Counted.handle (h : Counted author token app) (arrival : Arrival) (request : Request) :
    (app.handle arrival request).2.node.metrics.tally
        = app.node.metrics.tally + (app.exchange arrival request).tally ∧
      (app.handle arrival request).2.node.store.count
        = app.node.store.count + (app.exchange arrival request).tally.created := by
  obtain ⟨created, rejected, listed, hadds, hmoves⟩ := h.respond arrival request
  have htally : (app.exchange arrival request).tally
      = ⟨1, (app.exchange arrival request).failed.toNat, created.toNat, rejected.toNat,
          listed.toNat⟩ := by
    unfold Exchange.tally
    rw [hadds.created, hadds.rejected, hadds.listed]
  rw [metrics_handle h.requests, hmoves.tally, store_handle, hmoves.stored, htally]
  simp [Tally.add_def]

end Counted

end App

end Http

end SignedBlog
