import SignedBlog.Proofs.Counting

/-!
What the counters of a node tell of its past.

A run of an interface is seen from outside as its transcript, which holds one exchange for each
request. `App.Counted.tally_run` is the law: over a run the counters of the node grow by the tally of
the transcript. A client that asks for them finds in the body the tally of what came before it:
`App.accounts_of_run`.
-/

namespace SignedBlog

set_option autoImplicit false

/-! ## The body that shows the counters -/

def Json.ofOptionalInt : Option Int → Json
  | none => .null
  | some n => .int n

namespace Metrics

/-- The counters in an answer. -/
def toJson (metrics : Metrics) : Json :=
  .object [
    ("posts_created", .int metrics.postsCreated),
    ("posts_rejected", .int metrics.postsRejected),
    ("remote_posts_rejected", .int metrics.remotePostsRejected),
    ("listings_served", .int metrics.listingsServed),
    ("requests_total", .int metrics.requestsTotal),
    ("requests_failed", .int metrics.requestsFailed),
    ("request_latency_p50_ms", .ofOptionalInt metrics.median),
    ("request_latency_p95_ms", .ofOptionalInt metrics.percentile95)]

theorem toWire_summary (metrics : Metrics) :
    (Value.record metrics.summary).toWire none = .ok metrics.toJson := by
  unfold summary toJson
  cases metrics.median <;> cases metrics.percentile95 <;> rfl

theorem isFinite_toJson (metrics : Metrics) : metrics.toJson.isFinite = true := by
  unfold toJson
  cases metrics.median <;> cases metrics.percentile95 <;> rfl

theorem legible_toJson (metrics : Metrics) : metrics.toJson.Legible := by
  have hnames : ("posts_created" : Text).Clean ∧ ("posts_rejected" : Text).Clean ∧
      ("remote_posts_rejected" : Text).Clean ∧ ("listings_served" : Text).Clean ∧
      ("requests_total" : Text).Clean ∧ ("requests_failed" : Text).Clean ∧
      ("request_latency_p50_ms" : Text).Clean ∧ ("request_latency_p95_ms" : Text).Clean := by decide
  have hoptional (n : Option Int) : (Json.ofOptionalInt n).Legible := by
    cases n with
    | none => exact ⟨Json.clean_null, Json.integral_null⟩
    | some n => exact Json.legible_int n
  simp [toJson, hnames, hoptional]

end Metrics

namespace Http

theorem Response.ofJson_of_legible {json : Json} (h : json.Legible) (hfinite : json.isFinite = true)
    (status : Nat) :
    ∃ body, Response.ofJson status json = .ok ⟨status, some jsonType, [], body⟩ ∧
      Json.ofBody? body = some json := by
  obtain ⟨body, hbody, hjson⟩ := Json.body_of_legible h
  refine ⟨body, ?_, hjson⟩
  unfold Response.ofJson encodeJson
  rw [if_pos hfinite, hbody]
  rfl

def metricsPath : Text := "/metrics"

namespace App

theorem serveMetrics_eq (node : Node) :
    ∃ body, serveMetrics node = .ok ⟨200, some jsonType, [], body⟩ ∧
      Json.ofBody? body = some node.metrics.toJson := by
  obtain ⟨body, hbody, hjson⟩ := Response.ofJson_of_legible node.metrics.legible_toJson
    node.metrics.isFinite_toJson 200
  refine ⟨body, ?_, hjson⟩
  unfold serveMetrics
  rw [node.metrics.toWire_summary]
  exact hbody

/-- Whoever asks gets the counters as they are before the request is counted. -/
theorem handle_of_metrics {app : App} {request : Request} (hmethod : request.method = "GET")
    (hpath : At metricsPath request.path) (arrival : Arrival) :
    (app.handle arrival request).1.response.status = 200 ∧
      Json.ofBody? (app.handle arrival request).1.response.body = some app.node.metrics.toJson := by
  have hfind : Target.find request.method request.path = .metrics := by
    rw [Target.find_of_at hpath (by decide) rfl, hmethod]
    rfl
  obtain ⟨body, hserved, hjson⟩ := serveMetrics_eq app.node
  have hrespond : (app.respond arrival request).1 = .ok ⟨200, some jsonType, [], body⟩ := by
    unfold respond
    rw [hfind]
    exact hserved
  rw [handle_of_ok hrespond]
  exact ⟨rfl, hjson⟩

/-! ## Transcripts -/

def Event.request? : Event → Option Request
  | .request _ sent => some sent
  | .setClock _ | .setArrivalClock _ => none

/-- The exchanges of a run, in their order. -/
def transcript (app : App) : List Event → List Exchange
  | [] => []
  | .request arrival request :: events =>
    app.exchange arrival request :: (app.after (.request arrival request)).transcript events
  | .setClock time :: events => (app.after (.setClock time)).transcript events
  | .setArrivalClock time :: events => (app.after (.setArrivalClock time)).transcript events

theorem transcript_requests (app : App) (events : List Event) :
    (app.transcript events).map (·.request) = events.filterMap Event.request? := by
  induction events generalizing app with
  | nil => rfl
  | cons event events ih =>
    cases event with
    | request arrival request => exact congrArg (request :: ·) (ih _)
    | setClock time => exact ih _
    | setArrivalClock time => exact ih _

/-- Each exchange is made with the interface that the events before it have left, and what stands
before it in the transcript is the transcript of those events. -/
theorem transcript_split {app : App} {events : List Event} {earlier later : List Exchange}
    {exchange : Exchange} (h : app.transcript events = earlier ++ exchange :: later) :
    ∃ before arrival, app.transcript before = earlier ∧
      exchange = (app.run before).exchange arrival exchange.request := by
  induction events generalizing app earlier with
  | nil =>
    have hnone : ([] : List Exchange) ≠ earlier ++ exchange :: later :=
      (List.append_ne_nil_of_right_ne_nil _ (List.cons_ne_nil _ _)).symm
    exact absurd h hnone
  | cons event events ih =>
    cases event with
    | request arrival request =>
      cases earlier with
      | nil =>
        obtain ⟨rfl, -⟩ := List.cons.inj h
        exact ⟨[], arrival, rfl, rfl⟩
      | cons first earlier =>
        obtain ⟨rfl, hrest⟩ := List.cons.inj h
        obtain ⟨before, last, hbefore, hexchange⟩ := ih hrest
        refine ⟨.request arrival request :: before, last, ?_, hexchange⟩
        exact congrArg (app.exchange arrival request :: ·) hbefore
    | setClock time =>
      obtain ⟨before, last, hbefore, hexchange⟩ := ih h
      exact ⟨.setClock time :: before, last, hbefore, hexchange⟩
    | setArrivalClock time =>
      obtain ⟨before, last, hbefore, hexchange⟩ := ih h
      exact ⟨.setArrivalClock time :: before, last, hbefore, hexchange⟩

/-! ## A run -/

section Counted

variable {author : LocalAuthor} {token : Text} {app : App}

theorem textLimit_respond (app : App) (arrival : Arrival) (request : Request) :
    (app.respond arrival request).2.textLimit = app.node.textLimit := by
  have hserved := served app arrival request
  generalize app.respond arrival request = result at hserved
  cases hserved with
  | idle => rfl
  | listed =>
    obtain ⟨availability, metrics, hnext⟩ := Node.listPosts_keeps app.node
    rw [serveFeed_node, hnext]
  | @posted text =>
    obtain ⟨store, metrics, -, hnext⟩ := Node.createPost_effect text app.node
    rw [answerPost_node, hnext]

theorem Counted.after (h : Counted author token app) (event : Event) :
    Counted author token (app.after event) := by
  refine { h.toLive.after event with requests := ?requests, limit := ?limit }
  case requests =>
    cases event with
    | request arrival request =>
      obtain ⟨success, hhandle⟩ := handle_app app arrival request
      rw [App.after, hhandle]
      unfold count
      rw [h.requests]
    | setClock time => exact h.requests
    | setArrivalClock time => exact h.requests
  case limit =>
    cases event with
    | request arrival request =>
      obtain ⟨metrics, hnode⟩ := handle_node app arrival request
      rw [App.after, hnode]
      change (app.respond arrival request).2.textLimit ≤ _
      rw [textLimit_respond]
      exact h.limit
    | setClock time => exact h.limit
    | setArrivalClock time => exact h.limit

/-- The counters of a node grow by the tally of the transcript, and its store by what was created. -/
theorem Counted.tally_run (h : Counted author token app) (events : List Event) :
    (app.run events).node.metrics.tally = app.node.metrics.tally + tally (app.transcript events) ∧
      (app.run events).node.store.count
        = app.node.store.count + (tally (app.transcript events)).created := by
  induction events generalizing app with
  | nil => exact ⟨rfl, rfl⟩
  | cons event events ih =>
    obtain ⟨htally, hstored⟩ := ih (h.after event)
    cases event with
    | request arrival request =>
      -- one request grows both sides by its own exchange, the rest is the run that follows
      obtain ⟨hone, hnew⟩ := h.handle arrival request
      rw [transcript, tally_cons]
      constructor
      · calc (app.run (.request arrival request :: events)).node.metrics.tally
            = (app.after (.request arrival request)).node.metrics.tally
              + tally ((app.after (.request arrival request)).transcript events) := htally
          _ = app.node.metrics.tally + (app.exchange arrival request).tally
              + tally ((app.after (.request arrival request)).transcript events) :=
            congrArg (· + _) hone
          _ = _ := Tally.add_assoc _ _ _
      · calc (app.run (.request arrival request :: events)).node.store.count
            = (app.after (.request arrival request)).node.store.count
              + (tally ((app.after (.request arrival request)).transcript events)).created := hstored
          _ = app.node.store.count + (app.exchange arrival request).tally.created
              + (tally ((app.after (.request arrival request)).transcript events)).created :=
            congrArg (· + _) hnew
          _ = _ := Nat.add_assoc _ _ _
    | setClock time => exact ⟨htally, hstored⟩
    | setArrivalClock time => exact ⟨htally, hstored⟩

end Counted

/-! ## From the start -/

theorem counted_of_start {name : Text} {privateKey : Bytes} {author : LocalAuthor} {clock : Int}
    {metrics : Metrics} {limit : Option Int} {node : Node} {token : Text} {app : App}
    (hauthor : LocalAuthor.create name privateKey = .ok author)
    (hbuild : (Node.build .empty author clock metrics limit {}).1 = .ok node)
    (hstart : start node token none = .ok app) : Counted author token app := by
  have hlive := live_of_start hauthor hbuild hstart
  obtain rfl := eq_of_start hstart
  exact { hlive with requests := rfl, limit := Node.textLimit_le_of_build hbuild }

/-- From the start on, the counters are the tally of what was asked and answered. -/
theorem tally_of_start {name : Text} {privateKey : Bytes} {author : LocalAuthor} {clock : Int}
    {limit : Option Int} {node : Node} {token : Text} {app : App}
    (hauthor : LocalAuthor.create name privateKey = .ok author)
    (hbuild : (Node.build .empty author clock {} limit {}).1 = .ok node)
    (hstart : start node token none = .ok app) (events : List Event) :
    (app.run events).node.metrics.tally = tally (app.transcript events) ∧
      (app.run events).node.store.messages.length
        = (app.transcript events).countP (·.created) := by
  obtain ⟨htally, hstored⟩ := (counted_of_start hauthor hbuild hstart).tally_run events
  have hmetrics : app.node.metrics = {} ∧ app.node.store.count = 0 := by
    obtain rfl := eq_of_start hstart
    obtain ⟨textLimit, -, rfl⟩ := Node.eq_of_build hbuild
    exact ⟨rfl, congrArg List.length (Store.messages_addBlog _ _)⟩
  constructor
  · rw [htally, hmetrics.1]
    simp [Metrics.tally, Tally.add_def]
  · change Store.count _ = _
    rw [hstored, hmetrics.2, Nat.zero_add]
    rfl

/-- However a node that was built on nothing is used over HTTP, and wherever its clock is set, every
request is counted once, and as failed if it raised or was answered with status 500 or above. As
many posts are counted, and are stored, as a `POST` was answered with success; as many rejections as
a `POST` was answered with a fault of its text; and as many listings as the feed was answered.
Whoever asks for the counters gets those of the requests before. -/
theorem accounts_of_run {name : Text} {privateKey : Bytes} {author : LocalAuthor} {clock : Int}
    {limit : Option Int} {node : Node} {token : Text} {app : App}
    (hauthor : LocalAuthor.create name privateKey = .ok author)
    (hbuild : (Node.build .empty author clock {} limit {}).1 = .ok node)
    (hstart : start node token none = .ok app) (events : List Event) :
    (app.run events).node.metrics.requestsTotal = (events.filterMap Event.request?).length ∧
    (app.run events).node.metrics.requestsFailed = (app.transcript events).countP (·.failed) ∧
    (app.run events).node.metrics.postsCreated = (app.transcript events).countP (·.created) ∧
    (app.run events).node.store.messages.length = (app.transcript events).countP (·.created) ∧
    (app.run events).node.metrics.postsRejected = (app.transcript events).countP (·.rejected) ∧
    (app.run events).node.metrics.listingsServed = (app.transcript events).countP (·.listed) ∧
    ∀ (earlier later : List Exchange) (exchange : Exchange),
      app.transcript events = earlier ++ exchange :: later →
      exchange.request.method = "GET" → At metricsPath exchange.request.path →
      exchange.reply.response.status = 200 ∧
      ∃ json, Json.ofBody? exchange.reply.response.body = some json ∧
        json.field? "requests_total" = some (.int earlier.length) ∧
        json.field? "requests_failed" = some (.int (earlier.countP (·.failed))) ∧
        json.field? "posts_created" = some (.int (earlier.countP (·.created))) ∧
        json.field? "posts_rejected" = some (.int (earlier.countP (·.rejected))) ∧
        json.field? "listings_served" = some (.int (earlier.countP (·.listed))) := by
  obtain ⟨htally, hstored⟩ := tally_of_start hauthor hbuild hstart events
  obtain ⟨htotal, hfailed, hcreated, hrejected, hlisted⟩ := Tally.mk.inj htally
  have hlength := congrArg List.length (transcript_requests app events)
  rw [List.length_map] at hlength
  refine ⟨htotal.trans hlength, hfailed, hcreated, hstored, hrejected, hlisted, ?_⟩
  intro earlier later exchange hsplit hmethod hpath
  -- what the inquiry finds are the counters of the events before it, so the law holds of those
  obtain ⟨before, arrival, hbefore, hexchange⟩ := transcript_split hsplit
  obtain ⟨hpast, -⟩ := tally_of_start hauthor hbuild hstart before
  rw [hbefore] at hpast
  obtain ⟨htotal, hfailed, hcreated, hrejected, hlisted⟩ := Tally.mk.inj hpast
  obtain ⟨hstatus, hjson⟩ := @handle_of_metrics (app.run before) _ hmethod hpath arrival
  rw [hexchange]
  refine ⟨hstatus, _, hjson, ?_⟩
  rw [← htotal, ← hfailed, ← hcreated, ← hrejected, ← hlisted]
  exact ⟨rfl, rfl, rfl, rfl, rfl⟩

def annsInquiry : Request := ⟨"GET", "/metrics", [], [], []⟩

/-- The counters are asked for after a post was published, and not counted themselves. -/
theorem accounts_of_run_anns :
    LocalAuthor.create "ann" (List.replicate 32 7) = .ok Node.ann ∧
      (Node.build .empty Node.ann 0 {} none {}).1 = .ok Node.annsNode ∧
      start Node.annsNode "secret" none = .ok quiet ∧
      ∃ post inquiry json, quiet.transcript [.request annsArrival annsRequest, .setClock (-1),
          .request annsArrival annsInquiry] = [post, inquiry] ∧
        Json.ofBody? inquiry.reply.response.body = some json ∧
        json.field? "requests_total" = some (.int 1) ∧
        json.field? "posts_created" = some (.int 1) := by
  refine ⟨rfl, rfl, rfl, ?_⟩
  obtain ⟨stored, hstores⟩ := stores_annsRequest
  have hcreated : (quiet.exchange annsArrival annsRequest).created = true :=
    (adds_of_created hstores.publishes.method hstores.publishes.status).created
  obtain ⟨-, -, -, -, -, -, hinquiries⟩ := @accounts_of_run "ann" (List.replicate 32 7) Node.ann 0
    none Node.annsNode "secret" quiet rfl rfl rfl
    [.request annsArrival annsRequest, .setClock (-1), .request annsArrival annsInquiry]
  obtain ⟨-, json, hjson, htotal, -, hposts, -⟩ :=
    hinquiries [quiet.exchange annsArrival annsRequest] [] _ rfl rfl (.inl rfl)
  rw [List.countP_singleton, hcreated] at hposts
  exact ⟨_, _, json, rfl, hjson, htotal, hposts⟩

end App

end Http

end SignedBlog
