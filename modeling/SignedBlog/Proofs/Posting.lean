import SignedBlog.Proofs.FeedBody
import SignedBlog.Proofs.FeedGrowth
import SignedBlog.Proofs.Repetition
import SignedBlog.Proofs.Requests
import SignedBlog.Proofs.Strangers

/-!
What a client that publishes can rely on.

A request stores a message exactly if it is a `POST` to the feed that is answered with success, and
no request stores more than one. The answer holds the text that was sent, and every later reading of
the feed finds the same object once: `App.handle_of_run`. The path of the feed may have a line break
at its end, and then a message is stored as well.
-/

namespace SignedBlog.Http

set_option autoImplicit false

/-- A value is an item of a list at one place only. -/
def OccursOnce (value : Json) (items : List Json) : Prop :=
  ∃ before after, items = before ++ value :: after ∧ value ∉ before ∧ value ∉ after

theorem occursOnce_of_nodup {value : Json} {items : List Json} (hnodup : items.Nodup)
    (hmem : value ∈ items) : OccursOnce value items := by
  obtain ⟨before, after, rfl⟩ := List.append_of_mem hmem
  have hapart := List.nodup_middle.mp hnodup
  rw [List.nodup_cons, List.mem_append, not_or] at hapart
  exact ⟨before, after, rfl, hapart.1.1, hapart.1.2⟩

namespace App

section Live

variable {author : LocalAuthor} {token : Text} {app : App}

/-! ## The answer to a post -/

theorem Live.fits_of_draft (h : Live author token app) {text : Text} {post : Post}
    (hdraft : app.node.draft text = .ok post) :
    (app.node.identity.record (app.node.store.arriving app.node.arrivalClock post true)).Fits
      Integer.usualLimit := by
  obtain ⟨hversion, htime⟩ := Node.numbers_fit_of_draft hdraft
  exact ⟨hversion, htime, h.dated.arriving (h.reading (clock_of_draft hdraft)) post true⟩

theorem Live.answer_of_draft (h : Live author token app) {text : Text} {post : Post}
    (hdraft : app.node.draft text = .ok post) :
    ∃ body,
      answer (app.node.identity.record
          (app.node.store.arriving app.node.arrivalClock post true)).toValue.render
        = .ok ⟨200, some jsonType, [], body⟩ ∧
      Json.ofBody? body = some (app.node.identity.record
        (app.node.store.arriving app.node.arrivalClock post true)).toJson := by
  obtain ⟨body, hbody, hjson⟩ := Record.render_toValue (h.fits_of_draft hdraft)
    (h.servable.encodable_of_draft hdraft)
  refine ⟨body, ?_, hjson⟩
  rw [hbody]
  rfl

/-! ## Reading the feed -/

/-- The records of what is stored, in the order of the feed. -/
def feedItems (app : App) : List Json :=
  (app.node.store.feed.map app.node.identity.record).map Record.toJson

theorem Live.feedItems_nodup (h : Live author token app) : app.feedItems.Nodup := by
  have hids := h.servable.coherent.feed_ids_nodup
  have hrecords : (app.node.store.feed.map app.node.identity.record).Nodup := by
    refine List.Nodup.of_map (fun record => record.header.id) ?_
    rw [List.map_map]
    exact hids
  exact hrecords.map Record.toJson_injective

theorem Live.mem_feedItems (h : Live author token app) {stored : Stored}
    (hstored : stored ∈ app.node.store.messages) :
    (app.node.identity.record stored).toJson ∈ app.feedItems := by
  have hfeed := h.servable.coherent.mem_feed_iff.mpr hstored
  exact List.mem_map_of_mem (List.mem_map_of_mem hfeed)

/-- Whoever may read the feed gets all of it. -/
theorem Live.handle_of_lists (h : Live author token app) {request : Request}
    (hlists : app.Lists request) (arrival : Arrival) :
    (app.handle arrival request).1.response.status = 200 ∧
      Json.ofBody? (app.handle arrival request).1.response.body = some (.array app.feedItems) := by
  have hforeign : ∀ stored ∈ app.node.store.messages, stored.isLocal = false →
      stored.post.author.name.Clean := by
    intro stored hstored hlocal
    rw [h.own stored hstored] at hlocal
    cases hlocal
  have hencodable := h.servable.encodable_iff.mpr hforeign
  have hlist := Node.listPosts_eq h.servable.coherent
    (Node.canRead_of_unlimited h.servable.readable _)
  obtain ⟨records, hrecords, hwritten, -⟩ := h.servable.serveFeed_cases
  obtain ⟨body, hbody, hserved⟩ := (hwritten h.dated.arrivals_fit).1 hforeign
  rw [hlist] at hrecords
  cases hrecords
  have hjson := Record.ofBody?_of_render hencodable hbody
  rw [← respond_of_lists hlists arrival] at hserved
  rw [handle_of_ok hserved]
  exact ⟨rfl, hjson⟩

/-! ## What a request stores -/

/-- A `POST` to the feed that was answered with success. -/
structure Publishes (request : Request) (reply : Reply) : Prop where
  method : request.method = "POST"
  path : At postsPath request.path
  status : reply.response.status = 200

theorem ok_of_status {arrival : Arrival} {request : Request}
    (h : (app.handle arrival request).1.response.status = 200) :
    ∃ response, (app.respond arrival request).1 = .ok response ∧ response.status = 200 := by
  cases houtcome : (app.respond arrival request).1 with
  | error fault =>
    rw [handle_of_error houtcome] at h
    cases h
  | ok response =>
    rw [handle_of_ok houtcome] at h
    exact ⟨response, rfl, h⟩

theorem store_handle (app : App) (arrival : Arrival) (request : Request) :
    (app.handle arrival request).2.node.store = (app.respond arrival request).2.store := by
  obtain ⟨metrics, hnode⟩ := handle_node app arrival request
  rw [hnode]

/-- A request that publishes stores one message, and the answer is its record. -/
structure Stores (app : App) (arrival : Arrival) (request : Request) (stored : Stored) : Prop where
  publishes : Publishes request (app.handle arrival request).1
  admitted : app.Admits request
  blogs : (app.handle arrival request).2.node.store.blogs = app.node.store.blogs
  messages : (app.handle arrival request).2.node.store.messages
    = app.node.store.messages ++ [stored]
  answered : Json.ofBody? (app.handle arrival request).1.response.body
    = some (app.node.identity.record stored).toJson
  sent : request.sentText? = some stored.post.text

theorem Live.stores_or_not (h : Live author token app) (arrival : Arrival) (request : Request) :
    (∃ stored, Stores app arrival request stored) ∨
      ¬ Publishes request (app.handle arrival request).1 ∧
        (app.handle arrival request).2.node.store = app.node.store := by
  have hserved := served app arrival request
  have hstore := store_handle app arrival request
  generalize hrespond : app.respond arrival request = result at hserved hstore
  cases hserved with
  | @idle outcome hidle =>
    refine .inr ⟨fun hpublishes => ?_, hstore⟩
    obtain ⟨response, hresponse, hstatus⟩ := ok_of_status hpublishes.status
    rw [hrespond] at hresponse
    exact hidle hpublishes.method hpublishes.path response hresponse hstatus
  | listed hlists =>
    refine .inr ⟨fun hpublishes => ?_, hstore.trans (serveFeed_store app.node)⟩
    have hmethod := hlists.method.symm.trans hpublishes.method
    exact absurd hmethod (by decide)
  | @posted text hposts =>
    obtain ⟨outcome, metrics, hanswer, hrefused⟩ | ⟨post, hdraft, -, -, hanswer⟩ :=
      answerPost_cases text app.node
    · rw [hanswer] at hrespond hstore
      refine .inr ⟨fun hpublishes => ?_, hstore⟩
      obtain ⟨response, hresponse, hstatus⟩ := ok_of_status hpublishes.status
      rw [hrespond] at hresponse
      have hbad := hrefused response hresponse
      omega
    · obtain ⟨body, hbody, hjson⟩ := h.answer_of_draft hdraft
      obtain ⟨-, -, -, htext, -⟩ := Node.draft_eq_ok hdraft
      rw [hbody] at hanswer
      rw [hanswer] at hrespond hstore
      have hreply := handle_of_ok (congrArg Prod.fst hrespond)
      refine .inl ⟨app.node.store.arriving app.node.arrivalClock post true, ?_⟩
      exact {
        publishes := ⟨hposts.method, hposts.path, by rw [hreply]⟩
        admitted := hposts.admitted
        blogs := by
          rw [hstore]
          exact Store.blogs_push _ _ _ _
        messages := by
          rw [hstore]
          rfl
        answered := by
          rw [hreply]
          exact hjson
        sent := by
          rw [hposts.sent]
          exact congrArg some htext.symm }

/-! ## What is stored is read -/

theorem Lists.of_carries {request get : Request} (hadmitted : app.Admits request)
    (hmethod : get.method = "GET") (hpath : At postsPath get.path)
    (hcarries : CarriesToken app.token (get.header? "authorization")) : app.Lists get := by
  have hascii := (checkToken_eq_granted_iff.mp hadmitted).1
  exact ⟨hmethod, hpath, checkToken_eq_granted_iff.mpr ⟨hascii, hcarries⟩⟩

/-- Whoever may read the feed of an interface, now or later, finds a value in it once. -/
def FeedHolds (token : Text) (value : Json) (app : App) : Prop :=
  ∀ (later : List Event) (reading : Arrival) (get : Request), get.method = "GET" →
    At postsPath get.path → CarriesToken token (get.header? "authorization") →
    ∃ items, ((app.run later).handle reading get).1.response.status = 200 ∧
      Json.ofBody? ((app.run later).handle reading get).1.response.body = some (.array items) ∧
      OccursOnce value items

theorem Stores.feedHolds (h : Live author token app) {arrival : Arrival} {request : Request}
    {stored : Stored} (hstores : Stores app arrival request stored) :
    FeedHolds token (app.node.identity.record stored).toJson (app.handle arrival request).2 := by
  intro later reading get hmethod hpath hcarries
  have hnext : Live author token (app.handle arrival request).2 :=
    h.after (.request arrival request)
  have hlast := hnext.run later
  have hmem : stored ∈ ((app.handle arrival request).2.run later).node.store.messages := by
    have hextends := messages_run (app.handle arrival request).2 later
    refine hextends.subset ?_
    rw [hstores.messages]
    exact List.mem_append_right _ (List.mem_singleton.mpr rfl)
  have hadmitted : ((app.handle arrival request).2.run later).Admits request := by
    have hfirst := hstores.admitted
    unfold Admits at hfirst ⊢
    rw [hlast.token]
    rwa [h.token] at hfirst
  have hlists : ((app.handle arrival request).2.run later).Lists get :=
    .of_carries hadmitted hmethod hpath (hlast.token.symm ▸ hcarries)
  have hidentity :
      ((app.handle arrival request).2.run later).node.identity = app.node.identity := by
    rw [hlast.identity, h.identity]
  have hitem := hlast.mem_feedItems hmem
  rw [hidentity] at hitem
  obtain ⟨hstatus, hbody⟩ := hlast.handle_of_lists hlists reading
  exact ⟨_, hstatus, hbody, occursOnce_of_nodup hlast.feedItems_nodup hitem⟩

end Live

theorem eq_of_start {node : Node} {token : Text} {requests : Option Metrics} {app : App}
    (h : start node token requests = .ok app) : app = ⟨node, token, requests⟩ := by
  unfold start at h
  cases hauthor : node.identity.localAuthor with
  | error fault =>
    rw [hauthor] at h
    cases h
  | ok author =>
    rw [hauthor] at h
    cases h
    rfl

theorem live_of_start {name : Text} {privateKey : Bytes} {author : LocalAuthor} {clock : Int}
    {metrics : Metrics} {limit : Option Int} {node : Node} {token : Text}
    {requests : Option Metrics} {app : App}
    (hauthor : LocalAuthor.create name privateKey = .ok author)
    (hbuild : (Node.build .empty author clock metrics limit {}).1 = .ok node)
    (hstart : start node token requests = .ok app) : Live author token app := by
  obtain ⟨hstore, hidentity, -, -⟩ := Node.build_eq_ok hbuild
  obtain rfl := eq_of_start hstart
  obtain ⟨textLimit, -, hnode⟩ := Node.eq_of_build hbuild
  refine ⟨Node.servable_of_build hauthor hbuild, ?dated, ?reading, ?own, hidentity, rfl⟩
  case dated =>
    rw [hstore]
    exact dated_empty.addBlog _
  case reading =>
    rw [hnode]
    exact fun hclock => hclock
  case own =>
    rw [hstore, Store.messages_addBlog]
    exact List.forall_mem_nil _

/-- However an interface was used before, a request stores one message if it is a `POST` to the feed
that is answered with success, and nothing otherwise. The answer holds the text that was sent, and
whatever happens later, whoever may read the feed finds in it just one object equal to that
answer. -/
theorem handle_of_run {name : Text} {privateKey : Bytes} {author : LocalAuthor} {clock : Int}
    {metrics : Metrics} {limit : Option Int} {node : Node} {token : Text}
    {requests : Option Metrics} {app : App}
    (hauthor : LocalAuthor.create name privateKey = .ok author)
    (hbuild : (Node.build .empty author clock metrics limit {}).1 = .ok node)
    (hstart : start node token requests = .ok app) (earlier : List Event) (arrival : Arrival)
    (request : Request) :
    ((app.run earlier).handle arrival request).2.node.store.blogs
        = (app.run earlier).node.store.blogs ∧
      (¬ Publishes request ((app.run earlier).handle arrival request).1 →
        ((app.run earlier).handle arrival request).2.node.store.messages
          = (app.run earlier).node.store.messages) ∧
      (Publishes request ((app.run earlier).handle arrival request).1 →
        (∃ stored, ((app.run earlier).handle arrival request).2.node.store.messages
          = (app.run earlier).node.store.messages ++ [stored]) ∧
        ∃ text json, request.sentText? = some text ∧
          Json.ofBody? ((app.run earlier).handle arrival request).1.response.body = some json ∧
          json.field? "text" = some (.text text) ∧
          FeedHolds token json ((app.run earlier).handle arrival request).2) := by
  have h := (live_of_start hauthor hbuild hstart).run earlier
  obtain ⟨stored, hstores⟩ | ⟨hnot, hkept⟩ := h.stores_or_not arrival request
  · refine ⟨hstores.blogs, fun hnot => absurd hstores.publishes hnot, fun _ => ?_⟩
    exact ⟨⟨stored, hstores.messages⟩, _, _, hstores.sent, hstores.answered, rfl,
      hstores.feedHolds h⟩
  · rw [hkept]
    exact ⟨rfl, fun _ => rfl, fun hpublishes => absurd hpublishes hnot⟩

/-! ## The path with a line break -/

def annsRequest : Request where
  method := "POST"
  path := "/v1/blogs/posts\n"
  query := []
  headers := [("Authorization", "Bearer secret"), ("Content-Type", "application/json")]
  body := Bytes.ofString "\x7b\"text\":\"hello\"\x7d"

def annsArrival : Arrival := ⟨"1", 3⟩

theorem posts_annsRequest : Posts quiet annsRequest "hello" where
  method := rfl
  path := .inr (by decide)
  admitted := by
    unfold Admits
    decide
  sent := by decide +kernel

theorem live_quiet : Live Node.ann "secret" quiet :=
  @live_of_start "ann" (List.replicate 32 7) Node.ann 0 {} none Node.annsNode "secret" none quiet
    rfl rfl rfl

theorem createPost_quiet : ∃ record, (quiet.node.createPost "hello").1 = .ok record := by
  have hstart : Node.annsNode.Published Node.ann Node.annsNode.textLimit [] :=
    @Node.published_of_build "ann" (List.replicate 32 7) Node.ann 0 {} none {} .messageGone
      Node.annsNode rfl rfl
  have hadmissible : Submission.Admissible ⟨0, "hello"⟩ Node.annsNode.textLimit :=
    ⟨by decide, by decide, _, rfl, by decide⟩
  have hcollide : Submission.CollisionFree Node.ann ([] ++ [⟨0, "hello"⟩]) := by
    intro a ha b hb _
    rw [List.mem_singleton.mp ha, List.mem_singleton.mp hb]
  obtain ⟨⟨record, hrecord, -⟩, -⟩ := hstart.submit_of_new hadmissible hcollide List.not_mem_nil
  exact ⟨record, hrecord⟩

theorem stores_annsRequest : ∃ stored, Stores quiet annsArrival annsRequest stored := by
  obtain hstores | ⟨-, hkept⟩ := live_quiet.stores_or_not annsArrival annsRequest
  · exact hstores
  -- the text is published by a node that has published nothing yet, so the store cannot have stayed
  · obtain ⟨record, hrecord⟩ := createPost_quiet
    obtain ⟨post, -, -, hpushed, -⟩ := Node.createPost_record hrecord
    have hstore := store_handle quiet annsArrival annsRequest
    rw [hkept, respond_of_posts posts_annsRequest, answerPost_node] at hstore
    have hcount := congrArg (fun store => store.messages.length) (hstore.trans hpushed)
    simp [Store.push, quiet] at hcount

/-- A message may be stored by a `POST` to another path than that of the feed. -/
theorem not_handle_of_run :
    ¬ ∀ (name : Text) (privateKey : Bytes) (author : LocalAuthor) (clock : Int)
      (metrics : Metrics) (limit : Option Int) (node : Node) (token : Text)
      (requests : Option Metrics) (app : App) (earlier : List Event) (arrival : Arrival)
      (request : Request), LocalAuthor.create name privateKey = .ok author →
      (Node.build .empty author clock metrics limit {}).1 = .ok node →
      start node token requests = .ok app →
      ¬ (request.method = "POST" ∧ request.path = "/v1/blogs/posts" ∧
        ((app.run earlier).handle arrival request).1.response.status = 200) →
      ((app.run earlier).handle arrival request).2.node.store.messages
        = (app.run earlier).node.store.messages := by
  intro hclaim
  have hother : annsRequest.path ≠ "/v1/blogs/posts" := by decide
  have hkept := hclaim "ann" (List.replicate 32 7) Node.ann 0 {} none Node.annsNode "secret" none
    quiet [] annsArrival annsRequest rfl rfl rfl fun h => hother h.2.1
  have hrun : quiet.run [] = quiet := rfl
  obtain ⟨stored, hstores⟩ := stores_annsRequest
  rw [hrun, hstores.messages] at hkept
  have hcount := congrArg List.length hkept
  rw [List.length_append, List.length_singleton] at hcount
  omega

def annsReading : Request where
  method := "GET"
  path := "/v1/blogs/posts"
  query := []
  headers := [("Authorization", "bearer  secret ")]
  body := []

/-- The post is read again after the clock has been set back. -/
theorem handle_of_run_anns :
    LocalAuthor.create "ann" (List.replicate 32 7) = .ok Node.ann ∧
      (Node.build .empty Node.ann 0 {} none {}).1 = .ok Node.annsNode ∧
      start Node.annsNode "secret" none = .ok quiet ∧
      Publishes annsRequest (quiet.handle annsArrival annsRequest).1 ∧
      ∃ json items, json.field? "text" = some (.text "hello") ∧
        Json.ofBody? (((quiet.handle annsArrival annsRequest).2.run [.setClock (-1)]).handle
          annsArrival annsReading).1.response.body = some (.array items) ∧
        OccursOnce json items := by
  have hrun : quiet.run [] = quiet := rfl
  have hcarries : CarriesToken "secret" (annsReading.header? "authorization") :=
    ⟨"bearer", " secret ", by decide, by decide, by decide, by decide, by decide⟩
  obtain ⟨stored, hstores⟩ := stores_annsRequest
  obtain ⟨-, -, hpublished⟩ := @handle_of_run "ann" (List.replicate 32 7) Node.ann 0 {} none
    Node.annsNode "secret" none quiet rfl rfl rfl [] annsArrival annsRequest
  rw [hrun] at hpublished
  obtain ⟨-, text, json, hsent, -, htext, hholds⟩ := hpublished hstores.publishes
  have hhello := posts_annsRequest.sent
  rw [hsent] at hhello
  rw [Option.some.inj hhello] at htext
  obtain ⟨items, -, hitems, honce⟩ :=
    hholds [.setClock (-1)] annsArrival annsReading rfl (.inl rfl) hcarries
  exact ⟨rfl, rfl, rfl, hstores.publishes, json, items, htext, hitems, honce⟩

end App

end SignedBlog.Http
