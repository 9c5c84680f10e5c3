import SignedBlog.Node.Feed
import SignedBlog.Proofs.Log
import SignedBlog.Proofs.Validity

/-!
What may be done to a node, and what it does to store and identity.

`Node.StoreEffect` lists every way an action can change the store, with what was checked before.
Properties of stored posts are proved from that list and `Node.run`, not from the operations.
-/

namespace SignedBlog

set_option autoImplicit false

namespace Node

/-! ## Actions -/

/-- What may be done to a node. An author is registered from a name and a secret key. -/
inductive Action where
  | createPost (text : Text)
  | addRemotePost (post : Post)
  | addBlog (blog : Blog)
  | addPersonalBlog (author : Author)
  | registerLocalAuthor (name : Text) (privateKey : Bytes)
  | listPosts
  | setClock (time : Int)
  | advanceClock (millis : Int)
  /-- The clock reads another time when the store takes a post. -/
  | setArrivalClock (time : Int)

/-- The node after an action, whether it was refused or not. -/
def after (node : Node) : Action → Node
  | .createPost text => (node.createPost text).2
  | .addRemotePost post => (node.addRemotePost post).2
  | .addBlog blog => (node.addBlog blog).2
  | .addPersonalBlog author => (node.addPersonalBlog author).2
  | .registerLocalAuthor name privateKey =>
    match LocalAuthor.create name privateKey with
    | .error _ => node
    | .ok author => (node.registerLocalAuthor author).2
  | .listPosts => node.listPosts.2
  | .setClock time => node.setClock time
  | .advanceClock millis => node.advanceClock millis
  | .setArrivalClock time => node.setArrivalClock time

def run (node : Node) (actions : List Action) : Node := actions.foldl after node

/-! ## Where runs begin -/

theorem eq_of_build {store : Store} {author : LocalAuthor} {clock : Int} {metrics : Metrics}
    {limit : Option Int} {availability : Availability} {readFault : Fault} {node : Node}
    (h : (build store author clock metrics limit availability readFault).1 = .ok node) :
    ∃ textLimit, checkLimit limit = .ok textLimit ∧
      node = {
        store := store.addBlog (Blog.personal author.toAuthor)
        identity := ⟨some author⟩
        clock, metrics, textLimit, availability, readFault } := by
  unfold build at h
  cases hlimit : checkLimit limit with
  | error fault =>
    rw [hlimit] at h
    cases h
  | ok textLimit =>
    rw [hlimit] at h
    cases h
    exact ⟨textLimit, rfl, rfl⟩

theorem build_eq_ok {store : Store} {author : LocalAuthor} {clock : Int} {metrics : Metrics}
    {limit : Option Int} {availability : Availability} {readFault : Fault} {node : Node}
    (h : (build store author clock metrics limit availability readFault).1 = .ok node) :
    node.store = store.addBlog (Blog.personal author.toAuthor) ∧
      node.identity = ⟨some author⟩ ∧ node.clock = clock ∧ node.availability = availability := by
  obtain ⟨textLimit, -, rfl⟩ := eq_of_build h
  exact ⟨rfl, rfl, rfl, rfl⟩

theorem le_of_checkLimit {limit : Option Int} {textLimit : Int}
    (h : checkLimit limit = .ok textLimit) : textLimit ≤ maxTextLength := by
  unfold checkLimit at h
  cases limit with
  | none =>
    cases h
    exact Int.le_refl _
  | some limit =>
    by_cases hlimit : (maxTextLength : Int) < limit
    · simp only [if_pos hlimit] at h
      cases h
    · simp only [if_neg hlimit] at h
      cases h
      exact Int.not_lt.mp hlimit

theorem textLimit_le_of_build {store : Store} {author : LocalAuthor} {clock : Int}
    {metrics : Metrics} {limit : Option Int} {availability : Availability} {readFault : Fault}
    {node : Node}
    (h : (build store author clock metrics limit availability readFault).1 = .ok node) :
    node.textLimit ≤ maxTextLength := by
  obtain ⟨textLimit, hlimit, rfl⟩ := eq_of_build h
  exact le_of_checkLimit hlimit

/-! ## Storing a post -/

theorem storePost_cases (post : Post) (isLocal : Bool) (node : Node) :
    (∃ fault, node.storePost post isLocal = (.error fault, node)) ∨
      post.blogId ∈ node.store.blogIds ∧ post.messageId ∉ node.store.messageIds := by
  unfold storePost
  cases hadd : node.store.addMessage node.arrivalClock post isLocal with
  | error fault => exact .inl ⟨fault, rfl⟩
  | ok result =>
    obtain ⟨header, next⟩ := result
    obtain ⟨hknown, hfresh, -, -⟩ := Store.addMessage_eq_ok_iff.mp hadd
    exact .inr ⟨hknown, hfresh⟩

theorem addRemotePost_of_fresh {node : Node} {post : Post} (hverified : post.verify = .ok ())
    (hknown : post.blogId ∈ node.store.blogIds)
    (hfresh : post.messageId ∉ node.store.messageIds) :
    node.addRemotePost post
      = (.ok (), { node with store := node.store.push node.arrivalClock post false }) := by
  unfold addRemotePost storePost
  rw [hverified, Store.addMessage_eq_ok_iff.mpr ⟨hknown, hfresh, rfl, rfl⟩]

/-- A text that is admitted and drafted is published, and its record is read back. -/
theorem createPost_of_fresh {node : Node} {text : Text} {post : Post}
    (hadmitted : admitText text node.textLimit = .ok ()) (hdraft : node.draft text = .ok post)
    (hknown : post.blogId ∈ node.store.blogIds)
    (hfresh : post.messageId ∉ node.store.messageIds) :
    node.createPost text
      = (.ok ⟨node.identity.withStatus (node.store.arriving node.arrivalClock post true).header,
            text⟩,
          { node with store := node.store.push node.arrivalClock post true }.countCreated) := by
  unfold createPost addLocalPost storePost header
  simp only [hadmitted, hdraft, Store.addMessage_eq_ok_iff.mpr ⟨hknown, hfresh, rfl, rfl⟩,
    Store.header_push hfresh, Except.map]

/-- A text whose post is stored already is not published again. -/
theorem createPost_of_stored {node : Node} {text : Text} {post : Post}
    (hadmitted : admitText text node.textLimit = .ok ()) (hdraft : node.draft text = .ok post)
    (hknown : post.blogId ∈ node.store.blogIds)
    (hstored : post.messageId ∈ node.store.messageIds) :
    node.createPost text = (.error (.duplicateMessage post.messageId), node) := by
  simp only [createPost, addLocalPost, storePost, hadmitted, hdraft,
    Store.addMessage_of_stored hknown hstored]

/-- A draft is composed by the node's own author. -/
theorem compose_of_draft {node : Node} {text : Text} {post : Post}
    (h : node.draft text = .ok post) :
    ∃ author, node.identity.author? = some author ∧
      Post.compose (Identifier.blog author.id) node.clock none author text = .ok post := by
  unfold draft Identity.localAuthor at h
  cases hauthor : node.identity.author? with
  | none =>
    rw [hauthor] at h
    cases h
  | some author =>
    rw [hauthor] at h
    exact ⟨author, rfl, h⟩

theorem draft_eq_ok {node : Node} {text : Text} {post : Post} (h : node.draft text = .ok post) :
    ∃ author, node.identity.author? = some author ∧ Post.TextFits text ∧ post.text = text ∧
      post.author = author.toAuthor := by
  obtain ⟨author, hauthor, hcompose⟩ := compose_of_draft h
  obtain ⟨htext, messageId, signature, -, -, rfl⟩ := Post.compose_eq_ok hcompose
  exact ⟨author, hauthor, htext, rfl, rfl⟩

/-- Publishing stores nothing, or stores what is drafted and reads it back. -/
theorem createPost_cases (text : Text) (node : Node) :
    (∃ fault metrics, node.createPost text = (.error fault, { node with metrics })) ∨
      ∃ post, node.draft text = .ok post ∧ post.blogId ∈ node.store.blogIds ∧
        post.messageId ∉ node.store.messageIds ∧
        node.createPost text
          = (.ok ⟨node.identity.withStatus (node.store.arriving node.arrivalClock post true).header,
                text⟩,
              { node with store := node.store.push node.arrivalClock post true }.countCreated) := by
  cases hadmitted : admitText text node.textLimit with
  | error defect =>
    refine .inl ⟨.invalidText defect, node.countRejected.metrics, ?_⟩
    unfold createPost
    rw [hadmitted]
    rfl
  | ok _ =>
    cases hdraft : node.draft text with
    | error fault =>
      refine .inl ⟨fault, node.metrics, ?_⟩
      simp only [createPost, hadmitted, hdraft]
    | ok post =>
      obtain ⟨fault, hstore⟩ | ⟨hknown, hfresh⟩ := storePost_cases post true node
      · refine .inl ⟨fault, node.metrics, ?_⟩
        simp only [createPost, addLocalPost, hadmitted, hdraft, hstore]
      · exact .inr ⟨post, rfl, hknown, hfresh,
          createPost_of_fresh hadmitted hdraft hknown hfresh⟩

/-! ## What an action does -/

/-- How an action may change the store. -/
inductive StoreEffect (node : Node) : Action → Store → Prop where
  | kept (action : Action) : StoreEffect node action node.store
  | blogAdded {action : Action} {blog : Blog} (hblog : blog.id = Identifier.blog blog.author.id) :
      StoreEffect node action (node.store.addBlog blog)
  | drafted {text : Text} {post : Post} (hdraft : node.draft text = .ok post)
      (hknown : post.blogId ∈ node.store.blogIds)
      (hfresh : post.messageId ∉ node.store.messageIds) :
      StoreEffect node (.createPost text) (node.store.push node.arrivalClock post true)
  | delivered {post : Post} (hverified : post.verify = .ok ())
      (hknown : post.blogId ∈ node.store.blogIds)
      (hfresh : post.messageId ∉ node.store.messageIds) :
      StoreEffect node (.addRemotePost post) (node.store.push node.arrivalClock post false)

/-- Only the post that an action stores is new. -/
theorem StoreEffect.forall_messages {node : Node} {action : Action} {store : Store}
    (heffect : StoreEffect node action store) {p : Stored → Prop}
    (hold : ∀ stored ∈ node.store.messages, p stored)
    (hdrafted : ∀ text post, action = .createPost text → node.draft text = .ok post →
      p (node.store.arriving node.arrivalClock post true))
    (hdelivered : ∀ post, action = .addRemotePost post → post.verify = .ok () →
      p (node.store.arriving node.arrivalClock post false)) :
    ∀ stored ∈ store.messages, p stored := by
  have hpush : ∀ {post : Post} {isLocal : Bool},
      p (node.store.arriving node.arrivalClock post isLocal) →
      ∀ stored ∈ (node.store.push node.arrivalClock post isLocal).messages, p stored := by
    intro post isLocal hpost
    exact List.forall_mem_append.mpr ⟨hold, List.forall_mem_singleton.mpr hpost⟩
  cases heffect with
  | kept => exact hold
  | blogAdded =>
    rw [Store.messages_addBlog]
    exact hold
  | drafted hdraft => exact hpush (hdrafted _ _ rfl hdraft)
  | delivered hverified => exact hpush (hdelivered _ rfl hverified)

/-- Nothing is taken from the store, and what is new comes last. -/
theorem StoreEffect.messages_extend {node : Node} {action : Action} {store : Store}
    (heffect : StoreEffect node action store) : node.store.messages <+: store.messages := by
  cases heffect with
  | kept => exact List.prefix_refl _
  | blogAdded => exact ⟨[], by rw [List.append_nil, Store.messages_addBlog]⟩
  | drafted => exact List.prefix_append _ _
  | delivered => exact List.prefix_append _ _

theorem createPost_effect (text : Text) (node : Node) :
    ∃ store metrics, StoreEffect node (.createPost text) store ∧
      (node.createPost text).2 = { node with store, metrics } := by
  obtain ⟨fault, metrics, hrefused⟩ | ⟨post, hdraft, hknown, hfresh, hcreated⟩ :=
    createPost_cases text node
  · rw [hrefused]
    exact ⟨node.store, metrics, .kept _, rfl⟩
  · rw [hcreated]
    exact ⟨_, _, .drafted hdraft hknown hfresh, rfl⟩

theorem addRemotePost_effect (post : Post) (node : Node) :
    ∃ store metrics, StoreEffect node (.addRemotePost post) store ∧
      (node.addRemotePost post).2 = { node with store, metrics } := by
  cases hverified : post.verify with
  | error fault =>
    unfold addRemotePost
    rw [hverified]
    cases fault <;> exact ⟨node.store, _, .kept _, rfl⟩
  | ok _ =>
    obtain ⟨fault, hstore⟩ | ⟨hknown, hfresh⟩ := storePost_cases post false node
    · simp only [addRemotePost, hverified, hstore]
      exact ⟨node.store, node.metrics, .kept _, rfl⟩
    · rw [addRemotePost_of_fresh hverified hknown hfresh]
      exact ⟨_, _, .delivered hverified hknown hfresh, rfl⟩

theorem addBlog_effect (blog : Blog) (node : Node) :
    ∃ store, StoreEffect node (.addBlog blog) store ∧
      (node.addBlog blog).2 = { node with store } := by
  unfold addBlog
  by_cases hblog : blog.id = Identifier.blog blog.author.id
  · rw [if_pos hblog]
    exact ⟨_, .blogAdded hblog, rfl⟩
  · rw [if_neg hblog]
    exact ⟨node.store, .kept _, rfl⟩

theorem readText_keeps (messageId : Bytes) (node : Node) :
    ∃ availability, (node.readText messageId).2 = { node with availability } := by
  unfold readText
  split
  · exact ⟨node.availability, rfl⟩
  · exact ⟨node.availability, rfl⟩
  · exact ⟨_, rfl⟩

theorem joinTexts_keeps (done : List Record) (headers : List Header) (node : Node) :
    ∃ availability, (joinTexts done headers node).2 = { node with availability } := by
  induction headers generalizing done node with
  | nil => exact ⟨node.availability, rfl⟩
  | cons header headers ih =>
    obtain ⟨availability, hread⟩ := readText_keeps header.id node
    rw [joinTexts]
    cases hresult : node.readText header.id with
    | mk result next =>
      rw [hresult] at hread
      subst hread
      cases result with
      | error fault => exact ⟨availability, rfl⟩
      | ok text => exact ih _ _

/-- A listing changes nothing but counters and how much can still be read, also when it fails. -/
theorem listPosts_keeps (node : Node) :
    ∃ availability metrics, node.listPosts.2 = { node with availability, metrics } := by
  unfold listPosts
  cases node.collectHeaders node.store.blogs with
  | error fault => exact ⟨node.availability, node.metrics, rfl⟩
  | ok headers =>
    obtain ⟨availability, hjoin⟩ := joinTexts_keeps [] (sortByArrival headers) node
    cases hresult : joinTexts [] (sortByArrival headers) node with
    | mk result next =>
      rw [hresult] at hjoin
      subst hjoin
      simp only [hresult]
      cases result with
      | error fault => exact ⟨availability, node.metrics, rfl⟩
      | ok records => exact ⟨availability, _, rfl⟩

theorem registerLocalAuthor_cases (author : LocalAuthor) (node : Node) :
    (node.registerLocalAuthor author).2 = node ∨
      (node.registerLocalAuthor author).2 = { node with identity := ⟨some author⟩ } := by
  unfold registerLocalAuthor Identity.register
  cases node.identity.author? with
  | none => exact .inr rfl
  | some current =>
    by_cases hsame : current.id = author.id
    · refine .inr ?_
      simp only [if_pos hsame]
    · refine .inl ?_
      simp only [if_neg hsame]

/-- Every action has one of the effects on the store, and the node has the author it had or one that
was registered. -/
theorem after_effect (node : Node) (action : Action) :
    StoreEffect node action (node.after action).store ∧
      ((node.after action).identity = node.identity ∨
        ∃ name privateKey author, LocalAuthor.create name privateKey = .ok author ∧
          (node.after action).identity = ⟨some author⟩) := by
  cases action with
  | createPost text =>
    obtain ⟨store, metrics, heffect, hnext⟩ := createPost_effect text node
    rw [after, hnext]
    exact ⟨heffect, .inl rfl⟩
  | addRemotePost post =>
    obtain ⟨store, metrics, heffect, hnext⟩ := addRemotePost_effect post node
    rw [after, hnext]
    exact ⟨heffect, .inl rfl⟩
  | addBlog blog =>
    obtain ⟨store, heffect, hnext⟩ := addBlog_effect blog node
    rw [after, hnext]
    exact ⟨heffect, .inl rfl⟩
  | addPersonalBlog author => exact ⟨.blogAdded rfl, .inl rfl⟩
  | registerLocalAuthor name privateKey =>
    rw [after]
    cases hcreate : LocalAuthor.create name privateKey with
    | error fault => exact ⟨.kept _, .inl rfl⟩
    | ok author =>
      simp only
      obtain hnext | hnext := registerLocalAuthor_cases author node
      · rw [hnext]
        exact ⟨.kept _, .inl rfl⟩
      · rw [hnext]
        exact ⟨.kept _, .inr ⟨name, privateKey, author, hcreate, rfl⟩⟩
  | listPosts =>
    obtain ⟨availability, metrics, hnext⟩ := listPosts_keeps node
    rw [after, hnext]
    exact ⟨.kept _, .inl rfl⟩
  | setClock time => exact ⟨.kept _, .inl rfl⟩
  | advanceClock millis => exact ⟨.kept _, .inl rfl⟩
  | setArrivalClock time => exact ⟨.kept _, .inl rfl⟩

/-! ## Runs as changes of the store -/

theorem StoreEffect.exists_changes {node : Node} {action : Action} {store : Store}
    (h : StoreEffect node action store) : ∃ changes, store = node.store.run changes := by
  cases h with
  | kept => exact ⟨[], rfl⟩
  | blogAdded hblog => exact ⟨[.addBlog _], rfl⟩
  | @drafted text post hdraft hknown hfresh =>
    refine ⟨[.addMessage node.arrivalClock post true], ?_⟩
    exact (Store.apply_addMessage_of_fresh hknown hfresh).symm
  | @delivered post hverified hknown hfresh =>
    refine ⟨[.addMessage node.arrivalClock post false], ?_⟩
    exact (Store.apply_addMessage_of_fresh hknown hfresh).symm

/-- The store of a run is that of some changes, so all that holds after changes holds in runs. -/
theorem store_run (node : Node) (actions : List Action) :
    ∃ changes, (node.run actions).store = node.store.run changes := by
  induction actions generalizing node with
  | nil => exact ⟨[], rfl⟩
  | cons action actions ih =>
    obtain ⟨first, hfirst⟩ := (after_effect node action).1.exists_changes
    obtain ⟨later, hlater⟩ := ih (node.after action)
    refine ⟨first ++ later, ?_⟩
    rw [Store.run_append, ← hfirst]
    exact hlater

theorem coherent_of_run {author : LocalAuthor} {clock : Int} {metrics : Metrics}
    {limit : Option Int} {availability : Availability} {readFault : Fault} {node : Node}
    (hbuild : (build .empty author clock metrics limit availability readFault).1 = .ok node)
    (actions : List Action) : (node.run actions).store.Coherent := by
  obtain ⟨hstore, -⟩ := build_eq_ok hbuild
  obtain ⟨changes, hrun⟩ := store_run node actions
  rw [hrun, hstore]
  exact (Store.coherent_empty.addBlog _).run changes

end Node

end SignedBlog
