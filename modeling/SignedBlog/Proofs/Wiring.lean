import SignedBlog.Proofs.Authenticity
import SignedBlog.Proofs.FeedGrowth

/-!
Nodes on a store that is in use.

A node makes the personal blog of its author known and then looks at its limit on texts, so the store
comes out the same whether the limit is accepted or not: with that blog in it, and otherwise as it was.

* `Store.Welcomes` says what becomes of a store.
* `Node.build_of_store` says it of every store that grew from nothing, with the feed before and after.
-/

namespace SignedBlog

set_option autoImplicit false

/-! ## A blog that becomes known -/

namespace Store

/-- A store once a blog is known in it. A blog that was not known stands last and has no messages;
everything else is as before. -/
structure Welcomes (blog : Blog) (before after : Store) : Prop where
  known : blog.id ∈ after.blogIds
  shelves : after.shelves
    = before.shelves ++ if blog.id ∈ before.blogIds then [] else [⟨blog, []⟩]
  messages : after.messages = before.messages
  latest : after.latest = before.latest

theorem addBlog_of_known {store : Store} {blog : Blog} (hknown : blog.id ∈ store.blogIds) :
    store.addBlog blog = store := by
  obtain hsame | ⟨hnew, -⟩ := addBlog_eq store blog
  · exact hsame
  · exact absurd hknown hnew

theorem welcomes_addBlog (store : Store) (blog : Blog) : Welcomes blog store (store.addBlog blog) := by
  by_cases hknown : blog.id ∈ store.blogIds
  · rw [addBlog_of_known hknown]
    exact ⟨hknown, by rw [if_pos hknown, List.append_nil], rfl, rfl⟩
  · rw [addBlog_of_new hknown]
    exact ⟨by simp [blogIds], by rw [if_neg hknown], rfl, rfl⟩

theorem addBlog_eq_self_iff {store : Store} {blog : Blog} :
    store.addBlog blog = store ↔ blog.id ∈ store.blogIds := by
  constructor
  · intro hsame
    have hknown := (welcomes_addBlog store blog).known
    rwa [hsame] at hknown
  · exact addBlog_of_known

/-- Making a blog known twice is making it known once. -/
theorem addBlog_addBlog (store : Store) (blog : Blog) :
    (store.addBlog blog).addBlog blog = store.addBlog blog :=
  addBlog_of_known (welcomes_addBlog store blog).known

end Store

/-! ## Records on another node -/

/-- A record as a node of this identity shows it: its author's status is found anew. -/
def Identity.relabel (identity : Identity) (record : Record) : Record :=
  { record with header := identity.withStatus record.header }

theorem Identity.relabel_record (identity other : Identity) (stored : Stored) :
    identity.relabel (other.record stored) = identity.record stored := by
  have hheader : identity.withStatus (other.record stored).header
      = identity.withStatus stored.header := rfl
  rw [relabel, hheader, withStatus_header]
  rfl

namespace Node

/-! ## The limit -/

theorem checkLimit_eq_error_iff {limit : Option Int} {fault : Fault} :
    checkLimit limit = .error fault ↔
      ∃ given, limit = some given ∧ (maxTextLength : Int) < given ∧
        fault = .setting (.textLimit given) := by
  cases limit with
  | none => simp [checkLimit]
  | some given =>
    by_cases hgiven : (maxTextLength : Int) < given
    · simp [checkLimit, hgiven, eq_comm]
    · simp [checkLimit, hgiven]

section Build

variable {store : Store} {author : LocalAuthor} {clock : Int} {metrics : Metrics}
  {limit : Option Int} {availability : Availability} {readFault : Fault}

theorem build_eq_error_iff {fault : Fault} :
    (build store author clock metrics limit availability readFault).1 = .error fault ↔
      ∃ given, limit = some given ∧ (maxTextLength : Int) < given ∧
        fault = .setting (.textLimit given) := by
  rw [← checkLimit_eq_error_iff]
  unfold build
  cases checkLimit limit with
  | error other => simp [Except.map]
  | ok textLimit => simp [Except.map]

/-- On the store that a node was built on, the same is built again. -/
theorem build_again :
    build (store.addBlog (Blog.personal author.toAuthor)) author clock metrics limit availability
        readFault
      = build store author clock metrics limit availability readFault := by
  unfold build
  rw [Store.addBlog_addBlog]

/-- A node on a store lists what any other node on it listed before, with the statuses of its own. -/
theorem listPosts_of_build {node old : Node} (h : store.Coherent)
    (hbuild : (build store author clock metrics limit availability readFault).1 = .ok node)
    (hreads : availability.readsLeft = none) (hold : old.store = store)
    (holdReads : old.availability.readsLeft = none) :
    ∃ records, old.listPosts.1 = .ok records ∧
      node.listPosts.1 = .ok (records.map node.identity.relabel) := by
  obtain ⟨hstore, -, -, havailable⟩ := build_eq_ok hbuild
  have hnode : node.store.Coherent := hstore ▸ h.addBlog _
  have hlist := listPosts_eq hnode (canRead_of_unlimited (havailable ▸ hreads) _)
  have hlistOld := listPosts_eq (hold ▸ h) (canRead_of_unlimited holdReads _)
  refine ⟨_, congrArg Prod.fst hlistOld, ?_⟩
  rw [congrArg Prod.fst hlist, hstore, h.feed_addBlog, hold, List.map_map]
  simp only [Function.comp_def, Identity.relabel_record]

end Build

/-! ## Starting on what is stored -/

/-- Whatever has happened to a store, a node that is built on it leaves its blogs and messages as they
are, and the author's blog is known in it afterwards. That is so also where the limit is refused, and
building again changes nothing more. A node that was built lists what was listed before, up to the
statuses of authors. -/
theorem build_of_store {changes : List Store.Change} {store : Store}
    (hstore : store = Store.empty.run changes) (author : LocalAuthor) (clock : Int)
    (metrics : Metrics) (limit : Option Int) (availability : Availability) (readFault : Fault) :
    ∃ result after, build store author clock metrics limit availability readFault = (result, after) ∧
      (∀ fault, result = .error fault ↔
        ∃ given, limit = some given ∧ (maxTextLength : Int) < given ∧
          fault = .setting (.textLimit given)) ∧
      Store.Welcomes (Blog.personal author.toAuthor) store after ∧
      (after = store ↔ Identifier.blog author.id ∈ store.blogIds) ∧
      build after author clock metrics limit availability readFault = (result, after) ∧
      ∀ node, result = .ok node →
        node.store = after ∧ node.identity = ⟨some author⟩ ∧
        ∀ old : Node, old.store = store → old.availability.readsLeft = none →
          availability.readsLeft = none →
          ∃ records, old.listPosts.1 = .ok records ∧
            node.listPosts.1 = .ok (records.map node.identity.relabel) := by
  have h : store.Coherent := hstore ▸ Store.coherent_empty.run changes
  refine ⟨_, _, rfl, fun fault => build_eq_error_iff, Store.welcomes_addBlog _ _,
    Store.addBlog_eq_self_iff, build_again, fun node hbuild => ?_⟩
  obtain ⟨hnode, hidentity, -, -⟩ := build_eq_ok hbuild
  refine ⟨hnode, hidentity, fun old hold holdReads hreads => ?_⟩
  exact listPosts_of_build h hbuild hreads hold holdReads

theorem build_of_store_crossed :
    crossed.store = Store.empty.run crossedChanges ∧
      ∃ node after, build crossed.store ann 5 {} (some 2000) {} = (.ok node, after) ∧
        Store.Welcomes (Blog.personal ann.toAuthor) crossed.store after ∧
        ∃ records, crossed.listPosts.1 = .ok records ∧
          node.listPosts.1 = .ok (records.map node.identity.relabel) := by
  refine ⟨rfl, ?_⟩
  obtain ⟨result, after, hbuild, hrefused, hstore, -, -, hnode⟩ :=
    @build_of_store crossedChanges crossed.store rfl ann 5 {} (some 2000) {} .messageGone
  cases result with
  | error fault =>
    obtain ⟨given, hgiven, hlong, -⟩ := (hrefused fault).mp rfl
    cases hgiven
    exact absurd hlong (by decide)
  | ok node =>
    obtain ⟨-, -, hlist⟩ := hnode node rfl
    exact ⟨node, after, hbuild, hstore, hlist crossed rfl rfl rfl⟩

/-- A node that is refused may leave its author's blog in the store. -/
theorem not_build_without_trace :
    ¬ ∀ (changes : List Store.Change) (name : Text) (privateKey : Bytes) (author : LocalAuthor)
      (limit : Option Int) (fault : Fault), LocalAuthor.create name privateKey = .ok author →
      (build (Store.empty.run changes) author 0 {} limit {}).1 = .error fault →
      (build (Store.empty.run changes) author 0 {} limit {}).2 = Store.empty.run changes := by
  intro hclaim
  have hrefused : (build .empty ann 0 {} (some 31745) {}).1 = .error (.setting (.textLimit 31745)) :=
    rfl
  have hkept : Store.empty.addBlog (Blog.personal ann.toAuthor) = .empty :=
    hclaim [] "ann" (List.replicate 32 7) ann (some 31745) _ rfl hrefused
  have hknown := Store.addBlog_eq_self_iff.mp hkept
  cases hknown

end Node

end SignedBlog
