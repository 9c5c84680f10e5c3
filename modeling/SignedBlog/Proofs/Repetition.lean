import SignedBlog.Proofs.Addressing

/-!
Texts published one after the other.

The post that an author makes of a text follows from the text and the clock, so a text that is handed
in again at the same time gives the post that is stored already, and is refused. Nothing else is:
`Node.Published.submit` says what one submission does, `Node.submitAll_of_build` what many do.
-/

namespace SignedBlog

set_option autoImplicit false

/-! ## Authors -/

/-- An author of some seed, with a name that is short enough. -/
def LocalAuthor.Made (author : LocalAuthor) : Prop :=
  ∃ name seed, author = .ofSeed name seed ∧ name.length ≤ maxNameLength

theorem LocalAuthor.made_of_create {name : Text} {privateKey : Bytes} {author : LocalAuthor}
    (h : LocalAuthor.create name privateKey = .ok author) : author.Made := by
  obtain ⟨hname, -, hauthor⟩ := LocalAuthor.create_eq_ok_iff.mp h
  exact ⟨name, author.seed, hauthor, Nat.le_trans (Utf8.length_le_flatMap name) hname.size_le⟩

/-! ## Submissions -/

/-- A text that is handed in when the clock reads some time. -/
structure Submission where
  time : Int
  text : Text
deriving DecidableEq

namespace Submission

/-- The time fits into eight bytes and the text under a limit. -/
structure Admissible (submission : Submission) (limit : Int) : Prop where
  time_nonneg : 0 ≤ submission.time
  time_lt : submission.time < 256 ^ 8
  text_fits : ∃ bytes, Utf8.encode submission.text = .ok bytes ∧ (bytes.length : Int) ≤ limit

def post (author : LocalAuthor) (submission : Submission) : Post :=
  .made author submission.time submission.text

theorem post_injective (author : LocalAuthor) : Function.Injective (post author) := by
  intro a b h
  have htime : a.time = b.time := congrArg Post.timestamp h
  have htext : a.text = b.text := congrArg Post.text h
  cases a
  cases b
  exact congrArg₂ Submission.mk htime htext

/-- No two of the posts that an author makes of some submissions get one id by accident. -/
def CollisionFree (author : LocalAuthor) (submissions : List Submission) : Prop :=
  Sha2.CollisionFree (submissions.map fun submission => (submission.post author).addressed)

theorem CollisionFree.of_subset {author : LocalAuthor} {some all : List Submission}
    (h : CollisionFree author all) (hsubset : some ⊆ all) : CollisionFree author some := by
  intro a ha b hb
  exact h a (List.map_subset _ hsubset ha) b (List.map_subset _ hsubset hb)

variable {submission a b : Submission} {limit : Int} {author : LocalAuthor}

theorem messageId_post (author : LocalAuthor) (submission : Submission) :
    (submission.post author).messageId = Sha2.sha256 (submission.post author).addressed :=
  rfl

theorem collisionFree_pair (h : (a.post author).messageId ≠ (b.post author).messageId) :
    CollisionFree author [a, b] := by
  rw [messageId_post, messageId_post] at h
  exact Sha2.collisionFree_pair h

theorem Admissible.textFits (h : submission.Admissible limit) (hlimit : limit ≤ maxTextLength) :
    Post.TextFits submission.text := by
  obtain ⟨bytes, hbytes, hlength⟩ := h.text_fits
  exact ⟨bytes, hbytes, by omega⟩

theorem Admissible.admitText (h : submission.Admissible limit) :
    Node.admitText submission.text limit = .ok () := by
  obtain ⟨bytes, hbytes, hlength⟩ := h.text_fits
  have hshort : ¬ limit < (bytes.length : Int) := by omega
  simp [Node.admitText, Node.exceeds, hbytes, Except.map, hshort]

theorem Admissible.compose_eq (h : submission.Admissible limit) (hlimit : limit ≤ maxTextLength)
    (hauthor : author.Made) :
    Post.compose (Identifier.blog author.id) submission.time none author submission.text
      = .ok (submission.post author) := by
  obtain ⟨name, seed, rfl, hname⟩ := hauthor
  exact Post.compose_eq_made hname (h.textFits hlimit) h.time_nonneg h.time_lt

theorem Admissible.message_post (h : submission.Admissible limit) (hlimit : limit ≤ maxTextLength)
    (hauthor : author.Made) :
    Identifier.message (submission.post author).blogId (submission.post author).timestamp
        (submission.post author).body
      = .ok (submission.post author).messageId := by
  obtain ⟨name, seed, rfl, hname⟩ := hauthor
  exact Post.message_made hname (h.textFits hlimit).length_le h.time_nonneg h.time_lt

/-- What the message id is taken over tells the text and the time. -/
theorem addressed_post_inj (ha : a.Admissible limit) (hb : b.Admissible limit)
    (hlimit : limit ≤ maxTextLength) (hauthor : author.Made)
    (h : (a.post author).addressed = (b.post author).addressed) : a = b := by
  have hparts := Identifier.preimage_inj
    (Post.parts_lt_of_message (ha.message_post hlimit hauthor))
    (Post.parts_lt_of_message (hb.message_post hlimit hauthor)) h
  simp only [List.cons.injEq, and_true] at hparts
  obtain ⟨-, htime, hbody⟩ := hparts
  have ha₀ := ha.time_nonneg
  have hb₀ := hb.time_nonneg
  have ha₁ := ha.time_lt
  have hb₁ := hb.time_lt
  have hnats : a.time.toNat = b.time.toNat := Bytes.bigEndian_inj (by omega) (by omega) htime
  have htimes : a.time = b.time := by omega
  obtain ⟨-, -, htexts, -⟩ :=
    Post.bodyContent_inj (ha.textFits hlimit).clean (hb.textFits hlimit).clean hbody
  cases a
  cases b
  exact congrArg₂ Submission.mk htimes htexts

end Submission

namespace Node

/-! ## One submission -/

def submit (submission : Submission) (node : Node) : Outcome Record :=
  (node.setClock submission.time).createPost submission.text

/-- What a submission is answered with when it is published. -/
def Accepts (submission : Submission) (answer : Except Fault Record) : Prop :=
  ∃ record, answer = .ok record ∧ record.text = submission.text ∧
    record.header.timestamp = submission.time

/-- The store of a node of some author holds the posts made of what was handed in, and nothing
else. -/
structure Published (author : LocalAuthor) (limit : Int) (done : List Submission) (node : Node) :
    Prop where
  author_made : author.Made
  limit_le : limit ≤ maxTextLength
  coherent : node.store.Coherent
  identity : node.identity.author? = some author
  textLimit : node.textLimit = limit
  known : Identifier.blog author.id ∈ node.store.blogIds
  admissible : ∀ submission ∈ done, submission.Admissible limit
  mem_posts : ∀ post, post ∈ node.store.posts ↔ ∃ submission ∈ done, submission.post author = post

namespace Published

variable {node : Node} {author : LocalAuthor} {limit : Int} {done later : List Submission}
  {submission : Submission}

theorem setClock (h : node.Published author limit done) (time : Int) :
    (node.setClock time).Published author limit done :=
  { h with }

theorem draft_eq (h : node.Published author limit done)
    (hadmissible : submission.Admissible limit) :
    (node.setClock submission.time).draft submission.text = .ok (submission.post author) := by
  unfold draft Node.setClock Identity.localAuthor
  simp only [h.identity]
  exact hadmissible.compose_eq h.limit_le h.author_made

theorem admitted (h : node.Published author limit done) (hadmissible : submission.Admissible limit) :
    admitText submission.text (node.setClock submission.time).textLimit = .ok () := by
  rw [(h.setClock submission.time).textLimit]
  exact hadmissible.admitText

theorem messageId_mem (h : node.Published author limit done) (hdone : submission ∈ done) :
    (submission.post author).messageId ∈ node.store.messageIds := by
  have hpost := (h.mem_posts _).mpr ⟨submission, hdone, rfl⟩
  obtain ⟨stored, hstored, hsame⟩ := List.mem_map.mp hpost
  exact List.mem_map.mpr ⟨stored, hstored, congrArg Post.messageId hsame⟩

/-- As long as ids do not collide, what was not handed in before gives a new id. -/
theorem messageId_not_mem (h : node.Published author limit done)
    (hadmissible : submission.Admissible limit)
    (hcollide : Submission.CollisionFree author (done ++ [submission]))
    (hnew : submission ∉ done) :
    (submission.post author).messageId ∉ node.store.messageIds := by
  intro hmem
  obtain ⟨stored, hstored, hid⟩ := List.mem_map.mp hmem
  obtain ⟨earlier, hearlier, hpost⟩ := (h.mem_posts _).mp (List.mem_map_of_mem hstored)
  rw [← hpost, Submission.messageId_post, Submission.messageId_post] at hid
  have haddressed := hcollide _ (List.mem_map_of_mem (List.mem_append_left _ hearlier)) _
    (List.mem_map_of_mem (List.mem_append_right _ (List.mem_singleton.mpr rfl))) hid
  have hsame := Submission.addressed_post_inj (h.admissible earlier hearlier) hadmissible
    h.limit_le h.author_made haddressed
  exact hnew (hsame ▸ hearlier)

theorem submit_of_done (h : node.Published author limit done)
    (hadmissible : submission.Admissible limit) (hdone : submission ∈ done) :
    node.submit submission
      = (.error (.duplicateMessage (submission.post author).messageId),
          node.setClock submission.time) :=
  createPost_of_stored (h.admitted hadmissible) (h.draft_eq hadmissible) h.known
    (h.messageId_mem hdone)

theorem submit_of_new (h : node.Published author limit done)
    (hadmissible : submission.Admissible limit)
    (hcollide : Submission.CollisionFree author (done ++ [submission]))
    (hnew : submission ∉ done) :
    Accepts submission (node.submit submission).1 ∧
      (node.submit submission).2.Published author limit (done ++ [submission]) := by
  have hfresh := h.messageId_not_mem hadmissible hcollide hnew
  have hcreated := createPost_of_fresh (h.admitted hadmissible) (h.draft_eq hadmissible) h.known
    hfresh
  unfold submit
  rw [hcreated]
  refine ⟨⟨_, rfl, rfl, rfl⟩, ?_⟩
  refine { h with coherent := ?coherent, known := ?known, admissible := ?admissible, mem_posts := ?mem }
  case coherent => exact h.coherent.push h.known hfresh
  case known =>
    change _ ∈ (node.store.push submission.time (submission.post author) true).blogIds
    rw [Store.blogIds_push]
    exact h.known
  case admissible =>
    exact List.forall_mem_append.mpr ⟨h.admissible, List.forall_mem_singleton.mpr hadmissible⟩
  case mem =>
    intro post
    change post ∈ (node.store.push submission.time (submission.post author) true).posts ↔ _
    have hposts : (node.store.push submission.time (submission.post author) true).posts
        = node.store.posts ++ [submission.post author] := List.map_append
    rw [hposts, List.mem_append, h.mem_posts post]
    simp [or_and_right, exists_or, eq_comm]

/-- A submission is published, unless it repeats an earlier one; either way the store holds the posts
of all that was handed in. -/
theorem submit (h : node.Published author limit done) (hadmissible : submission.Admissible limit)
    (hcollide : Submission.CollisionFree author (done ++ [submission])) :
    (submission ∉ done → Accepts submission (node.submit submission).1) ∧
      (node.submit submission).2.Published author limit (done ++ [submission]) := by
  by_cases hdone : submission ∈ done
  · refine ⟨fun hnew => absurd hdone hnew, ?_⟩
    -- it was handed in before, so the posts of all that was handed in are the same
    have hmem : ∀ other, other ∈ done ++ [submission] ↔ other ∈ done := by
      intro other
      rw [List.mem_append, List.mem_singleton, or_iff_left_of_imp]
      rintro rfl
      exact hdone
    have hkept := h.setClock submission.time
    rw [h.submit_of_done hadmissible hdone]
    refine { hkept with admissible := ?_, mem_posts := ?_ }
    · simpa only [hmem] using hkept.admissible
    · simpa only [hmem] using hkept.mem_posts
  · obtain ⟨haccepts, hnext⟩ := h.submit_of_new hadmissible hcollide hdone
    exact ⟨fun _ => haccepts, hnext⟩

end Published

/-! ## Many submissions -/

/-- Publishes texts one after the other, each at its time. -/
def submitAll (node : Node) : List Submission → List (Except Fault Record) × Node
  | [] => ([], node)
  | submission :: later =>
    let rest := (node.submit submission).2.submitAll later
    ((node.submit submission).1 :: rest.1, rest.2)

theorem Published.submitAll {node : Node} {author : LocalAuthor} {limit : Int}
    {done later : List Submission} (h : node.Published author limit done)
    (hadmissible : ∀ submission ∈ later, submission.Admissible limit)
    (hcollide : Submission.CollisionFree author (done ++ later)) :
    ((done ++ later).Nodup → List.Forall₂ Accepts later (node.submitAll later).1) ∧
      (node.submitAll later).2.Published author limit (done ++ later) := by
  -- `done` grows by what `later` loses, so that ids stay apart from those of all submissions
  induction later generalizing node done with
  | nil =>
    rw [List.append_nil]
    exact ⟨fun _ => .nil, h⟩
  | cons submission later ih =>
    rw [List.forall_mem_cons] at hadmissible
    rw [List.append_cons] at hcollide ⊢
    obtain ⟨haccepts, hnext⟩ := h.submit hadmissible.1
      (hcollide.of_subset (List.subset_append_left _ _))
    obtain ⟨hlater, hlast⟩ := ih hnext hadmissible.2 hcollide
    refine ⟨fun hnodup => ?_, hlast⟩
    have hnew : submission ∉ done := by
      intro hdone
      rw [List.append_assoc] at hnodup
      exact (List.nodup_append.mp hnodup).2.2 submission hdone submission (by simp) rfl
    exact .cons (haccepts hnew) (hlater hnodup)

theorem published_of_build {name : Text} {privateKey : Bytes} {author : LocalAuthor} {clock : Int}
    {metrics : Metrics} {limit : Option Int} {availability : Availability} {readFault : Fault}
    {node : Node}
    (hauthor : LocalAuthor.create name privateKey = .ok author)
    (hbuild : (build .empty author clock metrics limit availability readFault).1 = .ok node) :
    node.Published author node.textLimit [] := by
  obtain ⟨hstore, hidentity, -⟩ := build_eq_ok hbuild
  rw [Store.empty_addBlog] at hstore
  exact {
    author_made := LocalAuthor.made_of_create hauthor
    limit_le := textLimit_le_of_build hbuild
    coherent := coherent_of_run hbuild []
    identity := by rw [hidentity]
    textLimit := rfl
    known := by
      rw [hstore]
      exact List.mem_singleton.mpr rfl
    admissible := by simp
    mem_posts := by
      rw [hstore]
      simp [Store.posts] }

/-- On a node that was built on nothing, texts of which no two are the same at the same time are all
published, whatever the clock does, and the store holds a post of each. A text that is handed in a
second time at the same time is refused, and nothing changes. -/
theorem submitAll_of_build {name : Text} {privateKey : Bytes} {author : LocalAuthor} {clock : Int}
    {metrics : Metrics} {limit : Option Int} {availability : Availability} {readFault : Fault}
    {node : Node}
    {submissions : List Submission}
    (hauthor : LocalAuthor.create name privateKey = .ok author)
    (hbuild : (build .empty author clock metrics limit availability readFault).1 = .ok node)
    (hadmissible : ∀ submission ∈ submissions, submission.Admissible node.textLimit)
    (hcollide : Submission.CollisionFree author submissions) :
    (submissions.Nodup →
      List.Forall₂ Accepts submissions (node.submitAll submissions).1 ∧
      (node.submitAll submissions).2.store.posts.Perm (submissions.map (Submission.post author)) ∧
      (node.submitAll submissions).2.store.posts.Nodup ∧
      (node.submitAll submissions).2.store.count = submissions.length) ∧
    ∀ earlier submission later, submissions = earlier ++ submission :: later →
      (submission ∉ earlier →
        Accepts submission ((node.submitAll earlier).2.submit submission).1) ∧
      (submission ∈ earlier →
        (node.submitAll earlier).2.submit submission
          = (.error (.duplicateMessage (submission.post author).messageId),
              (node.submitAll earlier).2.setClock submission.time)) := by
  have hstart := published_of_build hauthor hbuild
  constructor
  · intro hnodup
    obtain ⟨haccepts, hlast⟩ := hstart.submitAll hadmissible hcollide
    have hposts : (node.submitAll submissions).2.store.posts.Nodup := by
      refine List.Nodup.of_map Post.messageId ?_
      rw [Store.posts, List.map_map]
      exact hlast.coherent.messageIds_nodup
    have hperm : (node.submitAll submissions).2.store.posts.Perm
        (submissions.map (Submission.post author)) := by
      rw [List.perm_ext_iff_of_nodup hposts (hnodup.map (Submission.post_injective author))]
      intro post
      rw [hlast.mem_posts post, List.mem_map, List.nil_append]
    refine ⟨haccepts hnodup, hperm, hposts, ?_⟩
    rw [← Store.length_posts, hperm.length_eq, List.length_map]
  · rintro earlier submission later rfl
    rw [List.forall_mem_append, List.forall_mem_cons] at hadmissible
    rw [List.append_cons] at hcollide
    have hsofar := hcollide.of_subset (List.subset_append_left _ _)
    obtain ⟨-, hbefore⟩ := hstart.submitAll hadmissible.1
      (hsofar.of_subset (List.subset_append_left _ _))
    rw [List.nil_append] at hbefore
    exact ⟨(hbefore.submit hadmissible.2.1 hsofar).1,
      hbefore.submit_of_done hadmissible.2.1⟩

/-- One text twice, when the clock has been set back in between. -/
def annsSubmissions : List Submission := [⟨5, "hello"⟩, ⟨4, "hello"⟩]

theorem annsSubmissions_admissible :
    ∀ submission ∈ annsSubmissions, submission.Admissible annsNode.textLimit := by
  have hhello : ∃ bytes, Utf8.encode "hello" = .ok bytes ∧
      (bytes.length : Int) ≤ annsNode.textLimit := ⟨_, rfl, by decide⟩
  unfold annsSubmissions
  simp only [List.forall_mem_cons, List.not_mem_nil, false_imp_iff, implies_true, and_true]
  exact ⟨⟨by decide, by decide, hhello⟩, ⟨by decide, by decide, hhello⟩⟩

set_option maxRecDepth 100000 in
theorem annsSubmissions_collisionFree : Submission.CollisionFree ann annsSubmissions := by
  have hne : (Submission.post ann ⟨5, "hello"⟩).messageId
      ≠ (Submission.post ann ⟨4, "hello"⟩).messageId := by
    decide +kernel
  exact Submission.collisionFree_pair hne

theorem submitAll_of_build_anns :
    LocalAuthor.create "ann" (List.replicate 32 7) = .ok ann ∧
      (build .empty ann 0 {} none {}).1 = .ok annsNode ∧
      (∀ submission ∈ annsSubmissions, submission.Admissible annsNode.textLimit) ∧
      Submission.CollisionFree ann annsSubmissions ∧ annsSubmissions.Nodup ∧
      List.Forall₂ Accepts annsSubmissions (annsNode.submitAll annsSubmissions).1 ∧
      (annsNode.submitAll annsSubmissions).2.store.posts.Nodup ∧
      (annsNode.submitAll annsSubmissions).2.store.count = 2 := by
  have hnodup : annsSubmissions.Nodup := by decide
  obtain ⟨hall, -⟩ := @submitAll_of_build "ann" (List.replicate 32 7) ann 0 {} none {}
    .messageGone annsNode annsSubmissions rfl rfl annsSubmissions_admissible annsSubmissions_collisionFree
  obtain ⟨haccepts, -, hposts, hcount⟩ := hall hnodup
  exact ⟨rfl, rfl, annsSubmissions_admissible, annsSubmissions_collisionFree, hnodup, haccepts,
    hposts, hcount⟩

/-- Not every text is published when the clock stands still. -/
theorem not_submitAll_of_build :
    ¬ ∀ (name : Text) (privateKey : Bytes) (author : LocalAuthor) (clock : Int)
      (metrics : Metrics) (limit : Option Int) (availability : Availability) (readFault : Fault)
      (node : Node) (submissions : List Submission),
      LocalAuthor.create name privateKey = .ok author →
      (build .empty author clock metrics limit availability readFault).1 = .ok node →
      (∀ submission ∈ submissions, submission.Admissible node.textLimit) →
      Submission.CollisionFree author submissions →
        (∀ answer ∈ (node.submitAll submissions).1, ∃ record, answer = .ok record) ∧
        (node.submitAll submissions).2.store.posts.Nodup ∧
        (node.submitAll submissions).2.store.count = submissions.length := by
  intro hclaim
  have hadmissible : Submission.Admissible ⟨5, "hello"⟩ annsNode.textLimit :=
    annsSubmissions_admissible _ List.mem_cons_self
  have hboth : ∀ submission ∈ ([⟨5, "hello"⟩, ⟨5, "hello"⟩] : List Submission),
      submission.Admissible annsNode.textLimit := by
    simpa using hadmissible
  have hcollide : Submission.CollisionFree ann [⟨5, "hello"⟩, ⟨5, "hello"⟩] := by
    have hpair : ([⟨5, "hello"⟩, ⟨5, "hello"⟩] : List Submission) ⊆ annsSubmissions := by decide
    exact annsSubmissions_collisionFree.of_subset hpair
  obtain ⟨hall, -⟩ := hclaim "ann" (List.replicate 32 7) ann 0 {} none {} .messageGone annsNode
    [⟨5, "hello"⟩, ⟨5, "hello"⟩] rfl rfl hboth hcollide
  have hstart : annsNode.Published ann annsNode.textLimit [] :=
    @published_of_build "ann" (List.replicate 32 7) ann 0 {} none {} .messageGone annsNode rfl rfl
  obtain ⟨-, hfirst⟩ := hstart.submit hadmissible
    (hcollide.of_subset (List.subset_append_left _ _))
  have hsecond := hfirst.submit_of_done hadmissible (List.mem_singleton.mpr rfl)
  obtain ⟨record, hrecord⟩ := hall _ (List.mem_cons_of_mem _ List.mem_cons_self)
  rw [hsecond] at hrecord
  cases hrecord

end Node

end SignedBlog
