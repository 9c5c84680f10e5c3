import SignedBlog.Proofs.Action
import SignedBlog.Proofs.Utf8

/-!
What publishing a text comes to.

The text is judged before anything else: it has to have a UTF-8 form that fits under the limit of the
node. No later check finds fault with it again, and until the post is stored nothing is written, so
a text that is not published leaves no trace but the count of those rejected.

* `Node.Publication` lists what can come of a text.
* `Node.createPost_all_or_nothing` reads the list off for every node and every text.
-/

namespace SignedBlog

set_option autoImplicit false

/-- A fault that blames a text or a post, and not the node. -/
def Fault.isVerdict : Fault → Bool
  | .invalidText _ => true
  | .invalidPost _ => true
  | _ => false

namespace Node

/-! ## The text -/

/-- A text that no node may publish under a limit. -/
def Unfit (text : Text) (limit : Int) : Prop :=
  (∃ c ∈ text, c.isSurrogate = true) ∨ limit < (Utf8.size text : Int)

theorem not_clean_iff {text : Text} : ¬ text.Clean ↔ ∃ c ∈ text, c.isSurrogate = true := by
  simp only [Text.Clean, not_forall, Bool.not_eq_false, exists_prop]

theorem exceeds_of_clean {text : Text} (hclean : text.Clean) (limit : Int) :
    exceeds text limit = .ok (decide (limit < (Utf8.size text : Int))) := by
  unfold exceeds
  rw [Utf8.encode_eq_ok_iff.mpr ⟨hclean, rfl⟩]
  rfl

theorem admitText_eq_ok_iff {text : Text} {limit : Int} :
    admitText text limit = .ok () ↔ ¬ Unfit text limit := by
  unfold admitText Unfit
  rw [← not_clean_iff]
  by_cases hclean : text.Clean
  · rw [exceeds_of_clean hclean]
    by_cases hlong : limit < (Utf8.size text : Int)
    · simp [hlong]
    · simp [hclean, hlong]
  · obtain ⟨run, hrun⟩ := Utf8.encode_of_not_clean hclean
    simp [exceeds, hrun, Except.map, hclean]

/-- A text that is admitted under a limit no higher than that of posts passes the check of posts. -/
theorem textFits_of_admitText {text : Text} {limit : Int}
    (hadmitted : admitText text limit = .ok ()) (hlimit : limit ≤ maxTextLength) :
    Post.TextFits text := by
  have hfit := admitText_eq_ok_iff.mp hadmitted
  unfold Unfit at hfit
  rw [← not_clean_iff, not_or, not_not] at hfit
  obtain ⟨hclean, hshort⟩ := hfit
  refine ⟨_, Utf8.encode_eq_ok_iff.mpr ⟨hclean, rfl⟩, ?_⟩
  change Utf8.size text ≤ maxTextLength
  omega

/-! ## Faults after the text was admitted -/

theorem isVerdict_of_draft {node : Node} {text : Text} {fault : Fault}
    (htext : Post.TextFits text) (h : node.draft text = .error fault) :
    fault.isVerdict = false := by
  unfold draft Identity.localAuthor at h
  cases hauthor : node.identity.author? with
  | none =>
    rw [hauthor] at h
    cases h
    rfl
  | some author =>
    rw [hauthor] at h
    change Post.compose (Identifier.blog author.id) node.clock none author text = _ at h
    obtain rfl | ⟨body, hfault⟩ := Post.compose_eq_error htext h
    · rfl
    · cases hfault <;> rfl

theorem isVerdict_of_storePost {node next : Node} {post : Post} {isLocal : Bool} {fault : Fault}
    (h : node.storePost post isLocal = (.error fault, next)) :
    fault.isVerdict = false ∧ next = node := by
  unfold storePost Store.addMessage at h
  by_cases hknown : (!node.store.containsBlog post.blogId) = true
  · rw [if_pos hknown] at h
    cases h
    exact ⟨rfl, rfl⟩
  rw [if_neg hknown] at h
  by_cases hstored : (node.store.stored? post.messageId).isSome = true
  · rw [if_pos hstored] at h
    cases h
    exact ⟨rfl, rfl⟩
  · rw [if_neg hstored] at h
    cases h

/-! ## What comes of a text -/

/-- What can come of handing a text to a node, with the node as it is afterwards. -/
inductive Publication (text : Text) (node : Node) : Outcome Record → Prop where
  | rejected {defect : TextDefect} (hunfit : Unfit text node.textLimit) :
      Publication text node (.error (.invalidText defect), node.countRejected)
  | failed {fault : Fault} (hfit : ¬ Unfit text node.textLimit)
      (hfault : fault.isVerdict = false) : Publication text node (.error fault, node)
  | published {post : Post} (hfit : ¬ Unfit text node.textLimit)
      (hdraft : node.draft text = .ok post) :
      Publication text node
        (.ok ⟨node.identity.withStatus (node.store.arriving node.arrivalClock post true).header, text⟩,
          { node with store := node.store.push node.arrivalClock post true }.countCreated)

theorem publication {node : Node} (hlimit : node.textLimit ≤ maxTextLength) (text : Text) :
    Publication text node (node.createPost text) := by
  cases hadmitted : admitText text node.textLimit with
  | error defect =>
    have hunfit : Unfit text node.textLimit := by
      refine Classical.byContradiction fun hfit => ?_
      rw [admitText_eq_ok_iff.mpr hfit] at hadmitted
      cases hadmitted
    unfold createPost
    rw [hadmitted]
    exact .rejected hunfit
  | ok _ =>
    have hfit := admitText_eq_ok_iff.mp hadmitted
    have htext := textFits_of_admitText hadmitted hlimit
    cases hdraft : node.draft text with
    | error fault =>
      simp only [createPost, hadmitted, hdraft]
      exact .failed hfit (isVerdict_of_draft htext hdraft)
    | ok post =>
      obtain ⟨fault, hstore⟩ | ⟨hknown, hfresh⟩ := storePost_cases post true node
      · simp only [createPost, addLocalPost, hadmitted, hdraft, hstore]
        exact .failed hfit (isVerdict_of_storePost hstore).1
      · rw [createPost_of_fresh hadmitted hdraft hknown hfresh]
        exact .published hfit hdraft

/-- A text is found invalid exactly when it holds a surrogate or is too long for the node, whatever
else is amiss with the node, and is then counted as rejected and nothing more. The post that is made
of a text is never found invalid. Whatever the fault, store and created posts stay as they were; a
text that is published becomes one more message, and is counted once. -/
theorem createPost_all_or_nothing (node : Node) (limit : Option Int)
    (hlimit : checkLimit limit = .ok node.textLimit) (text : Text) :
    ((∃ defect, (node.createPost text).1 = .error (.invalidText defect)) ↔
      (∃ c ∈ text, c.isSurrogate = true) ∨ node.textLimit < (Utf8.size text : Int)) ∧
    (∀ defect, (node.createPost text).1 = .error (.invalidText defect) →
      (node.createPost text).2 =
        { node with metrics :=
          { node.metrics with postsRejected := node.metrics.postsRejected + 1 } }) ∧
    (∀ defect, (node.createPost text).1 ≠ .error (.invalidPost defect)) ∧
    (∀ fault, (node.createPost text).1 = .error fault →
      (node.createPost text).2.store.blogs = node.store.blogs ∧
      (node.createPost text).2.store.messages = node.store.messages ∧
      (node.createPost text).2.store.latest = node.store.latest ∧
      (node.createPost text).2.store = node.store ∧
      (node.createPost text).2.metrics.postsCreated = node.metrics.postsCreated) ∧
    (∀ record, (node.createPost text).1 = .ok record →
      (∃ stored : Stored, stored.post.text = text ∧
        (node.createPost text).2.store.messages = node.store.messages ++ [stored]) ∧
      (node.createPost text).2.metrics.postsCreated = node.metrics.postsCreated + 1) := by
  change (_ ↔ Unfit text node.textLimit) ∧ _
  have hpublication := publication (le_of_checkLimit hlimit) text
  generalize node.createPost text = outcome at hpublication ⊢
  cases hpublication with
  | @rejected defect hunfit =>
    refine ⟨⟨fun _ => hunfit, fun _ => ⟨defect, rfl⟩⟩, fun _ _ => rfl, ?_,
      fun _ _ => ⟨rfl, rfl, rfl, rfl, rfl⟩, ?_⟩
    · rintro _ ⟨⟩
    · rintro _ ⟨⟩
  | @failed fault hfit hfault =>
    have hother : ∀ verdict : Fault, verdict.isVerdict = true →
        (Except.error fault : Except Fault Record) ≠ .error verdict := by
      rintro verdict hverdict ⟨⟩
      rw [hverdict] at hfault
      cases hfault
    refine ⟨⟨?_, fun hunfit => absurd hunfit hfit⟩, ?_, fun defect => hother _ rfl,
      fun _ _ => ⟨rfl, rfl, rfl, rfl, rfl⟩, ?_⟩
    · rintro ⟨defect, hdefect⟩
      exact absurd hdefect (hother _ rfl)
    · intro defect hdefect
      exact absurd hdefect (hother _ rfl)
    · rintro _ ⟨⟩
  | @published post hfit hdraft =>
    obtain ⟨-, -, -, htext, -⟩ := draft_eq_ok hdraft
    refine ⟨⟨?_, fun hunfit => absurd hunfit hfit⟩, ?_, ?_, ?_,
      fun _ _ => ⟨⟨node.store.arriving node.arrivalClock post true, htext, rfl⟩, rfl⟩⟩
    · rintro ⟨_, ⟨⟩⟩
    · rintro _ ⟨⟩
    · rintro _ ⟨⟩
    · rintro _ ⟨⟩

/-- A node that has neither an author nor a blog, whose clock is wrong, and which publishes no text
of more than five bytes. -/
def bareNode : Node where
  store := .empty
  identity := ⟨none⟩
  clock := -1
  metrics := {}
  textLimit := 5
  availability := {}

theorem createPost_all_or_nothing_bare :
    checkLimit (some 5) = .ok bareNode.textLimit ∧
    bareNode.textLimit < (Utf8.size "hello!" : Int) ∧
    (∃ defect, (bareNode.createPost "hello!").1 = .error (.invalidText defect)) ∧
    ¬ ∃ defect, (bareNode.createPost "hello").1 = .error (.invalidText defect) := by
  have hlimit : checkLimit (some 5) = .ok bareNode.textLimit := by decide
  have hlong := (createPost_all_or_nothing bareNode (some 5) hlimit "hello!").1
  have hshort := (createPost_all_or_nothing bareNode (some 5) hlimit "hello").1
  refine ⟨hlimit, by decide, hlong.mpr (.inr (by decide)), ?_⟩
  rw [hshort]
  decide

end Node

end SignedBlog
