import SignedBlog.CommandLine.Run
import SignedBlog.Proofs.Validity

/-!
What becomes of posts that do not verify.

A peer's post with a defect is counted and refused, and the verification of stored posts reports
each one in a line. A fault that escapes from verification ends both: it is not counted, and no
later post is looked at.
-/

namespace SignedBlog

set_option autoImplicit false

/-! ## Posts of peers -/

namespace Node

theorem addRemotePost_of_defect {post : Post} {defect : PostDefect}
    (h : post.verify = .error (.invalidPost defect)) (node : Node) :
    node.addRemotePost post = (.error (.invalidPost defect), node.countRejectedRemote) := by
  unfold addRemotePost
  rw [h]

theorem addRemotePost_of_escapes {post : Post} {fault : Fault} (h : post.Escapes fault)
    (node : Node) : node.addRemotePost post = (.error fault, node) := by
  unfold addRemotePost
  rw [Post.verify_of_escapes h]
  cases fault with
  | invalidPost defect => exact absurd rfl (h.ne_defect defect)
  | _ => rfl

end Node

/-! ## Verification of stored posts -/

namespace CommandLine

/-- The line for a post, if it has a defect. -/
def failureLine? (post : Post) : Option Text :=
  match post.verify with
  | .error (.invalidPost defect) => some (failureLine post defect)
  | _ => none

theorem failureLine?_of_defect {post : Post} {defect : PostDefect}
    (h : post.verify = .error (.invalidPost defect)) :
    failureLine? post = some (failureLine post defect) := by
  unfold failureLine?
  rw [h]

theorem failureLine?_of_valid {post : Post} (h : post.Valid) : failureLine? post = none := by
  unfold failureLine?
  rw [Post.verify_of_valid h]

theorem failureLines_append {before : List Post}
    (hbefore : ∀ post ∈ before, ∀ fault, ¬ post.Escapes fault) (posts : List Post) :
    failureLines (before ++ posts)
      = (before.filterMap failureLine? ++ (failureLines posts).1, (failureLines posts).2) := by
  induction before with
  | nil => rfl
  | cons post before ih =>
    rw [List.forall_mem_cons] at hbefore
    by_cases hvalid : post.Valid
    · rw [List.cons_append, failureLines, Post.verify_of_valid hvalid,
        List.filterMap_cons_none (failureLine?_of_valid hvalid)]
      exact ih hbefore.2
    · obtain ⟨defect, hverify⟩ := Post.verify_of_not_valid hvalid hbefore.1
      rw [List.cons_append, failureLines, hverify,
        List.filterMap_cons_some (failureLine?_of_defect hverify)]
      simp only [ih hbefore.2, List.cons_append]

theorem failureLines_of_escapes {post : Post} {fault : Fault} (h : post.Escapes fault)
    (posts : List Post) : failureLines (post :: posts) = ([], some fault) := by
  rw [failureLines, Post.verify_of_escapes h]
  cases fault with
  | invalidPost defect => exact absurd rfl (h.ne_defect defect)
  | _ => rfl

theorem length_failures {posts : List Post} (h : ∀ post ∈ posts, ∀ fault, ¬ post.Escapes fault) :
    (posts.filterMap failureLine?).length = posts.countP fun post => !post.verify.isOk := by
  rw [List.length_filterMap_eq_countP]
  apply List.countP_congr
  intro post hpost
  by_cases hvalid : post.Valid
  · rw [failureLine?_of_valid hvalid, Post.verify_of_valid hvalid]
    rfl
  · obtain ⟨defect, hverify⟩ := Post.verify_of_not_valid hvalid (h post hpost)
    rw [failureLine?_of_defect hverify, hverify]
    rfl

/-- The first line of a verification. -/
def openingLine (posts : List Post) : Text :=
  ("Verifying " : Text) ++ Text.ofNat posts.length ++ (" posts..." : Text)

/-- Where no fault escapes, each post that does not verify has its line, and the run ends with one
exactly if there is such a post. -/
theorem ofVerification_eq {posts : List Post}
    (h : ∀ post ∈ posts, ∀ fault, ¬ post.Escapes fault) :
    Report.ofVerification posts =
      { output := lines (openingLine posts :: posts.filterMap failureLine? ++
          [verdictLine (posts.countP fun post => !post.verify.isOk) posts.length])
        errors := []
        ending := .ok (if posts.all fun post => post.verify.isOk then 0 else 1) } := by
  have hlines : failureLines posts = (posts.filterMap failureLine?, none) := by
    have happend := failureLines_append h []
    rw [List.append_nil] at happend
    rw [happend]
    exact congrArg (·, none) (List.append_nil _)
  have hempty : (posts.filterMap failureLine?).isEmpty
      = posts.all fun post => post.verify.isOk := by
    rw [Bool.eq_iff_iff, List.isEmpty_iff_length_eq_zero, length_failures h, List.countP_eq_zero]
    simp
  unfold Report.ofVerification
  simp only [hlines, length_failures h, hempty]
  rfl

/-- The first fault that escapes ends the run, and what comes behind is not looked at. -/
theorem ofVerification_of_escapes {before after : List Post} {post : Post} {fault : Fault}
    (hbefore : ∀ post ∈ before, ∀ fault, ¬ post.Escapes fault) (h : post.Escapes fault) :
    Report.ofVerification (before ++ post :: after) =
      { output := lines (openingLine (before ++ post :: after) :: before.filterMap failureLine?)
        errors := []
        ending := .error fault } := by
  unfold Report.ofVerification
  rw [failureLines_append hbefore, failureLines_of_escapes h]
  simp only [List.append_nil]
  rfl

end CommandLine

/-! ## What is rejected -/

open CommandLine in
/-- Verification accepts a post or finds a defect exactly when no fault escapes. Then a peer's post
that does not verify is refused and counted once, and the verification of stored posts reports each
one; a fault that escapes leaves the node as it is and ends the verification of stored posts. -/
theorem rejected_unless_escapes (fresh : Ed25519.Seed) (node : Node) :
    (∀ post : Post,
      (post.verify = .ok () ∨ ∃ defect, post.verify = .error (.invalidPost defect)) ↔
        ∀ fault, ¬ post.Escapes fault) ∧
    (∀ post : Post, post.verify ≠ .ok () → (∀ fault, ¬ post.Escapes fault) →
      ∃ defect,
        node.addRemotePost post = (.error (.invalidPost defect), node.countRejectedRemote)) ∧
    (∀ (post : Post) (fault : Fault), post.Escapes fault →
      post.verify = .error fault ∧ (∀ defect, fault ≠ .invalidPost defect) ∧
        node.addRemotePost post = (.error fault, node)) ∧
    ((∀ post ∈ node.store.posts, ∀ fault, ¬ post.Escapes fault) →
      (node.store.posts.filterMap failureLine?).length
          = (node.store.posts.countP fun post => !post.verify.isOk) ∧
        Command.run fresh (.ok node) .verifyPosts =
          { output := lines (openingLine node.store.posts ::
              node.store.posts.filterMap failureLine? ++
              [verdictLine (node.store.posts.countP fun post => !post.verify.isOk)
                node.store.posts.length])
            errors := []
            ending := .ok (if node.store.posts.all fun post => post.verify.isOk then 0 else 1) }) ∧
    (∀ (before after : List Post) (post : Post) (fault : Fault),
      node.store.posts = before ++ post :: after →
      (∀ earlier ∈ before, ∀ fault, ¬ earlier.Escapes fault) → post.Escapes fault →
        Command.run fresh (.ok node) .verifyPosts =
          { output := lines (openingLine node.store.posts :: before.filterMap failureLine?)
            errors := []
            ending := .error fault }) := by
  refine ⟨?verdict, ?refused, ?escaped, ?reported, ?stopped⟩
  case verdict =>
    intro post
    constructor
    · intro hverdict fault hfault
      rw [Post.verify_of_escapes hfault] at hverdict
      obtain hok | ⟨defect, hdefect⟩ := hverdict
      · cases hok
      · cases hdefect
        exact hfault.ne_defect defect rfl
    · intro hfits
      by_cases hvalid : post.Valid
      · exact .inl (Post.verify_of_valid hvalid)
      · exact .inr (Post.verify_of_not_valid hvalid hfits)
  case refused =>
    intro post hverify hfits
    have hvalid : ¬ post.Valid := fun hvalid => hverify (Post.verify_of_valid hvalid)
    obtain ⟨defect, hdefect⟩ := Post.verify_of_not_valid hvalid hfits
    exact ⟨defect, Node.addRemotePost_of_defect hdefect node⟩
  case escaped =>
    intro post fault hfault
    exact ⟨Post.verify_of_escapes hfault, hfault.ne_defect,
      Node.addRemotePost_of_escapes hfault node⟩
  case reported =>
    intro hfits
    exact ⟨length_failures hfits, ofVerification_eq hfits⟩
  case stopped =>
    intro before after post fault hposts hbefore hfault
    change Report.ofVerification node.store.posts = _
    rw [hposts]
    exact ofVerification_of_escapes hbefore hfault

/-- A post of a format version that is no byte is neither accepted nor found to have a defect. -/
theorem not_verify_accepts_or_rejects :
    ¬ ∀ post : Post,
      post.verify = .ok () ∨ ∃ defect, post.verify = .error (.invalidPost defect) := by
  intro hclaim
  let post : Post := ⟨[], [], none, ⟨256, [], "ann", []⟩, 0, "hello", []⟩
  have htext : Post.TextFits post.text := ⟨_, rfl, by decide⟩
  have hfault : post.Escapes (.range .tooBig) := .author htext (.bigVersion (by decide))
  have hverdict := hclaim post
  rw [Post.verify_of_escapes hfault] at hverdict
  obtain hok | ⟨defect, hdefect⟩ := hverdict
  · cases hok
  · cases hdefect

end SignedBlog
