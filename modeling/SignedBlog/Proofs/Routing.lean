import SignedBlog.Http.Route
import Mathlib.Data.List.Basic

/-!
What paths and methods lead to.

A path is known as it is written and with one line break behind it. The feed is what `GET` and
`POST` ask for at its path, and only there.
-/

namespace SignedBlog.Http

set_option autoImplicit false

/-- A path is a known one, with or without a line break at its end. -/
def At (known path : Text) : Prop := path = known ∨ path = known ++ [('\n' : CodePoint)]

variable {known method path : Text}

theorem at_withoutLineBreak (path : Text) : At (withoutLineBreak path) path := by
  unfold withoutLineBreak
  by_cases hlast : path.getLast? = some ('\n' : CodePoint)
  · rw [if_pos hlast]
    have hsplit := List.dropLast_append_getLast? ('\n' : CodePoint) hlast
    exact .inr hsplit.symm
  · rw [if_neg hlast]
    exact .inl rfl

theorem withoutLineBreak_of_at (h : At known path) (hknown : ('\n' : CodePoint) ∉ known) :
    withoutLineBreak path = known := by
  obtain rfl | rfl := h
  · have hlast : path.getLast? ≠ some ('\n' : CodePoint) := fun e =>
      hknown (List.mem_of_getLast? e)
    exact if_neg hlast
  · unfold withoutLineBreak
    rw [if_pos List.getLast?_concat, List.dropLast_concat]

theorem At.startsWith {start : Text} (h : At known path) (hstart : start <+: path)
    (hbreak : ('\n' : CodePoint) ∉ start) : start <+: known := by
  obtain rfl | rfl := h
  · exact hstart
  · obtain hknown | hwhole := List.prefix_concat_iff.mp hstart
    · have hmem : ('\n' : CodePoint) ∈ start := by
        rw [hknown]
        simp
      exact absurd hmem hbreak
    · exact hwhole

/-- What a path leads to is in the table, or it leads nowhere. -/
theorem Target.find_cases (method path : Text) :
    (∃ route ∈ routes, At route.1 path ∧
        find method path = (route.2.lookup method).getD .wrongMethod) ∨
      (∃ bare, find method path = .elsewhere bare) ∨ find method path = .unknown := by
  unfold find methodsAt?
  cases hroute : routes.lookup (withoutLineBreak path) with
  | some methods =>
    obtain ⟨front, back, hsplit, -⟩ := List.lookup_eq_some_iff.mp hroute
    have hmem : (withoutLineBreak path, methods) ∈ routes := by
      rw [hsplit]
      exact List.mem_append_right front List.mem_cons_self
    exact .inl ⟨_, hmem, at_withoutLineBreak path, rfl⟩
  | none =>
    refine .inr ?_
    dsimp only
    split
    · exact .inl ⟨_, rfl⟩
    · exact .inr rfl

theorem Target.find_of_at {methods : List (Text × Target)} (h : At known path)
    (hknown : ('\n' : CodePoint) ∉ known) (hroute : routes.lookup known = some methods) :
    find method path = (methods.lookup method).getD .wrongMethod := by
  have hbare := withoutLineBreak_of_at h hknown
  unfold find methodsAt?
  rw [hbare, hroute]

/-- Two methods are told apart at the path of the feed. -/
theorem Target.find_feed (h : At postsPath path) :
    find method path = if method = "GET" then .listPosts
      else if method = "POST" then .createPost else .wrongMethod := by
  have hfind := @find_of_at _ method _ [("GET", .listPosts), ("POST", .createPost)] h
    (by decide) rfl
  rw [hfind]
  by_cases hget : method = "GET"
  · subst hget
    rfl
  · have hfirst : (method == ("GET" : Text)) = false := beq_eq_false_iff_ne.mpr hget
    rw [if_neg hget, List.lookup_cons, hfirst]
    by_cases hpost : method = "POST"
    · subst hpost
      rfl
    · have hsecond : (method == ("POST" : Text)) = false := beq_eq_false_iff_ne.mpr hpost
      rw [if_neg hpost]
      simp only [List.lookup_cons, hsecond, List.lookup_nil]
      rfl

theorem Target.find_elsewhere (h : ¬ At postsPath path) :
    find method path ≠ .listPosts ∧ find method path ≠ .createPost := by
  obtain ⟨route, hroute, hat, hfind⟩ | ⟨bare, hfind⟩ | hfind := find_cases method path
  case inl =>
    have hgets (target : Target) : [(("GET" : Text), target)].lookup method = some target ∨
        [(("GET" : Text), target)].lookup method = none := by
      rw [List.lookup_cons]
      cases method == ("GET" : Text)
      · exact .inr rfl
      · exact .inl rfl
    simp only [routes, List.mem_cons, List.not_mem_nil, or_false] at hroute
    obtain rfl | rfl | rfl | rfl := hroute
    · exact absurd hat h
    all_goals
      rw [hfind]
      obtain hget | hother := hgets _
      · rw [hget]
        exact ⟨nofun, nofun⟩
      · rw [hother]
        exact ⟨nofun, nofun⟩
  case inr.inl =>
    rw [hfind]
    exact ⟨nofun, nofun⟩
  case inr.inr =>
    rw [hfind]
    exact ⟨nofun, nofun⟩

theorem Target.find_eq_listPosts_iff :
    find method path = .listPosts ↔ method = "GET" ∧ At postsPath path := by
  constructor
  · intro h
    have hat : At postsPath path := by
      by_contra hother
      exact (find_elsewhere hother).1 h
    rw [find_feed hat] at h
    split at h
    · rename_i hget
      exact ⟨hget, hat⟩
    · split at h <;> cases h
  · rintro ⟨rfl, hat⟩
    rw [find_feed hat]
    rfl

theorem Target.find_eq_createPost_iff :
    find method path = .createPost ↔ method = "POST" ∧ At postsPath path := by
  constructor
  · intro h
    have hat : At postsPath path := by
      by_contra hother
      exact (find_elsewhere hother).2 h
    rw [find_feed hat] at h
    split at h
    · cases h
    · split at h
      · rename_i hpost
        exact ⟨hpost, hat⟩
      · cases h
  · rintro ⟨rfl, hat⟩
    rw [find_feed hat]
    rfl

/-- Whatever begins as the path of the feed does leads to the feed or to nothing that answers from
the node. -/
theorem Target.find_of_version (h : ("/v1" : Text) <+: path) :
    find method path = .listPosts ∨ find method path = .createPost ∨
      find method path = .wrongMethod ∨ (∃ bare, find method path = .elsewhere bare) ∨
      find method path = .unknown := by
  obtain ⟨route, hroute, hat, hfind⟩ | hfind | hfind := find_cases method path
  case inl =>
    have hstart := hat.startsWith h (by decide)
    simp only [routes, List.mem_cons, List.not_mem_nil, or_false] at hroute
    obtain rfl | rfl | rfl | rfl := hroute
    · rw [find_feed hat]
      split
      · exact .inl rfl
      · split
        · exact .inr (.inl rfl)
        · exact .inr (.inr (.inl rfl))
    all_goals exact absurd hstart (by decide)
  case inr.inl => exact .inr (.inr (.inr (.inl hfind)))
  case inr.inr => exact .inr (.inr (.inr (.inr hfind)))

end SignedBlog.Http
