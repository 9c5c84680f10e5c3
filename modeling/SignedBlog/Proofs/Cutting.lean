import SignedBlog.Text.CodePoint
import Mathlib.Data.List.TakeWhile

/-!
Texts cut at the first or the last code point of a kind.
-/

namespace SignedBlog.Text

set_option autoImplicit false

variable {stop : CodePoint → Bool} {before after t : Text} {c : CodePoint}

theorem beq_eq_false_of_not_mem (h : c ∉ t) : ∀ d ∈ t, (d == c) = false := by
  intro d hd
  rw [beq_eq_false_iff_ne]
  rintro rfl
  exact h hd

theorem takeWhile_append_cons (hbefore : ∀ d ∈ before, stop d = false) (hc : stop c = true) :
    (before ++ c :: after).takeWhile (fun d => !stop d) = before := by
  have hpass : ∀ d ∈ before, (!stop d) = true := fun d hd => by simp [hbefore d hd]
  rw [List.takeWhile_append_of_pos hpass, List.takeWhile_cons_of_neg (by simp [hc]),
    List.append_nil]

theorem dropWhile_append_cons (hbefore : ∀ d ∈ before, stop d = false) (hc : stop c = true) :
    (before ++ c :: after).dropWhile (fun d => !stop d) = c :: after := by
  have hpass : ∀ d ∈ before, (!stop d) = true := fun d hd => by simp [hbefore d hd]
  rw [List.dropWhile_append_of_pos hpass, List.dropWhile_cons_of_neg (by simp [hc])]

theorem cutFirst?_append_cons (hbefore : ∀ d ∈ before, stop d = false) (hc : stop c = true) :
    cutFirst? stop (before ++ c :: after) = some (before, after) := by
  unfold cutFirst?
  rw [dropWhile_append_cons hbefore hc, takeWhile_append_cons hbefore hc]

theorem cutFirst?_eq_none (h : ∀ d ∈ t, stop d = false) : cutFirst? stop t = none := by
  have hdrop : t.dropWhile (fun d => !stop d) = [] :=
    List.dropWhile_eq_nil_iff.mpr fun d hd => by simp [h d hd]
  unfold cutFirst?
  rw [hdrop]

/-- A cut leaves out the first code point that stops, and nothing else. -/
theorem cutFirst?_eq_some (h : cutFirst? stop t = some (before, after)) :
    ∃ c, t = before ++ c :: after ∧ stop c = true ∧ ∀ d ∈ before, stop d = false := by
  have hsplit := @List.takeWhile_append_dropWhile _ (fun d => !stop d) t
  unfold cutFirst? at h
  cases hdrop : t.dropWhile (fun d => !stop d) with
  | nil =>
    rw [hdrop] at h
    cases h
  | cons c rest =>
    rw [hdrop] at h hsplit
    cases h
    have hc : stop c = true := by
      have hhead := List.head?_dropWhile_not (fun d => !stop d) t
      rw [hdrop] at hhead
      simpa using hhead
    refine ⟨c, hsplit.symm, hc, fun d hd => ?_⟩
    have hpass := List.mem_takeWhile_imp hd
    simpa using hpass

theorem cutLast?_append_cons (hafter : c ∉ after) :
    cutLast? c (before ++ c :: after) = some (before, after) := by
  have hreverse : (before ++ c :: after).reverse = after.reverse ++ c :: before.reverse := by simp
  have hpass : ∀ d ∈ after.reverse, (d == c) = false := beq_eq_false_of_not_mem fun hmem =>
    hafter (List.mem_reverse.mp hmem)
  unfold cutLast?
  rw [hreverse, cutFirst?_append_cons hpass (by simp)]
  simp

theorem pieces_of_not_mem (h : c ∉ t) : pieces c t = [t] := by
  induction t with
  | nil => rfl
  | cons d t ih =>
    rw [List.mem_cons, not_or] at h
    have hrest : pieces c t = [t] := ih h.2
    unfold pieces at hrest ⊢
    rw [List.foldr_cons, hrest, if_neg (Ne.symm h.1)]

end SignedBlog.Text
