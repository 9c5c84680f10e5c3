import Mathlib.Data.List.Perm.Basic
import Mathlib.Data.List.Nodup
import SignedBlog.Canonical
import SignedBlog.Proofs.JsonValues

/-!
The order of fields, and what it does not matter for.

Fields are sorted by the code points of their names. Where no name repeats, that order depends on the
fields alone (`Canonical.sortFields_eq_of_perm`), so two values are the same up to the order of fields
at every level exactly when they are the same once sorted: `Json.reordered_iff`.
-/

namespace SignedBlog

set_option autoImplicit false

/-! ## The order of texts -/

namespace Text

theorem le_cons_cons (a b : CodePoint) (s t : Text) :
    le (a :: s) (b :: t) = true ↔ a.val < b.val ∨ a = b ∧ le s t = true := by
  rw [le]
  by_cases hlt : a.val < b.val
  · simp [hlt]
  by_cases hgt : b.val < a.val
  · have hne : a ≠ b := by
      rintro rfl
      exact hlt hgt
    simp [hlt, hgt, hne]
  · have heq : a = b := CodePoint.ext_val (by omega)
    simp [heq]

theorem le_total (s t : Text) : (le s t || le t s) = true := by
  rw [Bool.or_eq_true]
  induction s generalizing t with
  | nil => exact .inl (by rw [le])
  | cons a s ih =>
    cases t with
    | nil => exact .inr (by rw [le])
    | cons b t =>
      rw [le_cons_cons, le_cons_cons]
      by_cases heq : a = b
      · subst heq
        exact (ih t).imp (fun h => .inr ⟨rfl, h⟩) fun h => .inr ⟨rfl, h⟩
      · have hne : a.val ≠ b.val := fun hval => heq (CodePoint.ext_val hval)
        omega

theorem le_trans (s t u : Text) (hst : le s t = true) (htu : le t u = true) : le s u = true := by
  induction s generalizing t u with
  | nil => rw [le]
  | cons a s ih =>
    cases t with
    | nil => cases hst
    | cons b t =>
      cases u with
      | nil => cases htu
      | cons c u =>
        rw [le_cons_cons] at hst htu ⊢
        obtain hab | ⟨rfl, hst⟩ := hst <;> obtain hbc | ⟨rfl, htu⟩ := htu
        · exact .inl (by omega)
        · exact .inl hab
        · exact .inl hbc
        · exact .inr ⟨rfl, ih t u hst htu⟩

theorem le_antisymm {s t : Text} (hst : le s t = true) (hts : le t s = true) : s = t := by
  induction s generalizing t with
  | nil =>
    cases t with
    | nil => rfl
    | cons b t => cases hts
  | cons a s ih =>
    cases t with
    | nil => cases hst
    | cons b t =>
      rw [le_cons_cons] at hst hts
      obtain hab | ⟨rfl, hst⟩ := hst
      · obtain hba | ⟨rfl, -⟩ := hts <;> omega
      · obtain hba | ⟨-, hts⟩ := hts
        · omega
        · rw [ih hst hts]

end Text

/-! ## Sorted fields -/

namespace Canonical

section SortFields

variable {α : Type} {fields : List (Text × α)}

theorem sortFields_perm (fields : List (Text × α)) : (sortFields fields).Perm fields :=
  List.mergeSort_perm _ _

theorem sortFields_rises (fields : List (Text × α)) :
    (sortFields fields).Pairwise fun a b => Text.le a.1 b.1 = true := by
  apply List.pairwise_mergeSort
  · intro a b c
    exact Text.le_trans a.1 b.1 c.1
  · intro a b
    exact Text.le_total a.1 b.1

/-- In which order fields come does not matter where no name repeats. -/
theorem sortFields_eq_of_perm {others : List (Text × α)} (h : fields.Perm others)
    (hnames : (fields.map Prod.fst).Nodup) : sortFields fields = sortFields others := by
  have hperm : (sortFields fields).Perm (sortFields others) :=
    (sortFields_perm fields).trans (h.trans (sortFields_perm others).symm)
  refine hperm.eq_of_pairwise ?_ (sortFields_rises fields) (sortFields_rises others)
  intro a b ha hb hab hba
  have ha' : a ∈ fields := (sortFields_perm fields).mem_iff.mp ha
  have hb' : b ∈ fields := h.mem_iff.mpr ((sortFields_perm others).mem_iff.mp hb)
  exact List.inj_on_of_nodup_map hnames ha' hb' (Text.le_antisymm hab hba)

theorem sortFields_map {β : Type} (f : α → β) (fields : List (Text × α)) :
    sortFields (fields.map fun field => (field.1, f field.2))
      = (sortFields fields).map fun field => (field.1, f field.2) := by
  unfold sortFields
  rw [List.map_mergeSort]
  intro a _ b _
  rfl

/-! ## Fields that have a value -/

/-- The fields for whose values a function has a result, with that result. -/
def fieldsWith {β : Type} (f : α → Option β) (fields : List (Text × α)) : List (Text × β) :=
  fields.filterMap fun field => (f field.2).map (Prod.mk field.1)

theorem mem_fieldsWith {β : Type} {f : α → Option β} {field : Text × β} :
    field ∈ fieldsWith f fields ↔ ∃ value, (field.1, value) ∈ fields ∧ f value = some field.2 := by
  obtain ⟨name, result⟩ := field
  simp [fieldsWith]

theorem map_fst_fieldsWith_sublist {β : Type} (f : α → Option β) (fields : List (Text × α)) :
    ((fieldsWith f fields).map Prod.fst).Sublist (fields.map Prod.fst) := by
  induction fields with
  | nil => exact .slnil
  | cons field fields ih =>
    unfold fieldsWith at ih ⊢
    rw [List.filterMap_cons]
    cases f field.2 with
    | none => exact ih.cons field.1
    | some result => exact ih.cons_cons field.1

/-- Fields may be sorted before or after those without a value are left out. -/
theorem sortFields_fieldsWith {β : Type} (f : α → Option β)
    (hnames : (fields.map Prod.fst).Nodup) :
    fieldsWith f (sortFields fields) = sortFields (fieldsWith f fields) := by
  have hrises : (fieldsWith f (sortFields fields)).Pairwise fun a b => Text.le a.1 b.1 = true := by
    refine (sortFields_rises fields).filterMap _ ?_
    intro a b hab a' ha' b' hb'
    obtain ⟨result₁, -, rfl⟩ := Option.map_eq_some_iff.mp ha'
    obtain ⟨result₂, -, rfl⟩ := Option.map_eq_some_iff.mp hb'
    exact hab
  have hperm : (fieldsWith f (sortFields fields)).Perm (fieldsWith f fields) :=
    (sortFields_perm fields).filterMap _
  have hnodup : ((fieldsWith f fields).map Prod.fst).Nodup :=
    hnames.sublist (map_fst_fieldsWith_sublist f fields)
  rw [sortFields_eq_of_perm hperm.symm hnodup]
  exact (List.mergeSort_of_pairwise hrises).symm

end SortFields

end Canonical

namespace Json

/-! ## Sorting at every level -/

mutual

/-- A value with the fields of its objects sorted, at every level. -/
def sorted : Json → Json
  | .object fields => .object (Canonical.sortFields (sortedFields fields))
  | value => value

def sortedFields : List (Text × Json) → List (Text × Json)
  | [] => []
  | (name, value) :: fields => (name, sorted value) :: sortedFields fields

end

theorem sortedFields_eq_map (fields : List (Text × Json)) :
    sortedFields fields = fields.map fun field => (field.1, field.2.sorted) := by
  induction fields with
  | nil => rfl
  | cons field fields ih => rw [sortedFields, ih, List.map_cons]

theorem map_fst_sortedFields (fields : List (Text × Json)) :
    (sortedFields fields).map Prod.fst = fields.map Prod.fst := by
  rw [sortedFields_eq_map, List.map_map]
  rfl

mutual

/-- No object in a value has two fields of one name. -/
def Distinct : Json → Prop
  | .object fields => (fields.map Prod.fst).Nodup ∧ DistinctFields fields
  | _ => True

def DistinctFields : List (Text × Json) → Prop
  | [] => True
  | (_, value) :: fields => Distinct value ∧ DistinctFields fields

end

theorem distinctFields_iff {fields : List (Text × Json)} :
    DistinctFields fields ↔ ∀ field ∈ fields, field.2.Distinct := by
  induction fields with
  | nil => simp [DistinctFields]
  | cons field fields ih => rw [DistinctFields, ih, List.forall_mem_cons]

theorem distinct_object {fields : List (Text × Json)} :
    Distinct (.object fields) ↔
      (fields.map Prod.fst).Nodup ∧ ∀ field ∈ fields, field.2.Distinct := by
  rw [Distinct, distinctFields_iff]

/-! ## Values up to the order of fields -/

/-- The fields of the objects in a value, at whatever level, stand in another order. -/
inductive Reordered : Json → Json → Prop where
  | refl (value : Json) : Reordered value value
  | trans {a b c : Json} : Reordered a b → Reordered b c → Reordered a c
  | fields {fields others : List (Text × Json)} :
      fields.Perm others → Reordered (.object fields) (.object others)
  | inside {before after : List (Text × Json)} {name : Text} {a b : Json} : Reordered a b →
      Reordered (.object (before ++ (name, a) :: after)) (.object (before ++ (name, b) :: after))

mutual

theorem reordered_sorted (value : Json) : Reordered value value.sorted := by
  match value with
  | .null | .bool _ | .int _ | .float _ | .text _ | .array _ => exact .refl _
  | .object fields =>
    have hvalues := reordered_sortedFields [] fields
    exact hvalues.trans (.fields (Canonical.sortFields_perm _).symm)

theorem reordered_sortedFields (before fields : List (Text × Json)) :
    Reordered (.object (before ++ fields)) (.object (before ++ sortedFields fields)) := by
  match fields with
  | [] => exact .refl _
  | (name, value) :: fields =>
    have hvalue := reordered_sorted value
    have hfields := reordered_sortedFields (before ++ [(name, value.sorted)]) fields
    rw [← List.append_cons, ← List.append_cons] at hfields
    exact (Reordered.inside hvalue).trans hfields

end

namespace Reordered

variable {a b : Json}

theorem symm (h : Reordered a b) : Reordered b a := by
  induction h with
  | refl value => exact .refl value
  | trans _ _ ihab ihbc => exact ihbc.trans ihab
  | fields hperm => exact .fields hperm.symm
  | inside _ ih => exact .inside ih

theorem distinct (h : Reordered a b) (ha : a.Distinct) : b.Distinct := by
  induction h with
  | refl => exact ha
  | trans _ _ ihab ihbc => exact ihbc (ihab ha)
  | fields hperm =>
    rw [distinct_object] at ha ⊢
    refine ⟨(hperm.map Prod.fst).nodup_iff.mp ha.1, fun field hfield => ?_⟩
    exact ha.2 field (hperm.mem_iff.mpr hfield)
  | inside _ ih =>
    rw [distinct_object] at ha ⊢
    simp only [List.map_append, List.map_cons, List.forall_mem_append, List.forall_mem_cons]
      at ha ⊢
    exact ⟨ha.1, ha.2.1, ih ha.2.2.1, ha.2.2.2⟩

theorem legible (h : Reordered a b) (ha : a.Legible) : b.Legible := by
  induction h with
  | refl => exact ha
  | trans _ _ ihab ihbc => exact ihbc (ihab ha)
  | fields hperm =>
    rw [legible_object] at ha ⊢
    exact fun field hfield => ha field (hperm.mem_iff.mpr hfield)
  | inside _ ih =>
    simp only [legible_object, List.forall_mem_append, List.forall_mem_cons] at ha ⊢
    exact ⟨ha.1, ⟨ha.2.1.1, ih ha.2.1.2⟩, ha.2.2⟩

theorem fits {digits : Option Nat} (h : Reordered a b) (ha : a.fits digits = true) :
    b.fits digits = true := by
  induction h with
  | refl => exact ha
  | trans _ _ ihab ihbc => exact ihbc (ihab ha)
  | fields hperm =>
    rw [fits_object] at ha ⊢
    exact fun field hfield => ha field (hperm.mem_iff.mpr hfield)
  | inside _ ih =>
    simp only [fits_object, List.forall_mem_append, List.forall_mem_cons] at ha ⊢
    exact ⟨ha.1, ih ha.2.1, ha.2.2⟩

theorem sorted_eq (h : Reordered a b) (ha : a.Distinct) : a.sorted = b.sorted := by
  induction h with
  | refl => rfl
  | trans hab _ ihab ihbc => exact (ihab ha).trans (ihbc (hab.distinct ha))
  | @fields fields others hperm =>
    have hnames : ((sortedFields fields).map Prod.fst).Nodup := by
      rw [map_fst_sortedFields]
      exact (distinct_object.mp ha).1
    have hvalues : (sortedFields fields).Perm (sortedFields others) := by
      rw [sortedFields_eq_map, sortedFields_eq_map]
      exact hperm.map _
    rw [sorted, sorted, Canonical.sortFields_eq_of_perm hvalues hnames]
  | inside _ ih =>
    rw [distinct_object, List.forall_mem_append, List.forall_mem_cons] at ha
    simp only [sorted, sortedFields_eq_map, List.map_append, List.map_cons, ih ha.2.2.1]

end Reordered

/-- Where no name repeats, values are the same up to order exactly when they are the same once
sorted. -/
theorem reordered_iff {a b : Json} (ha : a.Distinct) : Reordered a b ↔ a.sorted = b.sorted := by
  refine ⟨fun h => h.sorted_eq ha, fun h => ?_⟩
  have hb := (reordered_sorted b).symm
  rw [← h] at hb
  exact (reordered_sorted a).trans hb

end Json

end SignedBlog
