import Mathlib.Data.List.Forall2
import SignedBlog.Proofs.JsonAscii
import SignedBlog.Proofs.JsonValues

/-!
Blanks in written JSON.

A layout decides which blanks stand between the parts of a value, and nothing else about them: without
its blanks outside of strings, the text of a value is the text that the same layout gives without
blanks (`Json.bare_write_blanks`). A string may hold blanks, quotes and brackets of its own, so the text is
gone through from its front with the place of each character in mind.
-/

namespace SignedBlog.Json

set_option autoImplicit false

/-! ## Texts without blanks -/

/-- Where a character of written JSON stands. -/
inductive Place where
  | outside
  /-- Within a string. -/
  | inside
  /-- Within a string, right behind a backslash. -/
  | escaped
deriving DecidableEq

/-- The place behind a character. -/
def Place.next : Place → CodePoint → Place
  | .outside, c => if c.val = 0x22 then .inside else .outside
  | .inside, c => if c.val = 0x22 then .outside else if c.val = 0x5C then .escaped else .inside
  | .escaped, _ => .inside

/-- A text, from a place on, without the blanks that stand outside of strings. -/
def bareFrom (place : Place) : Text → Text
  | [] => []
  | c :: t =>
    if place = .outside && isSpace c then bareFrom place t else c :: bareFrom (place.next c) t

/-- A text without the blanks that stand outside of strings. -/
def bare (t : Text) : Text := bareFrom .outside t

example : bare "[ \"a \\\" b\" ,\n 1 ]" = "[\"a \\\" b\",1]" := by decide

/-- From one place on, a text leaves another and ends at a place, whatever follows it. -/
def Scans (before : Place) (t u : Text) (after : Place) : Prop :=
  ∀ rest, bareFrom before (t ++ rest) = u ++ bareFrom after rest

/-- A text of whole parts leaves another one. -/
abbrev Leaves (t u : Text) : Prop := Scans .outside t u .outside

theorem Leaves.bare_eq {t u : Text} (h : Leaves t u) : bare t = u := by
  have hbare := h []
  rwa [List.append_nil, bareFrom, List.append_nil] at hbare

section Scans

variable {first second third : Place} {t u t₁ u₁ t₂ u₂ : Text}

theorem scans_nil (place : Place) : Scans place [] [] place := fun _ => rfl

theorem Scans.append (h₁ : Scans first t₁ u₁ second) (h₂ : Scans second t₂ u₂ third) :
    Scans first (t₁ ++ t₂) (u₁ ++ u₂) third := by
  intro rest
  rw [List.append_assoc, h₁, h₂, List.append_assoc]

/-- A character is kept unless it is a blank outside of strings. -/
theorem scans_char {c : CodePoint} (h : first = .outside → isSpace c = false) :
    Scans first [c] [c] (first.next c) := by
  intro rest
  have hkept : ¬ (first = .outside && isSpace c) = true := by
    simp only [Bool.and_eq_true, decide_eq_true_eq, Bool.not_eq_true, not_and]
    exact h
  change bareFrom first (c :: rest) = c :: bareFrom (first.next c) rest
  rw [bareFrom, if_neg hkept]

theorem leaves_blanks {blanks : Text} (h : ∀ c ∈ blanks, isSpace c = true) : Leaves blanks [] := by
  induction blanks with
  | nil => exact scans_nil _
  | cons c blanks ih =>
    rw [List.forall_mem_cons] at h
    intro rest
    rw [List.cons_append, bareFrom, h.1]
    exact ih h.2 rest

theorem scans_chars (h : ∀ c ∈ t, first.next c = first ∧ (first = .outside → isSpace c = false)) :
    Scans first t t first := by
  induction t with
  | nil => exact scans_nil _
  | cons c t ih =>
    rw [List.forall_mem_cons] at h
    have hc := scans_char h.1.2
    rw [h.1.1] at hc
    exact hc.append (ih h.2)

/-- What is neither blank nor quote nor backslash stays where it is. -/
theorem scans_of_solid (h : t.Solid) (hplace : first ≠ .escaped) : Scans first t t first := by
  refine scans_chars fun c hc => ?_
  obtain ⟨hblank, hprintable, hquote, hslash⟩ := h c hc
  refine ⟨?place, fun _ => ?blank⟩
  case place =>
    cases first with
    | outside => simp [Place.next, hquote]
    | inside => simp [Place.next, hquote, hslash]
    | escaped => exact absurd rfl hplace
  case blank =>
    simp only [isSpace, Bool.or_eq_false_iff, decide_eq_false_iff_not]
    omega

theorem Marked.leaves {mark : CodePoint} (h : Marked mark t) (hmark : Text.Solid [mark]) :
    Leaves t [mark] := by
  obtain ⟨blanks, rfl, hblanks⟩ := h
  exact (scans_of_solid hmark Place.noConfusion).append (leaves_blanks hblanks)

end Scans

/-! ## Strings -/

theorem scans_letter (e : CodePoint) : Scans .inside ['\\', e] ['\\', e] .inside := by
  have hslash : Scans .inside ['\\'] ['\\'] .escaped := scans_char Place.noConfusion
  exact hslash.append (scans_char Place.noConfusion)

theorem scans_escapeUnit (n : Nat) : Scans .inside (escapeUnit n) (escapeUnit n) .inside :=
  (scans_letter 'u').append (scans_of_solid (solid_hexDigits 4 n) Place.noConfusion)

/-- What is written for a character of a string is kept, and the string goes on behind it. -/
theorem Escaped.scans {asciiOnly : Bool} {c : CodePoint} {w : Text} (h : Escaped asciiOnly c w) :
    Scans .inside w w .inside := by
  cases h with
  | @letter e => exact scans_letter e
  | unit => exact scans_escapeUnit c.val
  | plain hquote hslash =>
    have hnext : Place.inside.next c = .inside := by simp [Place.next, hquote, hslash]
    have hkept : Scans .inside [c] [c] (Place.inside.next c) := scans_char Place.noConfusion
    rwa [hnext] at hkept
  | @pair high low => exact (scans_escapeUnit high).append (scans_escapeUnit low)

theorem leaves_quote (asciiOnly : Bool) (t : Text) :
    Leaves (quote asciiOnly t) (quote asciiOnly t) := by
  have hopening : Scans .outside ['"'] ['"'] .inside := scans_char fun _ => rfl
  have hclosing : Scans .inside ['"'] ['"'] .outside := scans_char Place.noConfusion
  have hescaped : Scans .inside (t.flatMap (escapeChar asciiOnly))
      (t.flatMap (escapeChar asciiOnly)) .inside := by
    induction t with
    | nil => exact scans_nil _
    | cons c t ih => exact (escapeChar_escaped asciiOnly c).scans.append ih
  exact (hopening.append hescaped).append hclosing

/-! ## Values -/

/-- A layout without its blanks. -/
def Layout.bare (layout : Layout) : Layout := ⟨layout.asciiOnly, ",", ":", none⟩

theorem Leaves.join {separator mark : Text} (h : Leaves separator mark) {ts us : List Text}
    (hitems : List.Forall₂ Leaves ts us) : Leaves (Text.join separator ts) (Text.join mark us) := by
  induction hitems with
  | nil => exact scans_nil _
  | @cons t u ts us hitem hmore ih =>
    cases hmore with
    | nil => exact hitem
    | cons => exact (hitem.append h).append ih

theorem Leaves.enclose {layout : Layout} (h : layout.Separates) (level : Nat)
    {opening closing : CodePoint} (hopening : Text.Solid [opening]) (hclosing : Text.Solid [closing])
    {ts us : List Text} (hitems : List.Forall₂ Leaves ts us) :
    Leaves (enclose layout level opening closing ts)
      (Json.enclose layout.bare level opening closing us) := by
  have hfirst : Leaves [opening] [opening] := scans_of_solid hopening Place.noConfusion
  have hlast : Leaves [closing] [closing] := scans_of_solid hclosing Place.noConfusion
  have hline (level : Nat) := leaves_blanks (isSpace_lineBreak layout level)
  cases hitems with
  | nil => exact hfirst.append hlast
  | cons hitem hmore =>
    have hcomma : Leaves (layout.comma ++ layout.lineBreak (level + 1)) [','] :=
      (h.item (level + 1)).leaves (by decide)
    have hjoin := Leaves.join hcomma (.cons hitem hmore)
    exact (((hfirst.append (hline (level + 1))).append hjoin).append (hline level)).append hlast

section Written

variable {layout : Layout}

mutual

/-- The text of a value leaves the text that the layout gives without blanks. -/
theorem leaves_writeAt (h : layout.Separates) (level : Nat) (value : Json) :
    Leaves (writeAt layout level value) (writeAt layout.bare level value) := by
  have hwords : Text.Solid "null" ∧ Text.Solid "true" ∧ Text.Solid "false" := by decide
  match value with
  | .null => exact scans_of_solid hwords.1 Place.noConfusion
  | .bool true => exact scans_of_solid hwords.2.1 Place.noConfusion
  | .bool false => exact scans_of_solid hwords.2.2 Place.noConfusion
  | .int n => exact scans_of_solid (Text.solid_ofInt n) Place.noConfusion
  | .float x => exact scans_of_solid (solid_floatText x) Place.noConfusion
  | .text t => exact leaves_quote layout.asciiOnly t
  | .array items =>
    exact .enclose h level (by decide) (by decide) (leaves_writeItems h (level + 1) items)
  | .object fields =>
    exact .enclose h level (by decide) (by decide) (leaves_writeFields h (level + 1) fields)

theorem leaves_writeItems (h : layout.Separates) (level : Nat) (items : List Json) :
    List.Forall₂ Leaves (writeItems layout level items) (writeItems layout.bare level items) := by
  match items with
  | [] => exact .nil
  | item :: items => exact .cons (leaves_writeAt h level item) (leaves_writeItems h level items)

theorem leaves_writeFields (h : layout.Separates) (level : Nat) (fields : List (Text × Json)) :
    List.Forall₂ Leaves (writeFields layout level fields)
      (writeFields layout.bare level fields) := by
  match fields with
  | [] => exact .nil
  | (name, value) :: fields =>
    have hcolon : Leaves layout.colon [':'] := h.colon.leaves (by decide)
    exact .cons (((leaves_quote layout.asciiOnly name).append hcolon).append
      (leaves_writeAt h level value)) (leaves_writeFields h level fields)

end

end Written

/-- Without its blanks, the text of a value is the one of the layout without blanks. -/
theorem bare_write_blanks {layout : Layout} (h : layout.Separates) (value : Json) {blanks : Text}
    (hblanks : ∀ c ∈ blanks, isSpace c = true) :
    bare (value.write layout ++ blanks) = value.write layout.bare := by
  have hleaves := Leaves.bare_eq ((leaves_writeAt h 0 value).append (leaves_blanks hblanks))
  rwa [List.append_nil] at hleaves

theorem separates_indented : Layout.indented.Separates :=
  ⟨⟨[], rfl, List.forall_mem_nil _⟩, ⟨[' '], rfl, by decide⟩⟩

end SignedBlog.Json
