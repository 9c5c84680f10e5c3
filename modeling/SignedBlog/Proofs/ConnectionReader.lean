import SignedBlog.Text.CodePoint

/-!
Reading a connection string.

The client of the database reads a connection string one setting at a time: a name, an equals sign
and a value, with white space around each of them. A value ends at white space unless it stands in
single quotes, and a backslash takes the code point behind it as it is.

* `Dsn.takeValue` reads one value.
* `Dsn.Reader` is what is known of a reader of whole strings, and `Dsn.read` is one.
-/

namespace SignedBlog.Database

set_option autoImplicit false

namespace Dsn

/-! ## The grammar -/

/-- The white space of connection strings. -/
def isGap (c : CodePoint) : Bool := c.val == 0x20 || (0x09 ≤ c.val && c.val ≤ 0x0D)

def isQuote (c : CodePoint) : Bool := c.val == 0x27

def isEscape (c : CodePoint) : Bool := c.val == 0x5C

/-- A value up to the first code point that stops, and what is left behind that one, if there is one.
The code point behind an escape is taken as it is. -/
def takeUntil (stop : CodePoint → Bool) : (escaped : Bool) → Text → Text × Option Text
  | _, [] => ([], none)
  | true, c :: t => Prod.map (List.cons c) id (takeUntil stop false t)
  | false, c :: t =>
    if stop c then ([], some t)
    else if isEscape c then takeUntil stop true t
    else Prod.map (List.cons c) id (takeUntil stop false t)

/-- The value at the front of a text and what is left. A quote that is not closed is an error. -/
def takeValue : Text → Option (Text × Text)
  | [] => some ([], [])
  | c :: t =>
    if isQuote c then
      let taken := takeUntil isQuote false t
      taken.2.map (taken.1, ·)
    else
      let taken := takeUntil isGap false (c :: t)
      some (taken.1, taken.2.getD [])

/-- Names of settings have neither white space nor an equals sign. -/
def isNamePart (c : CodePoint) : Bool := !isGap c && c.val != 0x3D

/-- A function that reads connection strings: the settings in order, or nothing where the string is
malformed. White space before a name, before the equals sign and behind it does not count. -/
structure Reader (read : Text → Option (List (Text × Text))) : Prop where
  done : read [] = some []
  gap : ∀ (c : CodePoint) (t : Text), isGap c = true → read (c :: t) = read t
  setting : ∀ (name gap t : Text), name ≠ [] → (∀ c ∈ name, isNamePart c = true) →
    (∀ c ∈ gap, isGap c = true) →
    read (name ++ (gap ++ ('=' : CodePoint) :: t)) =
      (takeValue (t.dropWhile isGap)).bind fun (value, rest) =>
        (read rest).map ((name, value) :: ·)

/-! ## A reader -/

theorem length_takeUntil {stop : CodePoint → Bool} {escaped : Bool} {t rest : Text}
    (h : (takeUntil stop escaped t).2 = some rest) : rest.length < t.length := by
  induction t generalizing escaped with
  | nil =>
    unfold takeUntil at h
    cases h
  | cons c t ih =>
    cases escaped with
    | true => exact Nat.lt_succ_of_lt (ih h)
    | false =>
      rw [takeUntil] at h
      split at h
      · cases h
        exact Nat.lt_succ_self _
      split at h
      · exact Nat.lt_succ_of_lt (ih h)
      · exact Nat.lt_succ_of_lt (ih h)

theorem length_takeValue {t value rest : Text} (h : takeValue t = some (value, rest)) :
    rest.length ≤ t.length := by
  cases t with
  | nil =>
    cases h
    exact Nat.le_refl _
  | cons c t =>
    rw [takeValue] at h
    split at h
    · obtain ⟨left, hleft, heq⟩ := Option.map_eq_some_iff.mp h
      cases heq
      exact Nat.le_of_lt (Nat.lt_succ_of_lt (length_takeUntil hleft))
    · cases h
      cases hleft : (takeUntil isGap false (c :: t)).2 with
      | none => exact Nat.zero_le _
      | some left => exact Nat.le_of_lt (length_takeUntil hleft)

/-- One setting at the front of a text, and what is left. -/
def takeSetting (t : Text) : Option ((Text × Text) × Text) :=
  match (t.dropWhile isNamePart).dropWhile isGap with
  | [] => none
  | c :: rest =>
    if c = ('=' : CodePoint) then
      (takeValue (rest.dropWhile isGap)).map fun (value, left) =>
        ((t.takeWhile isNamePart, value), left)
    else none

theorem length_takeSetting {t left : Text} {setting : Text × Text}
    (h : takeSetting t = some (setting, left)) : left.length < t.length := by
  unfold takeSetting at h
  split at h
  case h_1 => cases h
  case h_2 c rest hrest =>
    split at h
    case isFalse => cases h
    case isTrue =>
      obtain ⟨⟨value, found⟩, hvalue, heq⟩ := Option.map_eq_some_iff.mp h
      cases heq
      have hleft := length_takeValue hvalue
      have hgap := (List.dropWhile_suffix isGap (l := rest)).length_le
      have hname := (List.dropWhile_suffix isNamePart (l := t)).length_le
      have hcons := (List.dropWhile_suffix isGap (l := t.dropWhile isNamePart)).length_le
      rw [hrest, List.length_cons] at hcons
      omega

/-- The settings of a connection string. -/
def read (t : Text) : Option (List (Text × Text)) :=
  match _hskip : t.dropWhile isGap with
  | [] => some []
  | c :: rest =>
    match _htake : takeSetting (c :: rest) with
    | none => none
    | some (setting, left) => (read left).map (setting :: ·)
termination_by t.length
decreasing_by
  have hleft := length_takeSetting _htake
  have hgap := (List.dropWhile_suffix isGap (l := t)).length_le
  rw [_hskip] at hgap
  omega

theorem read_of_gaps {t : Text} (h : t.dropWhile isGap = []) : read t = some [] := by
  rw [read]
  split
  case h_1 => rfl
  case h_2 _ _ hskip => cases hskip.symm.trans h

theorem read_of_skipped {t rest : Text} {c : CodePoint} (h : t.dropWhile isGap = c :: rest) :
    read t = (takeSetting (c :: rest)).bind fun (setting, left) =>
      (read left).map (setting :: ·) := by
  rw [read]
  split
  case h_1 hskip => cases hskip.symm.trans h
  case h_2 d other hskip =>
    cases hskip.symm.trans h
    split
    case h_1 hnone => rw [hnone]; rfl
    case h_2 setting left hsome => rw [hsome]; rfl

/-- What stands behind a name ends it. -/
theorem isNamePart_of_isGap {c : CodePoint} (h : isGap c = true) : ¬ isNamePart c = true := by
  unfold isNamePart
  simp [h]

theorem isGap_of_isNamePart {c : CodePoint} (h : isNamePart c = true) : ¬ isGap c = true :=
  fun hgap => isNamePart_of_isGap hgap h

theorem takeSetting_append {name gap : Text} (hname : ∀ c ∈ name, isNamePart c = true)
    (hgap : ∀ c ∈ gap, isGap c = true) (t : Text) :
    takeSetting (name ++ (gap ++ ('=' : CodePoint) :: t)) =
      (takeValue (t.dropWhile isGap)).map fun (value, left) => ((name, value), left) := by
  have hend : (gap ++ ('=' : CodePoint) :: t).takeWhile isNamePart = [] ∧
      (gap ++ ('=' : CodePoint) :: t).dropWhile isNamePart = gap ++ ('=' : CodePoint) :: t := by
    cases gap with
    | nil => exact ⟨rfl, rfl⟩
    | cons c gap =>
      have hc := isNamePart_of_isGap (hgap c List.mem_cons_self)
      exact ⟨List.takeWhile_cons_of_neg hc, List.dropWhile_cons_of_neg hc⟩
  unfold takeSetting
  rw [List.takeWhile_append_of_pos hname, List.dropWhile_append_of_pos hname, hend.1, hend.2,
    List.dropWhile_append_of_pos hgap, List.dropWhile_cons_of_neg (by decide), List.append_nil]
  simp only [if_true]

theorem reader : Reader read where
  done := read_of_gaps rfl
  gap := by
    intro c t hc
    have hskip : (c :: t).dropWhile isGap = t.dropWhile isGap := List.dropWhile_cons_of_pos hc
    cases hrest : t.dropWhile isGap with
    | nil => rw [read_of_gaps hrest, read_of_gaps (hskip.trans hrest)]
    | cons d rest => rw [read_of_skipped hrest, read_of_skipped (hskip.trans hrest)]
  setting := by
    intro name gap t hfilled hname hgap
    have htake := takeSetting_append hname hgap t
    obtain ⟨c, name, rfl⟩ := List.exists_cons_of_ne_nil hfilled
    have hc := isGap_of_isNamePart (hname c List.mem_cons_self)
    rw [List.cons_append] at htake ⊢
    rw [read_of_skipped (List.dropWhile_cons_of_neg hc), htake, Option.bind_map]
    rfl

end Dsn

end SignedBlog.Database
