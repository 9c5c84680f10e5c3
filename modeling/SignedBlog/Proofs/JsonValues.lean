import SignedBlog.Proofs.JsonNumbers
import SignedBlog.Proofs.JsonStrings

/-!
Values of JSON, written and read back.

Whatever the layout, the text of a value is read as that value, up to pairs of surrogates in ASCII:
`Json.read_write`. The proof follows the reader, one step lemma for each of its moves, and the length
of what is left bounds its fuel. Different legible values have different texts:
`Json.write_injective`.
-/

namespace SignedBlog.Json

set_option autoImplicit false

/-! ## Parts of a value -/

mutual

/-- A value with its texts and names replaced. -/
def mapTexts (f : Text → Text) : Json → Json
  | .text t => .text (f t)
  | .array items => .array (mapTextsItems f items)
  | .object fields => .object (mapTextsFields f fields)
  | value => value

def mapTextsItems (f : Text → Text) : List Json → List Json
  | [] => []
  | item :: items => mapTexts f item :: mapTextsItems f items

def mapTextsFields (f : Text → Text) : List (Text × Json) → List (Text × Json)
  | [] => []
  | (name, value) :: fields => (f name, mapTexts f value) :: mapTextsFields f fields

end

mutual

/-- The numbers in a value. -/
def numbers : Json → List Json
  | .int n => [.int n]
  | .float x => [.float x]
  | .array items => numbersItems items
  | .object fields => numbersFields fields
  | _ => []

def numbersItems : List Json → List Json
  | [] => []
  | item :: items => numbers item ++ numbersItems items

def numbersFields : List (Text × Json) → List Json
  | [] => []
  | (_, value) :: fields => numbers value ++ numbersFields fields

end

mutual

/-- The texts and names in a value. -/
def texts : Json → List Text
  | .text t => [t]
  | .array items => textsItems items
  | .object fields => textsFields fields
  | _ => []

def textsItems : List Json → List Text
  | [] => []
  | item :: items => texts item ++ textsItems items

def textsFields : List (Text × Json) → List Text
  | [] => []
  | (name, value) :: fields => name :: (texts value ++ textsFields fields)

end

mutual

theorem mapTexts_eq_self {f : Text → Text} (value : Json) (h : ∀ t ∈ value.texts, f t = t) :
    mapTexts f value = value := by
  match value with
  | .null | .bool _ | .int _ | .float _ => rfl
  | .text t => exact congrArg Json.text (h t List.mem_cons_self)
  | .array items => exact congrArg Json.array (mapTextsItems_eq_self items h)
  | .object fields => exact congrArg Json.object (mapTextsFields_eq_self fields h)

theorem mapTextsItems_eq_self {f : Text → Text} (items : List Json)
    (h : ∀ t ∈ textsItems items, f t = t) : mapTextsItems f items = items := by
  match items with
  | [] => rfl
  | item :: items =>
    rw [textsItems, List.forall_mem_append] at h
    rw [mapTextsItems, mapTexts_eq_self item h.1, mapTextsItems_eq_self items h.2]

theorem mapTextsFields_eq_self {f : Text → Text} (fields : List (Text × Json))
    (h : ∀ t ∈ textsFields fields, f t = t) : mapTextsFields f fields = fields := by
  match fields with
  | [] => rfl
  | (name, value) :: fields =>
    rw [textsFields, List.forall_mem_cons, List.forall_mem_append] at h
    rw [mapTextsFields, h.1, mapTexts_eq_self value h.2.1, mapTextsFields_eq_self fields h.2.2]

end

/-- No text or name in a value holds a surrogate. -/
def Clean (value : Json) : Prop := ∀ t ∈ value.texts, t.Clean

/-- Every number in a value is an integer. -/
def Integral (value : Json) : Prop := ∀ number ∈ value.numbers, ∃ n, number = .int n

@[simp] theorem clean_null : Clean .null := List.forall_mem_nil _

@[simp] theorem clean_int (n : Int) : Clean (.int n) := List.forall_mem_nil _

@[simp] theorem clean_text {t : Text} : Clean (.text t) ↔ t.Clean := List.forall_mem_singleton

@[simp] theorem clean_array {items : List Json} :
    Clean (.array items) ↔ ∀ item ∈ items, Clean item := by
  induction items with
  | nil => exact iff_of_true (List.forall_mem_nil _) (List.forall_mem_nil _)
  | cons item items ih =>
    rw [List.forall_mem_cons, ← ih]
    exact List.forall_mem_append

@[simp] theorem clean_object_nil : Clean (.object []) := List.forall_mem_nil _

@[simp] theorem clean_object_cons {name : Text} {value : Json} {fields : List (Text × Json)} :
    Clean (.object ((name, value) :: fields)) ↔
      name.Clean ∧ Clean value ∧ Clean (.object fields) := by
  change (∀ t ∈ name :: (texts value ++ textsFields fields), t.Clean) ↔ _
  rw [List.forall_mem_cons, List.forall_mem_append]
  rfl

@[simp] theorem integral_null : Integral .null := List.forall_mem_nil _

@[simp] theorem integral_int (n : Int) : Integral (.int n) :=
  List.forall_mem_singleton.mpr ⟨n, rfl⟩

@[simp] theorem integral_text (t : Text) : Integral (.text t) := List.forall_mem_nil _

@[simp] theorem integral_array {items : List Json} :
    Integral (.array items) ↔ ∀ item ∈ items, Integral item := by
  induction items with
  | nil => exact iff_of_true (List.forall_mem_nil _) (List.forall_mem_nil _)
  | cons item items ih =>
    rw [List.forall_mem_cons, ← ih]
    exact List.forall_mem_append

@[simp] theorem integral_object_nil : Integral (.object []) := List.forall_mem_nil _

@[simp] theorem integral_object_cons {name : Text} {value : Json} {fields : List (Text × Json)} :
    Integral (.object ((name, value) :: fields)) ↔ Integral value ∧ Integral (.object fields) :=
  List.forall_mem_append

/-- A value that its text determines: there are no surrogates in it, and no other numbers than
integers. -/
structure Legible (value : Json) : Prop where
  clean : value.Clean
  integral : value.Integral

theorem legible_iff {value : Json} : value.Legible ↔ value.Clean ∧ value.Integral :=
  ⟨fun h => ⟨h.clean, h.integral⟩, fun h => ⟨h.1, h.2⟩⟩

@[simp] theorem legible_text {t : Text} : Legible (.text t) ↔ t.Clean := by
  simp [legible_iff]

@[simp] theorem legible_int (n : Int) : Legible (.int n) := by
  simp [legible_iff]

@[simp] theorem legible_bool (b : Bool) : Legible (.bool b) :=
  ⟨List.forall_mem_nil _, List.forall_mem_nil _⟩

@[simp] theorem legible_object_nil : Legible (.object []) := by
  simp [legible_iff]

@[simp] theorem legible_object_cons {name : Text} {value : Json} {fields : List (Text × Json)} :
    Legible (.object ((name, value) :: fields)) ↔
      name.Clean ∧ Legible value ∧ Legible (.object fields) := by
  simp only [legible_iff, clean_object_cons, integral_object_cons]
  constructor
  · rintro ⟨⟨hname, hvalue, hfields⟩, hnumber, hnumbers⟩
    exact ⟨hname, ⟨hvalue, hnumber⟩, hfields, hnumbers⟩
  · rintro ⟨hname, ⟨hvalue, hnumber⟩, hfields, hnumbers⟩
    exact ⟨⟨hname, hvalue, hfields⟩, hnumber, hnumbers⟩

theorem legible_object {fields : List (Text × Json)} :
    Legible (.object fields) ↔ ∀ field ∈ fields, field.1.Clean ∧ Legible field.2 := by
  induction fields with
  | nil => simp
  | cons field fields ih =>
    rw [legible_object_cons, List.forall_mem_cons, ih, and_assoc]

/-! ## Blanks -/

theorem skipSpaces_append {blanks : Text} (h : ∀ c ∈ blanks, isSpace c = true) (t : Text) :
    skipSpaces (blanks ++ t) = skipSpaces t :=
  List.dropWhile_append_of_pos h

theorem skipSpaces_cons {c : CodePoint} (h : isSpace c = false) (t : Text) :
    skipSpaces (c :: t) = c :: t :=
  List.dropWhile_cons_of_neg (by simp [h])

/-- A mark with nothing but blanks behind it. -/
def Marked (mark : CodePoint) (t : Text) : Prop :=
  ∃ blanks, t = mark :: blanks ∧ ∀ c ∈ blanks, isSpace c = true

/-- The separators of a layout are a comma and a colon, with blanks behind them. -/
structure Layout.Separates (layout : Layout) : Prop where
  comma : Marked ',' layout.comma
  colon : Marked ':' layout.colon

theorem isSpace_lineBreak (layout : Layout) (level : Nat) :
    ∀ c ∈ layout.lineBreak level, isSpace c = true := by
  intro c hc
  unfold Layout.lineBreak at hc
  cases hindent : layout.indent with
  | none =>
    rw [hindent] at hc
    cases hc
  | some width =>
    rw [hindent, List.mem_cons] at hc
    obtain rfl | hblank := hc
    · decide
    · rw [(List.mem_replicate.mp hblank).2]
      decide

theorem Layout.Separates.item {layout : Layout} (h : layout.Separates) (level : Nat) :
    Marked ',' (layout.comma ++ layout.lineBreak level) := by
  obtain ⟨blanks, hcomma, hblanks⟩ := h.comma
  refine ⟨blanks ++ layout.lineBreak level, by rw [hcomma, List.cons_append], ?_⟩
  exact List.forall_mem_append.mpr ⟨hblanks, isSpace_lineBreak layout level⟩

/-! ## How texts begin -/

/-- A text begins neither with a blank nor with the end of an array or object. -/
def Begins (t : Text) : Prop :=
  ∃ c u, t = c :: u ∧ isSpace c = false ∧ c.val ≠ 0x5D ∧ c.val ≠ 0x7D

theorem Begins.append {t : Text} (h : Begins t) (u : Text) : Begins (t ++ u) := by
  obtain ⟨c, v, rfl, hc⟩ := h
  exact ⟨c, v ++ u, rfl, hc⟩

theorem Begins.skipSpaces {t : Text} (h : Begins t) : skipSpaces t = t := by
  obtain ⟨c, u, rfl, hspace, -⟩ := h
  exact skipSpaces_cons hspace u

theorem Begins.length_pos {t : Text} (h : Begins t) : 0 < t.length := by
  obtain ⟨c, u, rfl, -⟩ := h
  exact Nat.succ_pos _

theorem begins_quote (asciiOnly : Bool) (t : Text) : Begins (quote asciiOnly t) :=
  ⟨_, _, rfl, by decide, by decide, by decide⟩

theorem begins_join {separator t : Text} (h : Begins t) (more : List Text) :
    Begins (Text.join separator (t :: more)) := by
  cases more with
  | nil => exact h
  | cons next more =>
    change Begins (t ++ separator ++ Text.join separator (next :: more))
    rw [List.append_assoc]
    exact h.append _

theorem enclose_cons (layout : Layout) (level : Nat) (opening closing : CodePoint) (t : Text)
    (more : List Text) (rest : Text) :
    enclose layout level opening closing (t :: more) ++ rest
      = opening :: (layout.lineBreak (level + 1) ++
          (Text.join (layout.comma ++ layout.lineBreak (level + 1)) (t :: more) ++
            (layout.lineBreak level ++ closing :: rest))) := by
  simp [enclose]

theorem begins_enclose (layout : Layout) (level : Nat) {opening : CodePoint}
    (h : isSpace opening = false ∧ opening.val ≠ 0x5D ∧ opening.val ≠ 0x7D) (closing : CodePoint)
    (items : List Text) : Begins (enclose layout level opening closing items) := by
  cases items <;> exact ⟨opening, _, rfl, h⟩

theorem begins_number {limits : Limits} {number : Json} (h : ReadsBack limits number) :
    Begins (number.write .compact) := by
  obtain ⟨c, t, hwrite, hc⟩ := h.starts
  simp only [startsScalar, Bool.and_eq_true, Bool.not_eq_true', bne_iff_ne] at hc
  exact ⟨c, t, hwrite, hc.1.1.1.1.1, hc.1.2, hc.2⟩

theorem begins_writeAt {limits : Limits} (layout : Layout) (level : Nat) {value : Json}
    (h : ∀ number ∈ value.numbers, ReadsBack limits number) :
    Begins (writeAt layout level value) := by
  cases value with
  | null => exact ⟨_, _, rfl, by decide, by decide, by decide⟩
  | bool b => cases b <;> exact ⟨_, _, rfl, by decide, by decide, by decide⟩
  | int n => exact begins_number (h (.int n) List.mem_cons_self)
  | float x => exact begins_number (h (.float x) List.mem_cons_self)
  | text t => exact begins_quote layout.asciiOnly t
  | array items => exact begins_enclose layout level (by decide) _ _
  | object fields => exact begins_enclose layout level (by decide) _ _

theorem begins_field (layout : Layout) (level : Nat) (name : Text) (value : Json) :
    Begins (quote layout.asciiOnly name ++ layout.colon ++ writeAt layout level value) := by
  rw [List.append_assoc]
  exact (begins_quote layout.asciiOnly name).append _

theorem join_writeItems (layout : Layout) (level : Nat) (separator : Text) (item next : Json)
    (items : List Json) :
    Text.join separator (writeItems layout level (item :: next :: items))
      = writeAt layout level item ++
          (separator ++ Text.join separator (writeItems layout level (next :: items))) := by
  rw [← List.append_assoc]
  rfl

theorem join_writeFields (layout : Layout) (level : Nat) (separator name : Text) (value : Json)
    (next : Text × Json) (fields : List (Text × Json)) :
    Text.join separator (writeFields layout level ((name, value) :: next :: fields))
      = quote layout.asciiOnly name ++ (layout.colon ++ (writeAt layout level value ++
          (separator ++ Text.join separator (writeFields layout level (next :: fields))))) := by
  simp only [← List.append_assoc]
  rfl

/-! ## Steps of the reader -/

section Steps

variable {limits : Limits} {fuel depth : Nat} {blanks rest more t : Text} {value : Json}

theorem takeValue_of_scalar {c : CodePoint} (h : startsScalar c = true) (t : Text) :
    takeValue limits (fuel + 1) depth (c :: t) = takeScalar limits (c :: t) := by
  simp only [startsScalar, Bool.and_eq_true, bne_iff_ne] at h
  simp only [takeValue, if_neg h.1.1.1.1.2, if_neg h.1.1.1.2, if_neg h.1.1.2]

theorem takeValue_of_number {number : Json} (h : ReadsBack limits number)
    (hrest : ends rest = true) :
    takeValue limits (fuel + 1) depth (number.write .compact ++ rest) = .ok (number, rest) := by
  obtain ⟨c, t, hwrite, hc⟩ := h.starts
  have hread := h.reads rest hrest
  rw [hwrite, List.cons_append] at hread ⊢
  rw [takeValue_of_scalar hc, hread]

theorem takeValue_of_quote (asciiOnly : Bool) (t rest : Text) :
    takeValue limits (fuel + 1) depth (quote asciiOnly t ++ rest)
      = .ok (.text (readBack asciiOnly t), rest) := by
  rw [quote_append]
  simp only [takeValue, takeQuoted_written]
  rfl

theorem takeValue_array (hblanks : ∀ c ∈ blanks, isSpace c = true) (ht : Begins t) :
    takeValue limits (fuel + 1) (depth + 1) (('[' : CodePoint) :: (blanks ++ t))
      = takeItems limits fuel depth [] t := by
  have hskip : skipSpaces (blanks ++ t) = t := by
    rw [skipSpaces_append hblanks, ht.skipSpaces]
  obtain ⟨c, u, rfl, -, hclose, -⟩ := ht
  simp only [takeValue, hskip, if_neg hclose]
  rfl

theorem takeValue_object (hblanks : ∀ c ∈ blanks, isSpace c = true) (ht : Begins t) :
    takeValue limits (fuel + 1) (depth + 1) (('\x7b' : CodePoint) :: (blanks ++ t))
      = takeFields limits fuel depth [] t := by
  have hskip : skipSpaces (blanks ++ t) = t := by
    rw [skipSpaces_append hblanks, ht.skipSpaces]
  obtain ⟨c, u, rfl, -, -, hclose⟩ := ht
  simp only [takeValue, hskip, if_neg hclose]
  rfl

theorem takeItems_last (h : takeValue limits fuel depth t
      = .ok (value, blanks ++ (']' : CodePoint) :: rest))
    (hblanks : ∀ c ∈ blanks, isSpace c = true) (done : List Json) :
    takeItems limits (fuel + 1) depth done t = .ok (.array (value :: done).reverse, rest) := by
  have hskip : skipSpaces (blanks ++ (']' : CodePoint) :: rest) = (']' : CodePoint) :: rest := by
    rw [skipSpaces_append hblanks]
    rfl
  simp only [takeItems, h, hskip]
  rfl

theorem takeItems_next {separator : Text}
    (h : takeValue limits fuel depth t = .ok (value, separator ++ more))
    (hseparator : Marked ',' separator) (hmore : Begins more) (done : List Json) :
    takeItems limits (fuel + 1) depth done t = takeItems limits fuel depth (value :: done) more := by
  obtain ⟨blanks, rfl, hblanks⟩ := hseparator
  have hskip : skipSpaces (blanks ++ more) = more := by
    rw [skipSpaces_append hblanks, hmore.skipSpaces]
  have hcomma : skipSpaces ((',' : CodePoint) :: (blanks ++ more))
      = (',' : CodePoint) :: (blanks ++ more) := rfl
  rw [List.cons_append] at h
  simp only [takeItems, h, hcomma, hskip]
  rfl

theorem takeFields_last {colon : Text} (hcolon : Marked ':' colon) (ht : Begins t)
    (h : takeValue limits fuel depth t = .ok (value, blanks ++ ('\x7d' : CodePoint) :: rest))
    (hblanks : ∀ c ∈ blanks, isSpace c = true) (asciiOnly : Bool) (name : Text)
    (done : List (Text × Json)) :
    takeFields limits (fuel + 1) depth done (quote asciiOnly name ++ (colon ++ t))
      = .ok (.object ((readBack asciiOnly name, value) :: done).reverse, rest) := by
  obtain ⟨space, rfl, hspace⟩ := hcolon
  have hskip : skipSpaces (blanks ++ ('\x7d' : CodePoint) :: rest)
      = ('\x7d' : CodePoint) :: rest := by
    rw [skipSpaces_append hblanks]
    rfl
  have hvalue : skipSpaces (space ++ t) = t := by
    rw [skipSpaces_append hspace, ht.skipSpaces]
  have hmark : skipSpaces ((':' : CodePoint) :: (space ++ t))
      = (':' : CodePoint) :: (space ++ t) := rfl
  rw [quote_append, List.cons_append]
  simp only [takeFields, takeQuoted_written, hmark, hvalue, h, hskip]
  rfl

theorem takeFields_next {colon separator : Text} (hcolon : Marked ':' colon) (ht : Begins t)
    (h : takeValue limits fuel depth t = .ok (value, separator ++ more))
    (hseparator : Marked ',' separator) (hmore : Begins more) (asciiOnly : Bool) (name : Text)
    (done : List (Text × Json)) :
    takeFields limits (fuel + 1) depth done (quote asciiOnly name ++ (colon ++ t))
      = takeFields limits fuel depth ((readBack asciiOnly name, value) :: done) more := by
  obtain ⟨space, rfl, hspace⟩ := hcolon
  obtain ⟨blanks, rfl, hblanks⟩ := hseparator
  have hskip : skipSpaces (blanks ++ more) = more := by
    rw [skipSpaces_append hblanks, hmore.skipSpaces]
  have hvalue : skipSpaces (space ++ t) = t := by
    rw [skipSpaces_append hspace, ht.skipSpaces]
  have hmark : skipSpaces ((':' : CodePoint) :: (space ++ t))
      = (':' : CodePoint) :: (space ++ t) := rfl
  have hcomma : skipSpaces ((',' : CodePoint) :: (blanks ++ more))
      = (',' : CodePoint) :: (blanks ++ more) := rfl
  rw [List.cons_append] at h
  rw [quote_append, List.cons_append]
  simp only [takeFields, takeQuoted_written, hmark, hvalue, h, hcomma, hskip]
  rfl

end Steps

/-! ## Values -/

/-- What a value is read back as. -/
abbrev readBackAs (layout : Layout) (value : Json) : Json :=
  value.mapTexts (readBack layout.asciiOnly)

theorem ends_append {blanks : Text} (h : ∀ c ∈ blanks, isSpace c = true) {rest : Text}
    (hrest : ends rest = true) : ends (blanks ++ rest) = true := by
  cases blanks with
  | nil => exact hrest
  | cons c blanks => simp [ends, h c List.mem_cons_self]

theorem Marked.ends {separator : Text} (h : Marked ',' separator) (more : Text) :
    ends (separator ++ more) = true := by
  obtain ⟨blanks, rfl, -⟩ := h
  rfl

theorem Marked.length_pos {mark : CodePoint} {t : Text} (h : Marked mark t) : 0 < t.length := by
  obtain ⟨blanks, rfl, -⟩ := h
  exact Nat.succ_pos _

section Written

variable {limits : Limits} {layout : Layout}

mutual

theorem takeValue_writeAt (hlayout : layout.Separates) (value : Json) {level fuel depth : Nat}
    {rest : Text} (hnumbers : ∀ number ∈ value.numbers, ReadsBack limits number)
    (hfuel : (writeAt layout level value).length ≤ fuel) (hdepth : value.depth ≤ depth)
    (hrest : ends rest = true) :
    takeValue limits fuel depth (writeAt layout level value ++ rest)
      = .ok (readBackAs layout value, rest) := by
  have hpos := (begins_writeAt layout level hnumbers).length_pos
  obtain ⟨fuel, rfl⟩ : ∃ n, fuel = n + 1 := ⟨fuel - 1, by omega⟩
  match value with
  | .null => exact (takeValue_of_scalar (by decide) _).trans rfl
  | .bool true => exact (takeValue_of_scalar (by decide) _).trans rfl
  | .bool false => exact (takeValue_of_scalar (by decide) _).trans rfl
  | .int n => exact takeValue_of_number (hnumbers (.int n) List.mem_cons_self) hrest
  | .float x => exact takeValue_of_number (hnumbers (.float x) List.mem_cons_self) hrest
  | .text t => exact takeValue_of_quote layout.asciiOnly t rest
  | .array items =>
    rw [Json.depth] at hdepth
    obtain ⟨depth, rfl⟩ : ∃ n, depth = n + 1 := ⟨depth - 1, by omega⟩
    rw [writeAt] at hfuel ⊢
    match items with
    | [] =>
      simp only [takeValue]
      rfl
    | item :: items =>
      have hitem := begins_writeAt layout (level + 1) (List.forall_mem_append.mp hnumbers).1
      rw [writeItems, enclose_cons,
        takeValue_array (isSpace_lineBreak layout _) ((begins_join hitem _).append _)]
      refine takeItems_writeItems hlayout (item :: items) (List.cons_ne_nil _ _)
        (hlayout.item (level + 1)) (isSpace_lineBreak layout level) hnumbers ?_ (by omega) []
      simp only [enclose, writeItems, List.length_append, List.length_cons] at hfuel ⊢
      omega
  | .object fields =>
    rw [Json.depth] at hdepth
    obtain ⟨depth, rfl⟩ : ∃ n, depth = n + 1 := ⟨depth - 1, by omega⟩
    rw [writeAt] at hfuel ⊢
    match fields with
    | [] =>
      simp only [takeValue]
      rfl
    | (name, value) :: fields =>
      have hfield := begins_field layout (level + 1) name value
      rw [writeFields, enclose_cons,
        takeValue_object (isSpace_lineBreak layout _) ((begins_join hfield _).append _)]
      refine takeFields_writeFields hlayout ((name, value) :: fields) (List.cons_ne_nil _ _)
        (hlayout.item (level + 1)) (isSpace_lineBreak layout level) hnumbers ?_ (by omega) []
      simp only [enclose, writeFields, List.length_append, List.length_cons] at hfuel ⊢
      omega

theorem takeItems_writeItems (hlayout : layout.Separates) (items : List Json) (hne : items ≠ [])
    {level fuel depth : Nat} {separator blanks rest : Text} (hseparator : Marked ',' separator)
    (hblanks : ∀ c ∈ blanks, isSpace c = true)
    (hnumbers : ∀ number ∈ numbersItems items, ReadsBack limits number)
    (hfuel : (Text.join separator (writeItems layout level items)).length < fuel)
    (hdepth : depthItems items ≤ depth) (done : List Json) :
    takeItems limits fuel depth done (Text.join separator (writeItems layout level items) ++
        (blanks ++ (']' : CodePoint) :: rest))
      = .ok (.array (done.reverse ++ mapTextsItems (readBack layout.asciiOnly) items), rest) := by
  obtain ⟨fuel, rfl⟩ : ∃ n, fuel = n + 1 := ⟨fuel - 1, by omega⟩
  match items with
  | [item] =>
    rw [numbersItems, numbersItems, List.append_nil] at hnumbers
    rw [depthItems, depthItems, Nat.max_zero] at hdepth
    rw [writeItems, writeItems, Text.join] at hfuel ⊢
    have hends : ends (blanks ++ (']' : CodePoint) :: rest) = true := ends_append hblanks rfl
    have hvalue := takeValue_writeAt hlayout item hnumbers (Nat.le_of_lt_succ hfuel) hdepth hends
    rw [takeItems_last hvalue hblanks]
    simp [mapTextsItems]
  | item :: next :: items =>
    rw [numbersItems, List.forall_mem_append] at hnumbers
    rw [depthItems] at hdepth
    rw [join_writeItems, List.length_append, List.length_append] at hfuel
    have hpos := hseparator.length_pos
    have hnext : Begins (Text.join separator (writeItems layout level (next :: items))) :=
      begins_join (begins_writeAt layout level (List.forall_mem_append.mp hnumbers.2).1) _
    have hitem : (writeAt layout level item).length ≤ fuel := by omega
    have hvalue (more : Text) := takeValue_writeAt hlayout item hnumbers.1 hitem
      (show item.depth ≤ depth by omega) (hseparator.ends more)
    rw [join_writeItems, List.append_assoc, List.append_assoc,
      takeItems_next (hvalue _) hseparator (hnext.append _),
      takeItems_writeItems hlayout (next :: items) (List.cons_ne_nil _ _) hseparator hblanks
        hnumbers.2 (by omega) (by omega)]
    simp [mapTextsItems]

theorem takeFields_writeFields (hlayout : layout.Separates) (fields : List (Text × Json))
    (hne : fields ≠ []) {level fuel depth : Nat} {separator blanks rest : Text}
    (hseparator : Marked ',' separator) (hblanks : ∀ c ∈ blanks, isSpace c = true)
    (hnumbers : ∀ number ∈ numbersFields fields, ReadsBack limits number)
    (hfuel : (Text.join separator (writeFields layout level fields)).length < fuel)
    (hdepth : depthFields fields ≤ depth) (done : List (Text × Json)) :
    takeFields limits fuel depth done (Text.join separator (writeFields layout level fields) ++
        (blanks ++ ('\x7d' : CodePoint) :: rest))
      = .ok (.object (done.reverse ++ mapTextsFields (readBack layout.asciiOnly) fields), rest) := by
  obtain ⟨fuel, rfl⟩ : ∃ n, fuel = n + 1 := ⟨fuel - 1, by omega⟩
  match fields with
  | [(name, value)] =>
    rw [numbersFields, numbersFields, List.append_nil] at hnumbers
    rw [depthFields, depthFields, Nat.max_zero] at hdepth
    rw [writeFields, writeFields, Text.join] at hfuel ⊢
    simp only [List.length_append] at hfuel
    have hends : ends (blanks ++ ('\x7d' : CodePoint) :: rest) = true := ends_append hblanks rfl
    have hfirst : (writeAt layout level value).length ≤ fuel := by omega
    have hvalue := takeValue_writeAt hlayout value hnumbers hfirst hdepth hends
    rw [List.append_assoc, List.append_assoc, takeFields_last hlayout.colon
      ((begins_writeAt layout level hnumbers).append _) hvalue hblanks]
    simp [mapTextsFields]
  | (name, value) :: next :: fields =>
    rw [numbersFields, List.forall_mem_append] at hnumbers
    rw [depthFields] at hdepth
    rw [join_writeFields] at hfuel
    simp only [List.length_append] at hfuel
    have hpos := hseparator.length_pos
    have hnext : Begins (Text.join separator (writeFields layout level (next :: fields))) :=
      begins_join (begins_field layout level next.1 next.2) _
    have hfirst : (writeAt layout level value).length ≤ fuel := by omega
    have hvalue (more : Text) := takeValue_writeAt hlayout value hnumbers.1 hfirst
      (show value.depth ≤ depth by omega) (hseparator.ends more)
    rw [join_writeFields]
    simp only [List.append_assoc]
    rw [takeFields_next hlayout.colon ((begins_writeAt layout level hnumbers.1).append _)
        (hvalue _) hseparator (hnext.append _),
      takeFields_writeFields hlayout (next :: fields) (List.cons_ne_nil _ _) hseparator hblanks
        hnumbers.2 (by omega) (by omega)]
    simp [mapTextsFields]

end

end Written

/-! ## Texts of values -/

/-- A written value is read back, whatever blanks stand behind it. -/
theorem read_write_blanks {limits : Limits} {layout : Layout} (hlayout : layout.Separates)
    {value : Json} (hnumbers : ∀ number ∈ value.numbers, ReadsBack limits number)
    (hdepth : value.depth ≤ limits.depth) {blanks : Text} (hblanks : ∀ c ∈ blanks, isSpace c = true) :
    read limits (value.write layout ++ blanks) = .ok (readBackAs layout value) := by
  have hbegins := (begins_writeAt layout 0 hnumbers).append blanks
  have hfuel : (writeAt layout 0 value).length
      ≤ 2 * (writeAt layout 0 value ++ blanks).length + 2 := by
    rw [List.length_append]
    omega
  have hskip := skipSpaces_append hblanks []
  have hends := @ends_append blanks hblanks [] rfl
  rw [List.append_nil] at hskip hends
  have hvalue := takeValue_writeAt hlayout value hnumbers hfuel hdepth hends
  unfold read write
  rw [hbegins.skipSpaces, hvalue]
  simp only [hskip]
  rfl

/-- A written value is read back. -/
theorem read_write {limits : Limits} {layout : Layout} (hlayout : layout.Separates) {value : Json}
    (hnumbers : ∀ number ∈ value.numbers, ReadsBack limits number)
    (hdepth : value.depth ≤ limits.depth) :
    read limits (value.write layout) = .ok (readBackAs layout value) := by
  have hread := read_write_blanks hlayout hnumbers hdepth (List.forall_mem_nil _)
  rwa [List.append_nil] at hread

theorem Integral.exists_readsBack {value : Json} (h : value.Integral) :
    ∃ digits, ∀ limits : Limits, digits ≤ limits.digits →
      ∀ number ∈ value.numbers, ReadsBack limits number := by
  unfold Integral at h
  generalize value.numbers = numbers at h
  induction numbers with
  | nil => exact ⟨0, fun limits _ number hnumber => absurd hnumber List.not_mem_nil⟩
  | cons number numbers ih =>
    rw [List.forall_mem_cons] at h
    obtain ⟨⟨n, rfl⟩, hmore⟩ := h
    obtain ⟨digits, hdigits⟩ := ih hmore
    refine ⟨max digits (Text.ofNat n.natAbs).length, fun limits hlimits => ?_⟩
    rw [List.forall_mem_cons]
    exact ⟨readsBack_int (by omega), hdigits limits (by omega)⟩

/-- Values of one text are read back alike. -/
theorem readBackAs_eq {layout : Layout} (hlayout : layout.Separates) {a b : Json}
    (ha : a.Integral) (hb : b.Integral) (h : a.write layout = b.write layout) :
    readBackAs layout a = readBackAs layout b := by
  obtain ⟨digits₁, hdigits₁⟩ := ha.exists_readsBack
  obtain ⟨digits₂, hdigits₂⟩ := hb.exists_readsBack
  let limits : Limits := ⟨max a.depth b.depth, max digits₁ digits₂⟩
  have hread₁ := read_write hlayout (hdigits₁ limits (Nat.le_max_left _ _)) (Nat.le_max_left _ _)
  have hread₂ := read_write hlayout (hdigits₂ limits (Nat.le_max_right _ _)) (Nat.le_max_right _ _)
  rw [h, hread₂] at hread₁
  exact (Except.ok.inj hread₁).symm

theorem Clean.readBackAs {value : Json} (h : value.Clean) (layout : Layout) :
    readBackAs layout value = value :=
  mapTexts_eq_self value fun t ht => readBack_of_clean (h t ht) layout.asciiOnly

theorem write_injective {layout : Layout} (hlayout : layout.Separates) {a b : Json}
    (ha : a.Legible) (hb : b.Legible) (h : a.write layout = b.write layout) : a = b := by
  have hread := readBackAs_eq hlayout ha.integral hb.integral h
  rwa [ha.clean.readBackAs, hb.clean.readBackAs] at hread

theorem separates_compactAscii : Layout.compactAscii.Separates :=
  ⟨⟨[], rfl, List.forall_mem_nil _⟩, ⟨[], rfl, List.forall_mem_nil _⟩⟩

end SignedBlog.Json
