import SignedBlog.Database.Settings
import SignedBlog.Proofs.ConnectionReader
import SignedBlog.Proofs.Cutting
import SignedBlog.Proofs.JsonNumbers
import Mathlib.Tactic.Tauto

/-!
Settings of a database as they are read from a connection string.

Settings are written without quotes and escapes, so they are read as they are only if no value needs
them: `Settings.read_toDsn_iff`. An empty value swallows the setting behind it, and the password is
empty unless it is set: `Settings.read_toDsn_of_no_password`.

* `Dsn.Unmarked` says that a value needs no quotes.
* `Dsn.written` are settings as they are written; `Dsn.Reader.written_iff` says when they are read
  back.
-/

namespace SignedBlog.Database

set_option autoImplicit false

/-- Where the database is and whose it is, by keyword. -/
def Settings.place (settings : Settings) : List (Text × Text) :=
  [("host", settings.host), ("port", Text.ofInt settings.port), ("dbname", settings.database),
    ("user", settings.user)]

/-- The settings by keyword, in the order they are written. -/
def Settings.keywords (settings : Settings) : List (Text × Text) :=
  settings.place ++
    [(("password" : Text), settings.password), (("sslmode" : Text), settings.sslMode)]

namespace Dsn

/-! ## Values that need no quotes -/

/-- A value in which nothing has a meaning: no white space, no escape, no quote at its front. -/
def Unmarked (value : Text) : Prop :=
  (∀ c ∈ value, isGap c = false ∧ isEscape c = false) ∧ ∀ c ∈ value.head?, isQuote c = false

/-- What may stand behind a value: nothing, or a blank and a name that begins with a letter. -/
def Follows (letter : CodePoint) (tail : Text) : Prop :=
  tail = [] ∨ ∃ rest, tail = (' ' : CodePoint) :: letter :: rest

section Values

variable {letter : CodePoint} {tail : Text} {stop : CodePoint → Bool}

theorem plain_of_isAsciiLetter (h : letter.isAsciiLetter = true) :
    isGap letter = false ∧ isQuote letter = false ∧ isEscape letter = false ∧
      isNamePart letter = true := by
  simp only [CodePoint.isAsciiLetter, Bool.or_eq_true, Bool.and_eq_true, decide_eq_true_eq] at h
  simp only [isNamePart, isGap, isQuote, isEscape, Bool.or_eq_false_iff, Bool.and_eq_false_iff,
    Bool.and_eq_true, Bool.not_eq_true', bne_iff_ne, beq_eq_false_iff_ne, decide_eq_false_iff_not]
  omega

theorem takeUntil_of_unmarked {value : Text}
    (h : ∀ c ∈ value, stop c = false ∧ isEscape c = false) (rest : Text) :
    takeUntil stop false (value ++ rest)
      = Prod.map (value ++ ·) id (takeUntil stop false rest) := by
  induction value with
  | nil => rfl
  | cons c value ih =>
    rw [List.forall_mem_cons] at h
    rw [List.cons_append, takeUntil, h.1.1, h.1.2, ih h.2]
    rfl

/-- Whatever stands behind a value gives nothing, or brings in the letter of the next name. -/
theorem takeUntil_of_follows (htail : Follows letter tail) (hletter : letter.isAsciiLetter = true)
    (hstop : stop letter = false) (escaped : Bool) :
    (takeUntil stop escaped tail).1 = [] ∨ letter ∈ (takeUntil stop escaped tail).1 := by
  obtain ⟨-, -, hescape, -⟩ := plain_of_isAsciiLetter hletter
  have hblank : isEscape (' ' : CodePoint) = false := by decide
  obtain rfl | ⟨rest, rfl⟩ := htail
  · cases escaped <;> exact .inl rfl
  cases escaped with
  | true => exact .inr (by simp [takeUntil, hstop, hescape])
  | false =>
    cases hfirst : stop (' ' : CodePoint) with
    | true => exact .inl (by simp [takeUntil, hfirst])
    | false => exact .inr (by simp [takeUntil, hfirst, hblank, hstop, hescape])

/-- A value that has lost something at its front is never read back: reading gives no more code
points than it takes, and those that are missing could only come from behind the value, where the
letter is met first. The induction passes on, in `lost`, what is still to come before the rest of the
value. -/
theorem takeUntil_ne (htail : Follows letter tail) (hletter : letter.isAsciiLetter = true)
    (hstop : stop letter = false) (value lost : Text) (hlost : lost ≠ [])
    (habsent : letter ∉ lost) (escaped : Bool) :
    (takeUntil stop escaped (value ++ tail)).1 ≠ lost ++ value := by
  induction value generalizing lost escaped with
  | nil =>
    rw [List.nil_append, List.append_nil]
    intro heq
    have hcases := takeUntil_of_follows htail hletter hstop escaped
    rw [heq] at hcases
    exact hcases.elim hlost habsent
  | cons c value ih =>
    have hkept : (c :: (takeUntil stop false (value ++ tail)).1) ≠ lost ++ c :: value := by
      intro heq
      obtain ⟨first, lost, rfl⟩ := List.exists_cons_of_ne_nil hlost
      obtain ⟨rfl, hrest⟩ := List.cons.inj heq
      refine ih (lost ++ [c]) (by simp) ?_ false (by simpa using hrest)
      simpa [or_comm] using habsent
    cases escaped with
    | true => exact hkept
    | false =>
      rw [List.cons_append, takeUntil]
      split
      · exact fun heq => hlost (List.append_eq_nil_iff.mp heq.symm).1
      split
      case isTrue hescape =>
        have hother : letter ≠ c := by
          rintro rfl
          rw [(plain_of_isAsciiLetter hletter).2.2.1] at hescape
          cases hescape
        have hfound := ih (lost ++ [c]) (by simp) (by simp [habsent, hother]) true
        rwa [List.append_assoc] at hfound
      case isFalse => exact hkept

/-- A value that is read back to its end has no white space and no escape. -/
theorem unmarked_of_takeUntil (htail : Follows letter tail)
    (hletter : letter.isAsciiLetter = true) {value : Text}
    (h : (takeUntil isGap false (value ++ tail)).1 = value) :
    ∀ c ∈ value, isGap c = false ∧ isEscape c = false := by
  obtain ⟨hgap, -, hescape, -⟩ := plain_of_isAsciiLetter hletter
  induction value with
  | nil => exact fun _ hc => nomatch hc
  | cons c value ih =>
    rw [List.cons_append, takeUntil] at h
    cases hc : isGap c with
    | true =>
      rw [if_pos hc] at h
      cases h
    | false =>
      cases hmark : isEscape c with
      | true =>
        rw [if_neg (by simp [hc]), if_pos hmark] at h
        refine absurd h (takeUntil_ne htail hletter hgap value [c] (by simp) ?_ true)
        rintro (_ | ⟨_, ⟨⟩⟩)
        rw [hescape] at hmark
        cases hmark
      | false =>
        rw [if_neg (by simp [hc]), if_neg (by simp [hmark])] at h
        exact List.forall_mem_cons.mpr ⟨⟨hc, hmark⟩, ih (List.cons.inj h).2⟩

/-- A value that is read back needs no quotes, and is not empty unless it is the last. -/
theorem unmarked_of_takeValue (htail : Follows letter tail)
    (hletter : letter.isAsciiLetter = true) {value rest : Text}
    (h : takeValue ((value ++ tail).dropWhile isGap) = some (value, rest)) :
    Unmarked value ∧ (value = [] → tail = []) := by
  obtain ⟨hgap, hquote, hescape, -⟩ := plain_of_isAsciiLetter hletter
  have hsplit : value = value.takeWhile isGap ++ value.dropWhile isGap :=
    List.takeWhile_append_dropWhile.symm
  have hfront : ∀ c ∈ value.takeWhile isGap, isGap c = true := fun c hc =>
    List.mem_takeWhile_imp hc
  have habsent : letter ∉ value.takeWhile isGap := by
    intro hmem
    rw [hfront letter hmem] at hgap
    cases hgap
  rw [List.dropWhile_append] at h
  cases hback : value.dropWhile isGap with
  | nil =>
    rw [hback, List.append_nil] at hsplit
    rw [hback] at h
    obtain rfl | ⟨behind, rfl⟩ := htail
    · have hempty : value = [] := by
        cases h
        rfl
      rw [hempty]
      exact ⟨⟨by simp, by simp⟩, fun _ => rfl⟩
    · have htaken : letter :: (takeUntil isGap false behind).1 = value := by
        rw [List.isEmpty_nil, if_pos rfl, List.dropWhile_cons_of_pos (by decide),
          List.dropWhile_cons_of_neg (by simp [hgap]), takeValue, if_neg (by simp [hquote]),
          takeUntil, if_neg (by simp [hgap]), if_neg (by simp [hescape]), Option.some.injEq] at h
        exact congrArg Prod.fst h
      have hmem : letter ∈ value := htaken ▸ List.mem_cons_self
      rw [hsplit] at hmem
      exact absurd hmem habsent
  | cons c back =>
    have hc : isGap c = false := by
      have hhead := List.head?_dropWhile_not isGap value
      rw [hback] at hhead
      exact hhead
    rw [hback] at h hsplit
    rw [if_neg (by simp), List.cons_append, takeValue] at h
    cases hopen : isQuote c with
    | true =>
      -- The quote that opens the value is lost.
      rw [if_pos hopen] at h
      obtain ⟨left, -, hpair⟩ := Option.map_eq_some_iff.mp h
      have hvalue := congrArg Prod.fst hpair
      have hother : letter ≠ c := by
        rintro rfl
        rw [hquote] at hopen
        cases hopen
      refine absurd ?_ (takeUntil_ne htail hletter hquote back (value.takeWhile isGap ++ [c])
        (by simp) (by simp [habsent, hother]) false)
      rw [List.append_assoc]
      exact hvalue.trans hsplit
    | false =>
      rw [if_neg (by simp [hopen]), Option.some.injEq] at h
      have hvalue : (takeUntil isGap false ((c :: back) ++ tail)).1 = value := congrArg Prod.fst h
      cases hlost : value.takeWhile isGap with
      | nil =>
        rw [hlost, List.nil_append] at hsplit
        rw [← hsplit] at hvalue
        refine ⟨⟨unmarked_of_takeUntil htail hletter hvalue, ?_⟩, ?_⟩
        · rw [hsplit]
          simpa using hopen
        · rw [hsplit]
          exact fun hempty => absurd hempty (List.cons_ne_nil c back)
      | cons d lost =>
        refine absurd ?_ (takeUntil_ne htail hletter hgap (c :: back) (value.takeWhile isGap)
          (by simp [hlost]) habsent false)
        exact hvalue.trans hsplit

end Values

/-! ## Settings as they are written -/

/-- Settings without quotes, each with a blank before it. -/
def written : List (Text × Text) → Text
  | [] => []
  | (name, value) :: fields =>
    (' ' : CodePoint) :: (name ++ ('=' : CodePoint) :: (value ++ written fields))

/-- A name of letters. -/
def Keyword (name : Text) : Prop := name ≠ [] ∧ ∀ c ∈ name, c.isAsciiLetter = true

/-- No value needs quotes, and only the last one may be empty. -/
def Legible : List (Text × Text) → Prop
  | [] => True
  | (_, value) :: fields => Unmarked value ∧ (value = [] → fields = []) ∧ Legible fields

theorem follows_written {fields : List (Text × Text)}
    (hnames : ∀ field ∈ fields, Keyword field.1) :
    ∃ letter, letter.isAsciiLetter = true ∧ Follows letter (written fields) := by
  cases fields with
  | nil => exact ⟨('a' : CodePoint), by decide, .inl rfl⟩
  | cons field fields =>
    obtain ⟨name, value⟩ := field
    obtain ⟨hfilled, hletters⟩ := hnames _ List.mem_cons_self
    obtain ⟨letter, name, rfl⟩ := List.exists_cons_of_ne_nil hfilled
    exact ⟨letter, hletters letter List.mem_cons_self, .inr ⟨_, rfl⟩⟩

theorem written_eq_nil_iff {fields : List (Text × Text)} : written fields = [] ↔ fields = [] := by
  cases fields with
  | nil => exact iff_of_true rfl rfl
  | cons field fields => exact iff_of_false (List.cons_ne_nil _ _) (List.cons_ne_nil _ _)

theorem takeValue_of_unmarked {value tail : Text} {letter : CodePoint} (hvalue : Unmarked value)
    (hempty : value = [] → tail = []) (htail : Follows letter tail) :
    takeValue ((value ++ tail).dropWhile isGap) = some (value, tail.drop 1) := by
  cases value with
  | nil =>
    rw [hempty rfl]
    rfl
  | cons c value =>
    obtain ⟨hplain, hopen⟩ := hvalue
    have hc := (hplain c List.mem_cons_self).1
    rw [List.cons_append, List.dropWhile_cons_of_neg (by simp [hc]), takeValue,
      if_neg (by simpa using hopen), ← List.cons_append, takeUntil_of_unmarked hplain]
    obtain rfl | ⟨rest, rfl⟩ := htail
    · simp [takeUntil]
    · have hblank : isGap (' ' : CodePoint) = true := by decide
      simp [takeUntil, hblank]

section Readers

variable {read : Text → Option (List (Text × Text))} {letter : CodePoint} {tail : Text}

/-- The blank before a setting does not count. -/
theorem Reader.drop_follows (hread : Reader read) (htail : Follows letter tail) :
    read (tail.drop 1) = read tail := by
  obtain rfl | ⟨rest, rfl⟩ := htail
  · rfl
  · exact (hread.gap _ _ (by decide)).symm

theorem Reader.named (hread : Reader read) {name : Text} (hname : Keyword name) (t : Text) :
    read ((' ' : CodePoint) :: (name ++ ('=' : CodePoint) :: t)) =
      (takeValue (t.dropWhile isGap)).bind fun (value, rest) =>
        (read rest).map ((name, value) :: ·) := by
  rw [hread.gap _ _ (by decide)]
  exact hread.setting name [] t hname.1
    (fun c hc => (plain_of_isAsciiLetter (hname.2 c hc)).2.2.2) fun _ hc => nomatch hc

theorem Reader.unmarked (hread : Reader read) {name value : Text} (hname : Keyword name)
    (hvalue : Unmarked value) (hempty : value = [] → tail = []) (htail : Follows letter tail) :
    read ((' ' : CodePoint) :: (name ++ ('=' : CodePoint) :: (value ++ tail))) =
      (read tail).map ((name, value) :: ·) := by
  rw [hread.named hname, takeValue_of_unmarked hvalue hempty htail]
  simp only [Option.bind_some, hread.drop_follows htail]

/-- Settings that need no quotes are read first, and then what stands behind them. -/
theorem Reader.written_append (hread : Reader read) {fields : List (Text × Text)}
    (hnames : ∀ field ∈ fields, Keyword field.1)
    (hvalues : ∀ field ∈ fields, Unmarked field.2 ∧ field.2 ≠ [])
    (hletter : letter.isAsciiLetter = true) (htail : Follows letter tail) :
    read (written fields ++ tail) = (read tail).map (fields ++ ·) := by
  induction fields with
  | nil => simp [written]
  | cons field fields ih =>
    obtain ⟨name, value⟩ := field
    rw [List.forall_mem_cons] at hnames hvalues
    obtain ⟨next, -, hnext⟩ : ∃ next : CodePoint, next.isAsciiLetter = true ∧
        Follows next (written fields ++ tail) := by
      cases fields with
      | nil => exact ⟨letter, hletter, htail⟩
      | cons later fields =>
        obtain ⟨next, hnext, hempty | ⟨rest, hrest⟩⟩ := follows_written hnames.2
        · cases hempty
        · exact ⟨next, hnext, .inr ⟨rest ++ tail, by rw [hrest]; rfl⟩⟩
    have hfirst := hread.unmarked hnames.1 hvalues.1.1 (fun hnil => absurd hnil hvalues.1.2) hnext
    rw [written, List.cons_append, List.append_assoc, List.cons_append, List.append_assoc, hfirst,
      ih hnames.2 hvalues.2, Option.map_map]
    rfl

/-- Settings are read as they were written exactly if they are legible. -/
theorem Reader.written_iff (hread : Reader read) {fields : List (Text × Text)}
    (hnames : ∀ field ∈ fields, Keyword field.1) :
    read (written fields) = some fields ↔ Legible fields := by
  induction fields with
  | nil => exact iff_of_true hread.done trivial
  | cons field fields ih =>
    obtain ⟨name, value⟩ := field
    rw [List.forall_mem_cons] at hnames
    obtain ⟨letter, hletter, htail⟩ := follows_written hnames.2
    rw [written, Legible, ← ih hnames.2]
    constructor
    case mp =>
      intro h
      rw [hread.named hnames.1] at h
      obtain ⟨⟨found, rest⟩, htake, hrest⟩ := Option.bind_eq_some_iff.mp h
      obtain ⟨others, hothers, heq⟩ := Option.map_eq_some_iff.mp hrest
      cases heq
      obtain ⟨hvalue, hempty⟩ := unmarked_of_takeValue htail hletter htake
      rw [takeValue_of_unmarked hvalue hempty htail] at htake
      cases htake
      rw [hread.drop_follows htail] at hothers
      exact ⟨hvalue, fun hnil => written_eq_nil_iff.mp (hempty hnil), hothers⟩
    case mpr =>
      rintro ⟨hvalue, hempty, hrest⟩
      rw [hread.unmarked hnames.1 hvalue (fun hnil => written_eq_nil_iff.mpr (hempty hnil)) htail,
        hrest]
      rfl

end Readers

theorem unmarked_ofInt (n : Int) : Unmarked (Text.ofInt n) ∧ Text.ofInt n ≠ [] := by
  have hdigit : ∀ c : CodePoint, c.isAsciiDigit = true ∨ c = ('-' : CodePoint) →
      isGap c = false ∧ isQuote c = false ∧ isEscape c = false := by
    rintro c (hc | rfl)
    · simp only [CodePoint.isAsciiDigit, Bool.and_eq_true, decide_eq_true_eq] at hc
      simp only [isGap, isQuote, isEscape, Bool.or_eq_false_iff, Bool.and_eq_false_iff,
        beq_eq_false_iff_ne, decide_eq_false_iff_not]
      omega
    · decide
  have hmem : ∀ c ∈ Text.ofInt n, c.isAsciiDigit = true ∨ c = ('-' : CodePoint) := by
    intro c hc
    cases n with
    | ofNat n => exact .inl (Text.isAsciiDigit_of_mem_ofNat hc)
    | negSucc n =>
      obtain rfl | hc := List.mem_cons.mp hc
      · exact .inr rfl
      · exact .inl (Text.isAsciiDigit_of_mem_ofNat hc)
  refine ⟨⟨fun c hc => ?_, fun c hc => ?_⟩, ?_⟩
  · obtain ⟨hgap, -, hescape⟩ := hdigit c (hmem c hc)
    exact ⟨hgap, hescape⟩
  · exact (hdigit c (hmem c (List.mem_of_head? hc))).2.1
  · cases n with
    | ofNat n =>
      obtain ⟨c, t, hdigits, -⟩ := Text.ofNat_eq_cons n
      exact fun hnil => List.cons_ne_nil c t (hdigits.symm.trans hnil)
    | negSucc n => exact List.cons_ne_nil _ _

end Dsn

/-! ## The settings of a connection -/

namespace Settings

theorem written_keywords (settings : Settings) :
    Dsn.written settings.keywords = (' ' : CodePoint) :: settings.toDsn := by
  unfold toDsn keywords place
  simp only [Dsn.written, List.cons_append, List.nil_append, List.append_assoc, List.append_nil]
  rfl

theorem keyword_keywords (settings : Settings) :
    ∀ field ∈ settings.keywords, Dsn.Keyword field.1 := by
  unfold keywords place Dsn.Keyword
  simp only [List.cons_append, List.nil_append, List.forall_mem_cons]
  exact ⟨by decide, by decide, by decide, by decide, by decide, by decide,
    fun _ hfield => nomatch hfield⟩

theorem legible_keywords (settings : Settings) :
    Dsn.Legible settings.keywords ↔
      (∀ value ∈ [settings.host, settings.database, settings.user, settings.password],
        value ≠ [] ∧ Dsn.Unmarked value) ∧ Dsn.Unmarked settings.sslMode := by
  have hport := Dsn.unmarked_ofInt settings.port
  simp only [keywords, place, List.cons_append, List.nil_append, Dsn.Legible, List.forall_mem_cons,
    List.not_mem_nil, false_implies, implies_true, reduceCtorEq, imp_false]
  tauto

section Read

variable {read : Text → Option (List (Text × Text))}

theorem connection_of_fits {settings : Settings}
    (h : Integer.fits Integer.usualLimit settings.port = true) :
    settings.connection = .ok settings.toDsn := by
  unfold connection
  rw [Integer.checkDigits_of_fits h]
  rfl

/-- Settings with a port that can be written are read back exactly if none needs quotes: only the SSL
mode may be empty, and no value has white space, a backslash, or a quote at its front. With a port of
too many digits there is nothing to be read. -/
theorem read_toDsn_iff (hread : Dsn.Reader read) (settings : Settings) :
    (Integer.fits Integer.usualLimit settings.port = true →
      ∃ dsn, settings.connection = .ok dsn ∧
        (read dsn = some settings.keywords ↔
          (∀ value ∈ [settings.host, settings.database, settings.user, settings.password],
            value ≠ [] ∧ Dsn.Unmarked value) ∧ Dsn.Unmarked settings.sslMode)) ∧
    (Integer.fits Integer.usualLimit settings.port = false →
      settings.connection = .error (.setting .longInteger)) := by
  refine ⟨fun hfits => ⟨_, connection_of_fits hfits, ?_⟩, fun hlong => ?_⟩
  · rw [← legible_keywords, ← hread.written_iff settings.keyword_keywords, written_keywords,
      hread.gap _ _ (by decide)]
  · unfold connection
    rw [Integer.checkDigits_of_long hlong]
    rfl

/-- Settings of a server that asks for a password. -/
def guarded : Settings := ⟨"db.internal", 6432, "nodeblog", "ann", "it's=me", []⟩

theorem read_toDsn_iff_guarded :
    Dsn.Reader Dsn.read ∧
      ∃ dsn, guarded.connection = .ok dsn ∧ Dsn.read dsn = some guarded.keywords := by
  obtain ⟨dsn, hdsn, hsame⟩ := (read_toDsn_iff Dsn.reader guarded).1 (by decide)
  refine ⟨Dsn.reader, dsn, hdsn, hsame.mpr ?_⟩
  unfold Dsn.Unmarked
  decide

/-- Without a password the mode of encryption is taken for it, and is itself left unset. -/
theorem read_toDsn_of_no_password (hread : Dsn.Reader read) {settings : Settings}
    (hfilled : ∀ value ∈ [settings.host, settings.database, settings.user],
      value ≠ [] ∧ Dsn.Unmarked value)
    (hpassword : settings.password = []) (hmode : Dsn.Unmarked settings.sslMode) :
    read settings.toDsn =
      some (settings.place ++
        [(("password" : Text), ("sslmode=" : Text) ++ settings.sslMode)]) := by
  have hkeyword : Dsn.Keyword "password" := ⟨by decide, by decide⟩
  have hplace : ∀ field ∈ settings.place, Dsn.Keyword field.1 := fun field hfield =>
    settings.keyword_keywords field (List.mem_append_left _ hfield)
  have hvalues : ∀ field ∈ settings.place, Dsn.Unmarked field.2 ∧ field.2 ≠ [] := by
    have hport := Dsn.unmarked_ofInt settings.port
    simp only [List.forall_mem_cons] at hfilled
    simp only [place, List.forall_mem_cons]
    tauto
  have htaken : Dsn.Unmarked (("sslmode=" : Text) ++ settings.sslMode) := by
    refine ⟨List.forall_mem_append.mpr ⟨by decide, hmode.1⟩, ?_⟩
    rintro c ⟨⟩
    rfl
  have hwritten : (' ' : CodePoint) :: settings.toDsn = Dsn.written settings.place ++
      (' ' : CodePoint) :: (("password" : Text) ++ ('=' : CodePoint) ::
        ((' ' : CodePoint) :: (("sslmode=" : Text) ++ settings.sslMode))) := by
    rw [← written_keywords, keywords, hpassword]
    simp only [place, Dsn.written, List.cons_append, List.nil_append, List.append_assoc,
      List.append_nil]
    rfl
  have hfollows : ∀ t, Dsn.Follows 'p' ((' ' : CodePoint) :: (("password" : Text) ++ t)) :=
    fun t => .inr ⟨("assword" : Text) ++ t, rfl⟩
  have hlast : Dsn.Follows 'p' [] := .inl rfl
  rw [← hread.gap ' ' settings.toDsn (by decide), hwritten,
    hread.written_append hplace hvalues (by decide) (hfollows _), hread.named hkeyword,
    List.dropWhile_cons_of_pos (by decide),
    ← List.append_nil (("sslmode=" : Text) ++ settings.sslMode),
    Dsn.takeValue_of_unmarked htaken (by simp) hlast]
  simp [hread.done]

end Read

/-- The settings that hold where none is set are not read back. -/
theorem not_read_toDsn :
    ¬ ∀ settings : Settings,
      ∃ dsn, settings.connection = .ok dsn ∧ Dsn.read dsn = some settings.keywords := by
  intro hclaim
  let settings : Settings := ⟨"localhost", defaultPort, "nodeblog", "postgres", [], "prefer"⟩
  have hfilled : ∀ value ∈ [settings.host, settings.database, settings.user],
      value ≠ [] ∧ Dsn.Unmarked value := by
    unfold Dsn.Unmarked
    decide
  have hread := read_toDsn_of_no_password Dsn.reader hfilled rfl (by unfold Dsn.Unmarked; decide)
  obtain ⟨dsn, hdsn, hsame⟩ := hclaim settings
  rw [connection_of_fits (by decide)] at hdsn
  cases hdsn
  rw [hsame] at hread
  simp [keywords, place] at hread

end Settings

end SignedBlog.Database
