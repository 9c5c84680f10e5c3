import SignedBlog.Database.Settings
import SignedBlog.Proofs.Cutting
import SignedBlog.Proofs.Digits
import SignedBlog.Proofs.JsonNumbers
import SignedBlog.Proofs.PercentForm

/-!
Settings of a database on their way through a URL.

Settings that come as separate variables are written as a URL and read from it again. Host, port,
user, database and mode come back as they were, but the password is written in escapes and not
unescaped: `Backing.ofEnvironment_of_variables`. So it comes back only if it needs no escape.
-/

namespace SignedBlog

set_option autoImplicit false

/-- Lower-case letters, digits and the marks `-._`. -/
def CodePoint.isPlain (c : CodePoint) : Bool :=
  (0x61 ≤ c.val && c.val ≤ 0x7A) || c.isAsciiDigit || c.val == 0x2D || c.val == 0x2E ||
    c.val == 0x5F

namespace Database

/-! ## Code points without a meaning in URLs -/

/-- A visible ASCII character that separates no parts of a URL. -/
def Inert (c : CodePoint) : Prop :=
  0x20 < c.val ∧ c.val < 0x80 ∧ c.val ≠ 0x23 ∧ c.val ≠ 0x2F ∧ c.val ≠ 0x3A ∧ c.val ≠ 0x3F ∧
    c.val ≠ 0x40 ∧ c.val ≠ 0x5B ∧ c.val ≠ 0x5D

theorem isFree_of_isPlain {c : CodePoint} (h : c.isPlain = true) : c.isFree = true := by
  simp only [CodePoint.isPlain, CodePoint.isFree, CodePoint.isAsciiLetter, CodePoint.isAsciiDigit,
    Bool.or_eq_true, Bool.and_eq_true, decide_eq_true_eq, beq_iff_eq] at h ⊢
  omega

theorem inert_of_isFree {c : CodePoint} (h : c.isFree = true) : Inert c := by
  simp only [CodePoint.isFree, CodePoint.isAsciiLetter, CodePoint.isAsciiDigit, Bool.or_eq_true,
    Bool.and_eq_true, decide_eq_true_eq, beq_iff_eq] at h
  unfold Inert
  omega

theorem inert_of_isPlain {c : CodePoint} (h : c.isPlain = true) : Inert c :=
  inert_of_isFree (isFree_of_isPlain h)

theorem inert_of_mem_form {t : Text} {c : CodePoint} (h : c ∈ Percent.form t) : Inert c := by
  obtain hfree | hmark := Percent.mem_form h
  · exact inert_of_isFree hfree
  · unfold Inert
    omega

theorem isPlain_of_isAsciiDigit {c : CodePoint} (h : c.isAsciiDigit = true) : c.isPlain = true := by
  unfold CodePoint.isPlain
  simp [h]

/-! ## Lower case -/

theorem lower_of_isPlain {c : CodePoint} (h : c.isPlain = true) : c.lower = c := by
  have hcapitals : ∀ run ∈ CodePoint.capitals,
      0x41 ≤ run.1 ∧ run.2.1 ≤ 0x5A ∨ 0x80 ≤ run.1 := by
    decide +kernel
  unfold CodePoint.lower
  split
  case h_1 first last step shift hfind =>
    have hrange := hcapitals _ (List.mem_of_find?_eq_some hfind)
    have hfound := List.find?_some hfind
    simp only [CodePoint.isPlain, CodePoint.isAsciiDigit, Bool.or_eq_true, Bool.and_eq_true,
      decide_eq_true_eq, beq_iff_eq] at h hfound hrange
    omega
  case h_2 => rfl

theorem lowerFrom_of_isPlain {t : Text} (h : ∀ c ∈ t, c.isPlain = true) (before done : Text) :
    Text.lowerFrom before done t = done.reverse ++ t := by
  induction t generalizing before done with
  | nil => simp [Text.lowerFrom]
  | cons c t ih =>
    rw [List.forall_mem_cons] at h
    have hinert := inert_of_isPlain h.1
    unfold Inert at hinert
    rw [Text.lowerFrom, if_neg (by omega), if_neg (by omega), lower_of_isPlain h.1, ih h.2]
    simp

theorem lower_of_plain {t : Text} (h : ∀ c ∈ t, c.isPlain = true) : Text.lower t = t :=
  lowerFrom_of_isPlain h [] []

/-! ## The parts of a written URL -/

namespace Settings

/-- A text that is given and holds nothing but plain characters. -/
def Name (t : Text) : Prop := t ≠ [] ∧ ∀ c ∈ t, c.isPlain = true

/-- Settings of which all but the password can stand in a URL as they are. -/
structure Plain (settings : Settings) : Prop where
  host : Name settings.host
  database : Name settings.database
  user : Name settings.user
  sslMode : Name settings.sslMode
  port_pos : 1 ≤ settings.port
  port_le : settings.port ≤ 65535

def userPart (settings : Settings) (password : Text) : Text :=
  settings.user ++ if password.isEmpty then [] else (':' : CodePoint) :: password

def hostPart (settings : Settings) : Text :=
  settings.host ++ (':' : CodePoint) :: Text.ofInt settings.port

def authority (settings : Settings) (password : Text) : Text :=
  settings.userPart password ++ ('@' : CodePoint) :: settings.hostPart

def pathAndQuery (settings : Settings) : Text :=
  ('/' : CodePoint) :: settings.database ++
    ('?' : CodePoint) :: (("sslmode=" : Text) ++ settings.sslMode)

/-- The URL that settings are written as, taken apart. -/
def parts (settings : Settings) (password : Text) : Url where
  scheme := "postgresql"
  authority := settings.authority password
  path := ('/' : CodePoint) :: settings.database
  query := ("sslmode=" : Text) ++ settings.sslMode

theorem urlWith_eq (settings : Settings) (password : Text) :
    settings.urlWith password = ("postgresql" : Text) ++ (':' : CodePoint) ::
      (("//" : Text) ++ (settings.authority password ++ settings.pathAndQuery)) := by
  have hstart : ("postgresql://" : Text)
      = ("postgresql" : Text) ++ (':' : CodePoint) :: ("//" : Text) := rfl
  have hmode : ("?sslmode=" : Text) = ('?' : CodePoint) :: ("sslmode=" : Text) := rfl
  have hat : ("@" : Text) = [('@' : CodePoint)] := rfl
  have hcolon : (":" : Text) = [(':' : CodePoint)] := rfl
  have hslash : ("/" : Text) = [('/' : CodePoint)] := rfl
  unfold urlWith authority userPart hostPart pathAndQuery
  simp only [hstart, hmode, hat, hcolon, hslash, List.append_assoc, List.cons_append,
    List.nil_append]

section Written

variable {settings : Settings} {password : Text}

theorem Name.not_mem {t : Text} (h : Name t) {c : CodePoint} (hc : c.isPlain = false) : c ∉ t := by
  intro hmem
  rw [h.2 c hmem] at hc
  cases hc

theorem Plain.isAsciiDigit_of_mem_port (h : settings.Plain) {c : CodePoint}
    (hc : c ∈ Text.ofInt settings.port) : c.isAsciiDigit = true := by
  have hpos := h.port_pos
  obtain ⟨n, hn⟩ : ∃ n : Nat, settings.port = n := ⟨settings.port.toNat, by omega⟩
  rw [hn] at hc
  exact Text.isAsciiDigit_of_mem_ofNat hc

theorem Plain.mem_hostPart (h : settings.Plain) {c : CodePoint} (hc : c ∈ settings.hostPart) :
    Inert c ∨ c.val = 0x3A := by
  obtain hhost | hport := List.mem_append.mp hc
  · exact .inl (inert_of_isPlain (h.host.2 c hhost))
  · obtain rfl | hdigit := List.mem_cons.mp hport
    · exact .inr rfl
    · exact .inl (inert_of_isPlain (isPlain_of_isAsciiDigit (h.isAsciiDigit_of_mem_port hdigit)))

theorem Plain.mem_userPart (h : settings.Plain) (hpassword : ∀ c ∈ password, Inert c)
    {c : CodePoint} (hc : c ∈ settings.userPart password) : Inert c ∨ c.val = 0x3A := by
  obtain huser | hsecret := List.mem_append.mp hc
  · exact .inl (inert_of_isPlain (h.user.2 c huser))
  · split at hsecret
    · cases hsecret
    · obtain rfl | hmem := List.mem_cons.mp hsecret
      · exact .inr rfl
      · exact .inl (hpassword c hmem)

theorem Plain.mem_authority (h : settings.Plain) (hpassword : ∀ c ∈ password, Inert c)
    {c : CodePoint} (hc : c ∈ settings.authority password) :
    Inert c ∨ c.val = 0x3A ∨ c.val = 0x40 := by
  obtain huser | hrest := List.mem_append.mp hc
  · exact (h.mem_userPart hpassword huser).imp_right .inl
  · obtain rfl | hhost := List.mem_cons.mp hrest
    · exact .inr (.inr rfl)
    · exact (h.mem_hostPart hhost).imp_right .inl

theorem Plain.mem_pathAndQuery (h : settings.Plain) {c : CodePoint}
    (hc : c ∈ settings.pathAndQuery) : 0x20 < c.val ∧ c.val < 0x80 ∧ c.val ≠ 0x23 := by
  have hplain {t : Text} (ht : Name t) (hmem : c ∈ t) :
      0x20 < c.val ∧ c.val < 0x80 ∧ c.val ≠ 0x23 := by
    have hinert := inert_of_isPlain (ht.2 c hmem)
    unfold Inert at hinert
    omega
  obtain hpath | hquery := List.mem_append.mp hc
  · obtain rfl | hmem := List.mem_cons.mp hpath
    · decide
    · exact hplain h.database hmem
  · obtain rfl | hmode := List.mem_cons.mp hquery
    · decide
    · obtain hname | hmem := List.mem_append.mp hmode
      · have hall : ∀ d ∈ ("sslmode=" : Text), 0x20 < d.val ∧ d.val < 0x80 ∧ d.val ≠ 0x23 := by
          decide
        exact hall c hname
      · exact hplain h.sslMode hmem

/-! ## Taking it apart -/

theorem cleaned_eq_self {t : Text} (h : ∀ c ∈ t, 0x20 < c.val) :
    ((t.dropWhile Url.isLeading).filter fun c => !Url.isDropped c) = t := by
  have hdrop : t.dropWhile Url.isLeading = t := by
    cases t with
    | nil => rfl
    | cons c t =>
      have hc := h c List.mem_cons_self
      exact List.dropWhile_cons_of_neg (by simp [Url.isLeading]; omega)
  rw [hdrop, List.filter_eq_self]
  intro c hc
  have hvisible := h c hc
  simp only [Url.isDropped, Bool.not_eq_true', Bool.or_eq_false_iff, decide_eq_false_iff_not]
  omega

theorem Plain.visible (h : settings.Plain) (hpassword : ∀ c ∈ password, Inert c) :
    ∀ c ∈ settings.urlWith password, 0x20 < c.val := by
  intro c hc
  rw [urlWith_eq] at hc
  have hfront : ∀ d ∈ ("postgresql" : Text) ++ (':' : CodePoint) :: ("//" : Text),
      0x20 < d.val := by
    decide
  rw [← List.cons_append, ← List.append_assoc] at hc
  obtain hstart | hrest := List.mem_append.mp hc
  · exact hfront c hstart
  · obtain hauthority | hquery := List.mem_append.mp hrest
    · have hcases := h.mem_authority hpassword hauthority
      unfold Inert at hcases
      omega
    · exact (h.mem_pathAndQuery hquery).1

theorem takeScheme_urlWith (t : Text) :
    Url.takeScheme (("postgresql" : Text) ++ (':' : CodePoint) :: t)
      = (("postgresql" : Text), t) := by
  have hcut := @Text.cutFirst?_append_cons (· == (':' : CodePoint)) "postgresql" t ':' (by decide)
    (by decide)
  have hlower : Text.lower "postgresql" = ("postgresql" : Text) := lower_of_plain (by decide)
  unfold Url.takeScheme
  rw [hcut]
  change (if _ then (Text.lower ("postgresql" : Text), t) else _) = _
  rw [hlower]
  rfl

theorem Plain.takeAuthority_urlWith (h : settings.Plain) (hpassword : ∀ c ∈ password, Inert c) :
    Url.takeAuthority (("//" : Text) ++ (settings.authority password ++ settings.pathAndQuery))
      = (settings.authority password, settings.pathAndQuery) := by
  have hpass : ∀ c ∈ settings.authority password, Url.endsAuthority c = false := by
    intro c hc
    have hcases := h.mem_authority hpassword hc
    unfold Inert at hcases
    simp only [Url.endsAuthority, Bool.or_eq_false_iff, decide_eq_false_iff_not]
    omega
  have hstop : Url.endsAuthority ('/' : CodePoint) = true := by decide
  have htake := @Text.takeWhile_append_cons _ _ (settings.database ++ ('?' : CodePoint) ::
    (("sslmode=" : Text) ++ settings.sslMode)) _ hpass hstop
  have hdrop := @Text.dropWhile_append_cons _ _ (settings.database ++ ('?' : CodePoint) ::
    (("sslmode=" : Text) ++ settings.sslMode)) _ hpass hstop
  change (_, _) = _
  exact Prod.ext htake hdrop

theorem Plain.checkBrackets_authority (h : settings.Plain) (hpassword : ∀ c ∈ password, Inert c) :
    Url.checkBrackets (settings.authority password) = .ok () := by
  have hnone {c : CodePoint} (hc : c.val = 0x5B ∨ c.val = 0x5D) :
      (settings.authority password).contains c = false := by
    rw [Bool.eq_false_iff]
    intro hmem
    have hcases := h.mem_authority hpassword (List.contains_iff_mem.mp hmem)
    unfold Inert at hcases
    omega
  have hopens : (settings.authority password).contains ('[' : CodePoint) = false :=
    hnone (.inl (by decide))
  have hcloses : (settings.authority password).contains (']' : CodePoint) = false :=
    hnone (.inr (by decide))
  unfold Url.checkBrackets
  rw [hopens, hcloses]
  rfl

theorem Plain.checkConfusables_authority (h : settings.Plain)
    (hpassword : ∀ c ∈ password, Inert c) :
    Url.checkConfusables (settings.authority password) = .ok () := by
  have hlarge : ∀ n ∈ Url.confusables, 0x80 ≤ n := by decide
  have hnone :
      ((settings.authority password).any fun c => Url.confusables.contains c.val) = false := by
    rw [List.any_eq_false]
    intro c hc hmem
    have hle := hlarge _ (List.contains_iff_mem.mp hmem)
    have hcases := h.mem_authority hpassword hc
    unfold Inert at hcases
    omega
  unfold Url.checkConfusables
  rw [hnone]
  rfl

theorem cutAt_append_cons {c : CodePoint} {before : Text} (h : c ∉ before) (after : Text) :
    Url.cutAt c (before ++ c :: after) = (before, after) := by
  unfold Url.cutAt
  rw [Text.cutFirst?_append_cons (Text.beq_eq_false_of_not_mem h) (by simp)]
  rfl

theorem cutAt_of_not_mem {c : CodePoint} {t : Text} (h : c ∉ t) : Url.cutAt c t = (t, []) := by
  unfold Url.cutAt
  rw [Text.cutFirst?_eq_none (Text.beq_eq_false_of_not_mem h)]
  rfl

theorem Plain.cut_pathAndQuery (h : settings.Plain) :
    Url.cutAt '?' (Url.cutAt '#' settings.pathAndQuery).1
      = (('/' : CodePoint) :: settings.database, ("sslmode=" : Text) ++ settings.sslMode) := by
  have hhash : ('#' : CodePoint) ∉ settings.pathAndQuery := fun hmem =>
    (h.mem_pathAndQuery hmem).2.2 rfl
  have hmark : ('?' : CodePoint) ∉ ('/' : CodePoint) :: settings.database := by
    intro hmem
    obtain e | hdatabase := List.mem_cons.mp hmem
    · exact absurd e (by decide)
    · exact h.database.not_mem (by decide) hdatabase
  rw [cutAt_of_not_mem hhash]
  exact cutAt_append_cons hmark _

theorem Plain.split_urlWith (h : settings.Plain) (hpassword : ∀ c ∈ password, Inert c) :
    Url.split (settings.urlWith password) = .ok (settings.parts password) := by
  have hclean := cleaned_eq_self (h.visible hpassword)
  rw [urlWith_eq] at hclean
  unfold Url.split
  rw [urlWith_eq]
  simp only [hclean, takeScheme_urlWith, h.takeAuthority_urlWith hpassword,
    h.checkBrackets_authority hpassword, h.checkConfusables_authority hpassword,
    h.cut_pathAndQuery]
  rfl

/-! ## Reading the parts -/

theorem Plain.not_mem_hostPart (h : settings.Plain) {c : CodePoint}
    (hc : c.val = 0x40 ∨ c.val = 0x5B) : c ∉ settings.hostPart := by
  intro hmem
  have hcases := h.mem_hostPart hmem
  unfold Inert at hcases
  omega

theorem Plain.cutLast_authority (h : settings.Plain) :
    Text.cutLast? '@' (settings.authority password)
      = some (settings.userPart password, settings.hostPart) :=
  Text.cutLast?_append_cons (h.not_mem_hostPart (.inl rfl))

theorem Plain.userInfo_parts (h : settings.Plain) :
    (settings.parts password).userInfo = settings.userPart password := by
  unfold Url.userInfo parts
  rw [h.cutLast_authority]
  rfl

theorem Plain.cut_userPart (h : settings.Plain) :
    Url.cutAt ':' (settings.userPart password) = (settings.user, password) := by
  have huser : (':' : CodePoint) ∉ settings.user := h.user.not_mem (by decide)
  unfold userPart
  cases password with
  | nil =>
    have e : settings.user ++ ([] : Text) = settings.user := List.append_nil _
    exact (congrArg (Url.cutAt ':') e).trans (cutAt_of_not_mem huser)
  | cons c rest => exact cutAt_append_cons huser (c :: rest)

theorem Plain.hostInfo_parts (h : settings.Plain) :
    (settings.parts password).hostInfo = (settings.host, Text.ofInt settings.port) := by
  have hbehind : Url.behindLast '@' (settings.parts password).authority = settings.hostPart := by
    unfold Url.behindLast parts
    rw [h.cutLast_authority]
    rfl
  have hnone : Text.cutFirst? (· == ('[' : CodePoint)) settings.hostPart = none :=
    Text.cutFirst?_eq_none (Text.beq_eq_false_of_not_mem (h.not_mem_hostPart (.inr rfl)))
  have hhost : (':' : CodePoint) ∉ settings.host := h.host.not_mem (by decide)
  unfold Url.hostInfo
  simp only [hbehind, hnone]
  exact cutAt_append_cons hhost _

theorem Plain.host_parts (h : settings.Plain) : (settings.parts password).host = settings.host := by
  have hnone : Text.cutFirst? (· == ('%' : CodePoint)) settings.host = none :=
    Text.cutFirst?_eq_none (Text.beq_eq_false_of_not_mem (h.host.not_mem (by decide)))
  unfold Url.host
  rw [h.hostInfo_parts, hnone]
  exact lower_of_plain h.host.2

theorem Plain.port_fits (h : settings.Plain) :
    Integer.fits Integer.usualLimit settings.port = true := by
  have hpos := h.port_pos
  have hle := h.port_le
  exact @Integer.fits_of_lt settings.port 5 (by omega) (by decide)

theorem Plain.port_parts (h : settings.Plain) :
    (settings.parts password).port = .ok (some settings.port.toNat) := by
  have hpos := h.port_pos
  have hle := h.port_le
  obtain ⟨n, hn⟩ : ∃ n : Nat, settings.port = n := ⟨settings.port.toNat, by omega⟩
  have hfilled : (Text.ofNat n).isEmpty = false := by
    obtain ⟨c, t, hdigits, -⟩ := Text.ofNat_eq_cons n
    rw [hdigits]
    rfl
  have hdigits : (Text.ofNat n).all CodePoint.isAsciiDigit = true :=
    List.all_eq_true.mpr fun c hc => Text.isAsciiDigit_of_mem_ofNat hc
  have hlength : ¬ Integer.digitLimit < (Text.ofNat n).length := by
    have hshort := (@Integer.length_ofNat_le_iff n 5 (by decide)).mpr (by omega)
    unfold Integer.digitLimit
    omega
  have hread : Integer.ofDigits ((Text.ofNat n).map fun c => c.val - 0x30) = n :=
    Json.digitsToNat_ofNat n
  have hrange : ¬ 65535 < n := by omega
  have htext : Text.ofInt settings.port = Text.ofNat n := by
    rw [hn]
    rfl
  have hport : settings.port.toNat = n := by omega
  unfold Url.port
  rw [h.hostInfo_parts, hport]
  simp only [htext, hfilled, hdigits, if_neg hlength, hread, if_neg hrange]
  rfl

theorem Plain.queryFields_parts (h : settings.Plain) :
    Percent.queryFields (settings.parts password).query
      = [(("sslmode" : Text), settings.sslMode)] := by
  have hquery : (settings.parts password).query
      = ("sslmode" : Text) ++ ('=' : CodePoint) :: settings.sslMode := rfl
  have hpieces : Text.pieces '&' (("sslmode" : Text) ++ ('=' : CodePoint) :: settings.sslMode)
      = [("sslmode" : Text) ++ ('=' : CodePoint) :: settings.sslMode] := by
    refine Text.pieces_of_not_mem fun hmem => ?_
    obtain hname | hrest := List.mem_append.mp hmem
    · exact absurd hname (by decide)
    · obtain e | hmode := List.mem_cons.mp hrest
      · exact absurd e (by decide)
      · exact h.sslMode.not_mem (by decide) hmode
  have hcut := @Text.cutFirst?_append_cons (· == ('=' : CodePoint)) "sslmode" settings.sslMode '='
    (by decide) (by decide)
  have hfilled : settings.sslMode.isEmpty = false := List.isEmpty_eq_false_iff.mpr h.sslMode.1
  have hname : Percent.decodeForm "sslmode" = ("sslmode" : Text) :=
    Percent.decodeForm_of_isFree (by decide)
  have hmode : Percent.decodeForm settings.sslMode = settings.sslMode :=
    Percent.decodeForm_of_isFree fun c hc => isFree_of_isPlain (h.sslMode.2 c hc)
  unfold Percent.queryFields
  rw [hquery, hpieces, List.filterMap_cons]
  simp only [hcut, hfilled, hname, hmode]
  rfl

theorem orDefault_of_name {t : Text} (h : Name t) (default : Text) : orDefault t default = t := by
  have hfilled : t.isEmpty = false := List.isEmpty_eq_false_iff.mpr h.1
  unfold orDefault
  rw [hfilled]
  rfl

theorem Plain.path_parts (h : settings.Plain) :
    (settings.parts password).path.dropWhile (· == ('/' : CodePoint)) = settings.database := by
  change (('/' : CodePoint) :: settings.database).dropWhile (· == ('/' : CodePoint)) = _
  rw [List.dropWhile_cons_of_pos (by decide)]
  cases hdatabase : settings.database with
  | nil => rfl
  | cons c rest =>
    refine List.dropWhile_cons_of_neg ?_
    rw [beq_iff_eq]
    rintro rfl
    have hmem : ('/' : CodePoint) ∈ settings.database := by simp [hdatabase]
    exact h.database.not_mem (by decide) hmem

/-- Of plain settings that are written as a URL everything is read back, and what stood for the
password is the password. -/
theorem Plain.ofUrl_urlWith (h : settings.Plain) (hpassword : ∀ c ∈ password, Inert c) :
    ofUrl (settings.urlWith password) = .ok { settings with password } := by
  have huser : (settings.parts password).user = settings.user := by
    unfold Url.user
    rw [h.userInfo_parts, h.cut_userPart]
  have hsecret : (settings.parts password).password = password := by
    unfold Url.password
    rw [h.userInfo_parts, h.cut_userPart]
  have hpos := h.port_pos
  obtain ⟨n, hn⟩ : ∃ n : Nat, settings.port = n + 1 := ⟨settings.port.toNat - 1, by omega⟩
  have hport : (settings.parts password).port = .ok (some (n + 1)) := by
    rw [h.port_parts, hn]
    rfl
  unfold ofUrl
  simp only [h.split_urlWith hpassword, Except.mapError, bind, Except.bind, hport, h.host_parts,
    h.path_parts, huser, hsecret, h.queryFields_parts, orDefault_of_name h.host,
    orDefault_of_name h.database, orDefault_of_name h.user]
  rw [hn]
  rfl

end Written

/-! ## From the environment -/

theorem occursIn_append (front t part : Text) (h : Text.occursIn part t = true) :
    Text.occursIn part (front ++ t) = true := by
  induction front with
  | nil => exact h
  | cons c front ih =>
    rw [List.cons_append, Text.occursIn, ih, Bool.or_true]

theorem occursIn_urlWith (settings : Settings) (password : Text) :
    Text.occursIn "://" (settings.urlWith password) = true := by
  have hstart : ∀ t : Text,
      Text.occursIn "://" ((':' : CodePoint) :: (("//" : Text) ++ t)) = true := fun _ => rfl
  rw [urlWith_eq]
  exact occursIn_append _ _ _ (hstart _)

end Settings

theorem urlOfEnvironment_of_variables {env : Environment} {settings : Settings}
    (hurl : env.lookup "DATABASE_URL" [] = []) (hhost : env.lookup "DATABASE_HOST" [] ≠ [])
    (hsettings : Settings.ofEnvironment env = .ok settings) (hplain : settings.Plain)
    (hclean : settings.password.Clean) :
    urlOfEnvironment env = .ok (some (settings.urlWith (Percent.form settings.password))) := by
  have hgiven : (env.lookup "DATABASE_HOST" []).isEmpty = false :=
    List.isEmpty_eq_false_iff.mpr hhost
  unfold urlOfEnvironment
  simp only [hurl, hgiven, hsettings]
  unfold Settings.toUrl
  rw [Percent.encodeForm_eq_ok hclean, Integer.checkDigits_of_fits hplain.port_fits]
  rfl

theorem Driver.ofEnvironment_of_url {env : Environment} {url : Text}
    (hunnamed : env.lookup "BLOGSTORE_DRIVER" [] = [])
    (hurl : urlOfEnvironment env = .ok (some url)) : Driver.ofEnvironment env = .ok .postgres := by
  unfold Driver.ofEnvironment
  rw [hunnamed, hurl]
  rfl

/-- Settings of separate variables reach the database with the password as a form writes it, and
everything else unchanged. They are the settings of the variables exactly if every character of the
password is a letter, a digit or one of `_.-~`. -/
theorem Backing.ofEnvironment_of_variables {env : Environment} {settings : Settings}
    (hurl : env.lookup "DATABASE_URL" [] = []) (hhost : env.lookup "DATABASE_HOST" [] ≠ [])
    (hsettings : Settings.ofEnvironment env = .ok settings) (hplain : settings.Plain)
    (hclean : settings.password.Clean) (hdriver : Driver.ofEnvironment env = .ok .postgres) :
    ∃ url written,
      urlOfEnvironment env = .ok (some url) ∧
      Percent.encodeForm settings.password = .ok written ∧
      Settings.ofUrl url = .ok { settings with password := written } ∧
      Backing.ofEnvironment env = .ok (.database { settings with password := written }) ∧
      (Settings.ofUrl url = .ok settings ↔ ∀ c ∈ settings.password, c.isFree = true) := by
  have hwritten := urlOfEnvironment_of_variables hurl hhost hsettings hplain hclean
  have hinert : ∀ c ∈ Percent.form settings.password, Inert c := fun c hc => inert_of_mem_form hc
  have hread := hplain.ofUrl_urlWith hinert
  refine ⟨_, _, hwritten, Percent.encodeForm_eq_ok hclean, hread, ?chosen, ?same⟩
  case chosen =>
    unfold Backing.ofEnvironment
    simp only [hdriver, hwritten, bind, Except.bind, Settings.occursIn_urlWith, if_true, hread]
    rfl
  case same =>
    rw [hread, ← Percent.form_eq_self_iff]
    constructor
    · intro hsame
      exact congrArg Settings.password (Except.ok.inj hsame)
    · intro hsame
      rw [hsame]

def escapedVariables : Environment :=
  ⟨[("DATABASE_HOST", "db"), ("DATABASE_PASSWORD", "p@ss")]⟩

def escapedSettings : Settings := ⟨"db", 5432, "nodeblog", "postgres", "p@ss", "prefer"⟩

theorem ofEnvironment_escapedVariables :
    Settings.ofEnvironment escapedVariables = .ok escapedSettings := by
  rfl

theorem plain_escapedSettings : escapedSettings.Plain where
  host := ⟨by decide, by decide⟩
  database := ⟨by decide, by decide⟩
  user := ⟨by decide, by decide⟩
  sslMode := ⟨by decide, by decide⟩
  port_pos := by decide
  port_le := by decide

theorem urlOfEnvironment_escapedVariables :
    urlOfEnvironment escapedVariables
      = .ok (some (escapedSettings.urlWith (Percent.form "p@ss"))) :=
  urlOfEnvironment_of_variables rfl (by decide) ofEnvironment_escapedVariables plain_escapedSettings
    (by decide)

theorem Backing.ofEnvironment_of_variables_escaped :
    escapedVariables.lookup "DATABASE_URL" [] = [] ∧
      escapedVariables.lookup "DATABASE_HOST" [] ≠ [] ∧
      Settings.ofEnvironment escapedVariables = .ok escapedSettings ∧ escapedSettings.Plain ∧
      escapedSettings.password.Clean ∧ Driver.ofEnvironment escapedVariables = .ok .postgres ∧
      Backing.ofEnvironment escapedVariables
        = .ok (.database { escapedSettings with password := "p%40ss" }) ∧
      ∃ url, urlOfEnvironment escapedVariables = .ok (some url) ∧
        Settings.ofUrl url ≠ .ok escapedSettings := by
  have hhost : escapedVariables.lookup "DATABASE_HOST" [] ≠ [] := by decide
  have hclean : escapedSettings.password.Clean := by decide
  have hdriver : Driver.ofEnvironment escapedVariables = .ok .postgres :=
    Driver.ofEnvironment_of_url rfl urlOfEnvironment_escapedVariables
  obtain ⟨url, written, hurl, hwritten, -, hbacking, hsame⟩ :=
    Backing.ofEnvironment_of_variables rfl hhost ofEnvironment_escapedVariables
      plain_escapedSettings hclean hdriver
  have hescaped : Percent.encodeForm escapedSettings.password = .ok "p%40ss" := by rfl
  rw [hescaped] at hwritten
  cases hwritten
  refine ⟨rfl, hhost, ofEnvironment_escapedVariables, plain_escapedSettings, hclean, hdriver,
    hbacking, url, hurl, fun hread => ?_⟩
  have hfree := hsame.mp hread ('@' : CodePoint) (by decide)
  exact absurd hfree (by decide)

/-- Not every password comes back from the URL. -/
theorem not_ofUrl_of_variables :
    ¬ ∀ (env : Environment) (settings : Settings), env.lookup "DATABASE_URL" [] = [] →
      env.lookup "DATABASE_HOST" [] ≠ [] → Settings.ofEnvironment env = .ok settings →
      settings.Plain → settings.password.Clean →
      ∃ url, urlOfEnvironment env = .ok (some url) ∧ Settings.ofUrl url = .ok settings := by
  intro hclaim
  obtain ⟨url, hurl, hsame⟩ := hclaim escapedVariables escapedSettings rfl (by decide)
    ofEnvironment_escapedVariables plain_escapedSettings (by decide)
  rw [urlOfEnvironment_escapedVariables] at hurl
  cases hurl
  have hinert : ∀ c ∈ Percent.form "p@ss", Inert c := fun c hc => inert_of_mem_form hc
  have hread := plain_escapedSettings.ofUrl_urlWith hinert
  rw [hread] at hsame
  have hwritten : Percent.form "p@ss" = "p@ss" :=
    congrArg Settings.password (Except.ok.inj hsame)
  have hfree := Percent.form_eq_self_iff.mp hwritten ('@' : CodePoint) (by decide)
  exact absurd hfree (by decide)

end Database

end SignedBlog
