import SignedBlog.Proofs.Credentials
import SignedBlog.Proofs.Strangers

/-!
What the check of the bearer token comes to.

The scheme of an authorization is read without case: `Text.lower_eq_iff`. `Http.Checked` lists the
verdicts on a header. Besides the two that are meant there is a third: tokens are compared only as
ASCII, so the check itself fails when the token that was sent, or the one that is expected, is not
ASCII: `App.authorized_cases`. And since blanks are taken off one side alone, a token with blanks
around it matches no header.
-/

namespace SignedBlog

set_option autoImplicit false

/-! ## Letters without case -/

/-- The first is the second, a small letter, or its capital. -/
def CodePoint.SameLetter (c small : CodePoint) : Prop := c = small ∨ c.val + 0x20 = small.val

/-- The small ASCII letters that only two code points are lowered to; `k` is that of the Kelvin sign,
too. -/
def CodePoint.IsSmall (c : CodePoint) : Prop := 0x61 ≤ c.val ∧ c.val ≤ 0x7A ∧ c.val ≠ 0x6B

theorem CodePoint.lower_of_isSmall {c : CodePoint} (h : c.IsSmall) : c.lower = c := by
  apply Database.lower_of_isPlain
  unfold CodePoint.isPlain
  simp [h.1, h.2.1]

theorem CodePoint.lower_of_capital {c : CodePoint} (h : 0x41 ≤ c.val ∧ c.val ≤ 0x5A) :
    c.lower = .ofNat (c.val + 0x20) := by
  unfold CodePoint.lower capitals
  rw [List.find?_cons_of_pos (by simp [h.1, h.2, Nat.mod_one])]
  rfl

/-- No other run of capitals leads to the small ASCII letters, but that of the Kelvin sign. -/
theorem CodePoint.sameLetter_of_lower {c small : CodePoint} (hsmall : small.IsSmall)
    (h : c.lower = small) : c.SameLetter small := by
  have hcapitals : ∀ run ∈ capitals, run = (0x41, 0x5A, 1, 32) ∨
      (run.2.1 : Int) + run.2.2.2 < 0x61 ∨ 0x7A < (run.1 : Int) + run.2.2.2 ∨
      (run.1 : Int) + run.2.2.2 = 0x6B ∧ (run.2.1 : Int) + run.2.2.2 = 0x6B := by
    decide +kernel
  unfold IsSmall at hsmall
  unfold CodePoint.lower at h
  split at h
  case h_1 first last step shift hfind =>
    have hrun := hcapitals _ (List.mem_of_find?_eq_some hfind)
    have hfound := List.find?_some hfind
    simp only [Bool.and_eq_true, decide_eq_true_eq] at hrun hfound
    have hval : (c.val + shift).toNat = small.val := by
      unfold ofNat ofNat? at h
      split at h
      · exact congrArg CodePoint.val h
      · rw [← h] at hsmall
        exact absurd hsmall (by decide)
    obtain hlatin | hbelow | habove | hkelvin := hrun
    · cases hlatin
      exact .inr (by omega)
    · omega
    · omega
    · omega
  case h_2 => exact .inl h

theorem CodePoint.lower_eq_iff {c small : CodePoint} (hsmall : small.IsSmall) :
    c.lower = small ↔ c.SameLetter small := by
  refine ⟨sameLetter_of_lower hsmall, ?_⟩
  rintro (rfl | hcapital)
  · exact lower_of_isSmall hsmall
  · unfold IsSmall at hsmall
    rw [lower_of_capital (by omega), hcapital]
    unfold ofNat ofNat?
    rw [dif_pos small.val_lt]
    rfl

namespace Text

theorem mem_lowerFrom {d : CodePoint} (t : Text) {before done : Text} (h : d ∈ done) :
    d ∈ lowerFrom before done t := by
  induction t generalizing before done with
  | nil => exact List.mem_reverse.mpr h
  | cons c t ih =>
    unfold lowerFrom
    split
    · exact ih (List.mem_cons_of_mem _ h)
    split
    · exact ih (List.mem_cons_of_mem _ (List.mem_cons_of_mem _ h))
    · exact ih (List.mem_cons_of_mem _ h)

/-- Where the lower-case form is ASCII, each code point was lowered by itself: the two that are not
leave a mark that is not ASCII. -/
theorem lowerFrom_of_isAscii (t : Text) {before done : Text}
    (h : ∀ d ∈ lowerFrom before done t, d.isAscii = true) :
    lowerFrom before done t = done.reverse ++ t.map CodePoint.lower := by
  induction t generalizing before done with
  | nil => simp [lowerFrom]
  | cons c t ih =>
    rw [lowerFrom] at h ⊢
    by_cases hsigma : c.val = 0x3A3
    · simp only [if_pos hsigma] at h
      have hmark := h _ (mem_lowerFrom t List.mem_cons_self)
      split at hmark <;> exact absurd hmark (by decide)
    rw [if_neg hsigma] at h ⊢
    by_cases hdotted : c.val = 0x130
    · rw [if_pos hdotted] at h
      exact absurd (h _ (mem_lowerFrom t List.mem_cons_self)) (by decide)
    rw [if_neg hdotted] at h ⊢
    rw [ih h]
    simp

theorem lowerFrom_of_letters {t : Text} (h : ∀ c ∈ t, c.val < 0x80) (before done : Text) :
    lowerFrom before done t = done.reverse ++ t.map CodePoint.lower := by
  induction t generalizing before done with
  | nil => simp [lowerFrom]
  | cons c t ih =>
    rw [List.forall_mem_cons] at h
    rw [lowerFrom, if_neg (by omega), if_neg (by omega), ih h.2]
    simp

/-- A word of small letters is the lower-case form of itself with any letters as capitals, and of
nothing else. -/
theorem lower_eq_iff {t word : Text} (hword : ∀ small ∈ word, small.IsSmall) :
    t.lower = word ↔ List.Forall₂ CodePoint.SameLetter t word := by
  have hletters : t.map CodePoint.lower = word ↔ List.Forall₂ CodePoint.SameLetter t word := by
    induction word generalizing t with
    | nil => simp
    | cons small word ih =>
      rw [List.forall_mem_cons] at hword
      cases t with
      | nil => simp
      | cons c t =>
        rw [List.map_cons, List.cons.injEq, List.forall₂_cons, CodePoint.lower_eq_iff hword.1,
          ih hword.2]
  rw [← hletters]
  unfold lower
  constructor
  case mp =>
    intro h
    rw [← h, lowerFrom_of_isAscii t]
    · rfl
    · intro d hd
      rw [h] at hd
      have hsmall := hword d hd
      unfold CodePoint.IsSmall at hsmall
      simp only [CodePoint.isAscii, decide_eq_true_eq]
      omega
  case mpr =>
    intro h
    rw [lowerFrom_of_letters ?_ [] []]
    · exact h
    · intro c hc
      have hsmall := hword c.lower (h ▸ List.mem_map_of_mem hc)
      have hsame := CodePoint.sameLetter_of_lower hsmall rfl
      unfold CodePoint.IsSmall at hsmall
      obtain heq | hcapital := hsame
      · rw [heq]
        omega
      · omega

end Text

namespace Http

/-! ## Verdicts on a header -/

/-- An authorization that offers a token: before the first blank stands the word `bearer`, in any
case, and behind it what is offered. -/
def Offers (authorization : Option Text) (supplied : Text) : Prop :=
  ∃ scheme : Text, authorization = some (scheme ++ (' ' : CodePoint) :: supplied) ∧
    (' ' : CodePoint) ∉ scheme ∧ List.Forall₂ CodePoint.SameLetter scheme "bearer"

/-- Tokens can be compared if both are ASCII. -/
def Comparable (supplied token : Text) : Prop :=
  supplied.strip.isAscii = true ∧ token.isAscii = true

/-- What can come of looking for a token in an authorization. -/
inductive Checked (token : Text) (authorization : Option Text) : Except Fault Access → Prop where
  | missing (h : ∀ supplied, Offers authorization supplied → supplied = []) :
      Checked token authorization (.ok .missing)
  | incomparable {supplied : Text} (h : Offers authorization supplied) (hfilled : supplied ≠ [])
      (hascii : ¬ Comparable supplied token) :
      Checked token authorization (.error .tokenNotAscii)
  | granted {supplied : Text} (h : Offers authorization supplied) (hfilled : supplied ≠ [])
      (hascii : Comparable supplied token) (hsame : supplied.strip = token) :
      Checked token authorization (.ok .granted)
  | refused {supplied : Text} (h : Offers authorization supplied) (hfilled : supplied ≠ [])
      (hascii : Comparable supplied token) (hother : supplied.strip ≠ token) :
      Checked token authorization (.ok .refused)

theorem lower_eq_bearer_iff {scheme : Text} :
    scheme.lower = ("bearer" : Text) ↔
      List.Forall₂ CodePoint.SameLetter scheme ("bearer" : Text) := by
  apply Text.lower_eq_iff
  unfold CodePoint.IsSmall
  decide

theorem Offers.unique {authorization : Option Text} {first second : Text}
    (hfirst : Offers authorization first) (hsecond : Offers authorization second) :
    first = second := by
  obtain ⟨scheme, rfl, hscheme, -⟩ := hfirst
  obtain ⟨other, heq, hother, -⟩ := hsecond
  have hparts := splitAuthorization_append hscheme first
  rw [Option.some.inj heq, splitAuthorization_append hother second] at hparts
  exact (congrArg Prod.snd hparts).symm

/-- What is offered, if anything, is what stands behind the first blank. -/
theorem splitAuthorization_of_offers {authorization : Option Text} {supplied : Text}
    (h : Offers authorization supplied) :
    (splitAuthorization (authorization.getD [])).1.lower = ("bearer" : Text) ∧
      (splitAuthorization (authorization.getD [])).2 = supplied := by
  obtain ⟨scheme, rfl, hscheme, hbearer⟩ := h
  rw [Option.getD_some, splitAuthorization_append hscheme]
  exact ⟨lower_eq_bearer_iff.mpr hbearer, rfl⟩

theorem checked (token : Text) (authorization : Option Text) :
    Checked token authorization (checkToken token authorization) := by
  unfold checkToken
  simp only
  by_cases hoffer : ∃ supplied, Offers authorization supplied ∧ supplied ≠ []
  · obtain ⟨supplied, hoffers, hfilled⟩ := hoffer
    obtain ⟨hbearer, hsupplied⟩ := splitAuthorization_of_offers hoffers
    simp only [hbearer, hsupplied, bne_self_eq_false, List.isEmpty_eq_false_iff.mpr hfilled,
      Bool.or_self, Bool.false_eq_true, if_false]
    by_cases hascii : Comparable supplied token
    · rw [if_neg (by simpa [Comparable] using hascii)]
      by_cases hsame : supplied.strip = token
      · rw [if_pos hsame]
        exact .granted hoffers hfilled hascii hsame
      · rw [if_neg hsame]
        exact .refused hoffers hfilled hascii hsame
    · rw [if_pos (by simpa [Comparable, imp_iff_not_or] using hascii)]
      exact .incomparable hoffers hfilled hascii
  · have hmissing : ∀ supplied, Offers authorization supplied → supplied = [] := by
      intro supplied hoffers
      exact Classical.byContradiction fun hfilled => hoffer ⟨supplied, hoffers, hfilled⟩
    rw [if_pos ?_]
    · exact .missing hmissing
    rw [Bool.or_eq_true, bne_iff_ne, List.isEmpty_iff]
    by_cases hbearer : (splitAuthorization (authorization.getD [])).1.lower = ("bearer" : Text)
    · obtain hempty | ⟨hheader, hscheme⟩ := splitAuthorization_cases (authorization.getD [])
      · exact .inr hempty
      · cases authorization with
        | none => simp at hheader
        | some header =>
          exact .inr (hmissing _ ⟨_, congrArg some hheader, hscheme,
            lower_eq_bearer_iff.mp hbearer⟩)
    · exact .inl hbearer

namespace App

/-! ## Going on -/

/-- A request goes on, whatever would come of it. -/
def Passes (app : App) (request : Request) : Prop :=
  ∀ next, app.authorized request next = next

/-- A request is turned away as one without the token. -/
def TurnsAway (app : App) (request : Request) : Prop :=
  ∃ detail, ∀ next, app.authorized request next = (.ok (.refusal 401 detail challenge), app.node)

/-- The check of the token fails. -/
def FailsCheck (app : App) (request : Request) : Prop :=
  ∀ next, app.authorized request next = (.error .tokenNotAscii, app.node)

theorem not_turnsAway_of_passes {app : App} {request : Request} (h : app.Passes request) :
    ¬ app.TurnsAway request := by
  rintro ⟨detail, haway⟩
  have heq := (h (.error .notFinite, app.node)).symm.trans (haway _)
  cases congrArg Prod.fst heq

theorem not_failsCheck_of_passes {app : App} {request : Request} (h : app.Passes request) :
    ¬ app.FailsCheck request := by
  intro hfails
  have heq := (h (.error .notFinite, app.node)).symm.trans (hfails _)
  cases congrArg Prod.fst heq

theorem not_failsCheck_of_turnsAway {app : App} {request : Request} (h : app.TurnsAway request) :
    ¬ app.FailsCheck request := by
  obtain ⟨detail, haway⟩ := h
  intro hfails
  have heq := (haway (.error .notFinite, app.node)).symm.trans (hfails _)
  cases congrArg Prod.fst heq

/-- The verdict on a request, with what the header offers. -/
theorem authorized_of_header (app : App) (request : Request) (htoken : app.token ≠ []) :
    let carries := ∃ supplied, Offers (request.header? "authorization") supplied ∧
      supplied.strip = app.token
    let incomparable := ∃ supplied, Offers (request.header? "authorization") supplied ∧
      supplied ≠ [] ∧ ¬ Comparable supplied app.token
    app.Passes request ∧ app.token.isAscii = true ∧ carries ∨
      app.FailsCheck request ∧ incomparable ∨
      app.TurnsAway request ∧ ¬ carries ∧ ¬ incomparable := by
  have hchecked := checked app.token (request.header? "authorization")
  unfold Passes FailsCheck TurnsAway authorized
  generalize request.header? "authorization" = authorization at hchecked ⊢
  generalize checkToken app.token authorization = verdict at hchecked ⊢
  cases hchecked with
  | missing hnone =>
    refine .inr (.inr ⟨⟨_, fun _ => rfl⟩, ?_, ?_⟩)
    · rintro ⟨supplied, hoffers, hsame⟩
      rw [hnone supplied hoffers] at hsame
      exact htoken hsame.symm
    · rintro ⟨supplied, hoffers, hfilled, -⟩
      exact hfilled (hnone supplied hoffers)
  | incomparable hoffers hfilled hascii =>
    exact .inr (.inl ⟨fun _ => rfl, _, hoffers, hfilled, hascii⟩)
  | granted hoffers hfilled hascii hsame =>
    exact .inl ⟨fun _ => rfl, hascii.2, _, hoffers, hsame⟩
  | refused hoffers hfilled hascii hother =>
    refine .inr (.inr ⟨⟨_, fun _ => rfl⟩, ?_, ?_⟩)
    · rintro ⟨other, hoffered, hsame⟩
      rw [hoffered.unique hoffers] at hsame
      exact hother hsame
    · rintro ⟨other, hoffered, -, hother⟩
      rw [hoffered.unique hoffers] at hother
      exact hother hascii

/-- A request goes on, is turned away, or is not decided since the check fails. It goes on exactly if
it offers the token and the token is ASCII; the check fails exactly if something is offered and that
or the token is not ASCII. So the word `Bearer` with the token behind it is let through exactly if
the token is ASCII and has no blanks around it. -/
theorem authorized_cases (app : App) (request : Request) (htoken : app.token ≠ []) :
    (app.Passes request ↔
      app.token.isAscii = true ∧
        ∃ supplied, Offers (request.header? "authorization") supplied ∧
          supplied.strip = app.token) ∧
    (app.FailsCheck request ↔
      ∃ supplied, Offers (request.header? "authorization") supplied ∧ supplied ≠ [] ∧
        ¬ (supplied.strip.isAscii = true ∧ app.token.isAscii = true)) ∧
    (app.TurnsAway request ↔ ¬ app.Passes request ∧ ¬ app.FailsCheck request) ∧
    (request.header? "authorization" = some (("Bearer " : Text) ++ app.token) →
      (app.Passes request ↔ app.token.isAscii = true ∧ app.token.strip = app.token)) := by
  have hpasses : app.Passes request ↔ app.token.isAscii = true ∧
      ∃ supplied, Offers (request.header? "authorization") supplied ∧
        supplied.strip = app.token := by
    obtain ⟨hpasses, hcarries⟩ | ⟨hfails, supplied, hoffers, hfilled, hascii⟩ | ⟨haway, hother, -⟩ :=
      authorized_of_header app request htoken
    · exact iff_of_true hpasses hcarries
    · refine iff_of_false (fun hpasses => not_failsCheck_of_passes hpasses hfails) ?_
      rintro ⟨htokenAscii, other, hoffered, hsame⟩
      rw [hoffered.unique hoffers] at hsame
      exact hascii ⟨hsame ▸ htokenAscii, htokenAscii⟩
    · exact iff_of_false (fun hpasses => not_turnsAway_of_passes hpasses haway)
        fun hcarries => hother hcarries.2
  refine ⟨hpasses, ?fails, ?away, ?own⟩
  case fails =>
    obtain ⟨hpasses, htokenAscii, supplied, hoffers, hsame⟩ | ⟨hfails, hincomparable⟩ |
      ⟨haway, -, hother⟩ := authorized_of_header app request htoken
    · refine iff_of_false (not_failsCheck_of_passes hpasses) ?_
      rintro ⟨other, hoffered, -, hascii⟩
      rw [hoffered.unique hoffers, hsame] at hascii
      exact hascii ⟨htokenAscii, htokenAscii⟩
    · exact iff_of_true hfails hincomparable
    · exact iff_of_false (not_failsCheck_of_turnsAway haway) hother
  case away =>
    constructor
    · intro haway
      exact ⟨fun hpasses => not_turnsAway_of_passes hpasses haway,
        not_failsCheck_of_turnsAway haway⟩
    · rintro ⟨hnot, hsound⟩
      obtain ⟨hpasses, -⟩ | ⟨hfails, -⟩ | ⟨haway, -⟩ := authorized_of_header app request htoken
      · exact absurd hpasses hnot
      · exact absurd hfails hsound
      · exact haway
  case own =>
    intro hheader
    have hoffers : Offers (request.header? "authorization") app.token := by
      rw [hheader]
      refine ⟨"Bearer", rfl, by decide, ?_⟩
      rw [← lower_eq_bearer_iff]
      decide
    rw [hpasses]
    refine and_congr_right fun _ => ⟨?_, fun hstrip => ⟨_, hoffers, hstrip⟩⟩
    rintro ⟨supplied, hoffered, hsame⟩
    rwa [hoffered.unique hoffers] at hsame

/-- A request with the token, in capitals and with blanks that do not matter. -/
def loudRequest : Request :=
  ⟨"GET", "/v1/blogs/posts", [], [("authorization", "BEARER  secret ")], []⟩

theorem authorized_cases_quiet :
    quiet.token ≠ [] ∧ quiet.Passes loudRequest ∧ ¬ quiet.FailsCheck loudRequest := by
  have htoken : quiet.token ≠ [] := by decide
  have hoffers : Offers (loudRequest.header? "authorization") " secret " := by
    refine ⟨"BEARER", by decide, by decide, ?_⟩
    rw [← lower_eq_bearer_iff]
    decide
  obtain ⟨hpasses, -, haway, -⟩ := authorized_cases quiet loudRequest htoken
  have hpassed := hpasses.mpr ⟨by decide, _, hoffers, by decide⟩
  exact ⟨htoken, hpassed, not_failsCheck_of_passes hpassed⟩

/-- The check fails on a header that is not ASCII, and the word `Bearer` with the token behind it is
refused where the token begins with a blank. -/
theorem not_checkToken_decides :
    ¬ (∀ token authorization, token ≠ [] →
        ∃ access, checkToken token authorization = .ok access) ∧
      ¬ ∀ token, token ≠ [] → checkToken token (some (("Bearer " : Text) ++ token)) = .ok .granted := by
  constructor
  · intro hclaim
    obtain ⟨access, haccess⟩ := hclaim "t" (some "Bearer é") (by decide)
    have hfails : checkToken "t" (some "Bearer é") = .error .tokenNotAscii := by decide
    rw [hfails] at haccess
    cases haccess
  · intro hclaim
    have hrefused : checkToken " t" (some (("Bearer " : Text) ++ (" t" : Text))) = .ok .refused := by
      decide
    have hgranted := hclaim " t" (by decide)
    rw [hrefused] at hgranted
    cases hgranted

end App

end Http

end SignedBlog
