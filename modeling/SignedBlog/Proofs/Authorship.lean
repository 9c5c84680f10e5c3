import SignedBlog.Author
import SignedBlog.Proofs.Derivation
import SignedBlog.Proofs.Utf8

/-!
Which authors can be made.

The name is checked before the key, and the key before the id is derived. Just the well-formed authors are
made (`Author.create_eq_ok_iff`, `LocalAuthor.create_eq_ok_iff`), and a refusal says what is wrong with
the identity, but for two things that nobody checks: a name with a surrogate has no bytes to be counted,
and a format version that is no byte has no place in an id. `Author.create_answers_iff` says when an author
is made or refused.
-/

namespace SignedBlog

set_option autoImplicit false

namespace Author

/-! ## Names -/

structure NameFits (name : Text) : Prop where
  nonempty : name ≠ []
  clean : name.Clean
  size_le : Utf8.size name ≤ 50

/-- What comes of the check of a name. -/
inductive NameChecked (name : Text) : Except Fault Unit → Prop where
  | fits (h : NameFits name) : NameChecked name (.ok ())
  | empty (h : name = []) : NameChecked name (.error (.identity .emptyName))
  | long (hclean : name.Clean) (h : 50 < Utf8.size name) :
    NameChecked name (.error (.identity .longName))
  | unencodable (hclean : ¬ name.Clean) (run : Utf8.SurrogateRun) :
    NameChecked name (.error (.unencodable run))

theorem nameChecked (name : Text) : NameChecked name (checkName name) := by
  unfold checkName
  by_cases hempty : name = []
  · subst hempty
    exact .empty rfl
  have hfilled : name.isEmpty = false := List.isEmpty_eq_false_iff.mpr hempty
  by_cases hclean : name.Clean
  · have hbytes : name.utf8 = .ok (name.flatMap Utf8.encodeChar) :=
      Text.utf8_eq_ok_iff.mpr ⟨hclean, rfl⟩
    by_cases hlong : 50 < Utf8.size name
    · have hlong' : maxNameLength < (name.flatMap Utf8.encodeChar).length := hlong
      simp only [hfilled, hbytes, if_pos hlong']
      exact .long hclean hlong
    · have hshort : ¬ maxNameLength < (name.flatMap Utf8.encodeChar).length := hlong
      simp only [hfilled, hbytes, if_neg hshort]
      exact .fits ⟨hempty, hclean, by omega⟩
  · obtain ⟨run, hrun⟩ := Text.utf8_of_not_clean hclean
    simp only [hfilled, hrun]
    exact .unencodable hclean run

theorem nameFits_or_fault (name : Text) :
    NameFits name ∨ ∃ fault, checkName name = .error fault := by
  have hchecked := nameChecked name
  generalize checkName name = outcome at hchecked
  cases hchecked with
  | fits hfits => exact .inl hfits
  | empty | long | unencodable => exact .inr ⟨_, rfl⟩

theorem checkName_of_fits {name : Text} (h : NameFits name) : checkName name = .ok () := by
  have hchecked := nameChecked name
  have hle := h.size_le
  generalize checkName name = outcome at hchecked
  cases hchecked with
  | fits => rfl
  | empty hempty => exact absurd hempty h.nonempty
  | long _ hlong => omega
  | unencodable hclean => exact absurd h.clean hclean

theorem checkName_of_not_clean {name : Text} (h : ¬ name.Clean) :
    ∃ run, checkName name = .error (.unencodable run) := by
  have hchecked := nameChecked name
  generalize checkName name = outcome at hchecked
  cases hchecked with
  | fits hfits => exact absurd hfits.clean h
  | empty hempty => exact absurd (hempty ▸ Text.clean_nil) h
  | long hclean => exact absurd hclean h
  | unencodable _ run => exact ⟨run, rfl⟩

theorem checkName_of_misfit {name : Text} (hclean : name.Clean) (h : ¬ NameFits name) :
    ∃ defect, checkName name = .error (.identity defect) := by
  have hchecked := nameChecked name
  generalize checkName name = outcome at hchecked
  cases hchecked with
  | fits hfits => exact absurd hfits h
  | empty | long => exact ⟨_, rfl⟩
  | unencodable hnot => exact absurd hclean hnot

/-! ## Authors of public keys -/

/-- An author whose name fits, with a whole key and the id that is derived from it. -/
structure WellFormed (author : Author) : Prop where
  name : NameFits author.name
  length_publicKey : author.publicKey.length = 32
  id : Identifier.author author.formatVersion author.publicKey = .ok author.id

section

variable {name : Text} {publicKey : Bytes} {formatVersion : Int}

theorem create_of_refused {fault : Fault} (h : checkName name = .error fault) :
    create name publicKey formatVersion = .error fault := by
  unfold create
  rw [h]

theorem create_of_length (hname : NameFits name) (hlength : publicKey.length ≠ 32) :
    create name publicKey formatVersion = .error (.identity (.publicKeySize publicKey.length)) := by
  have hlength' : ¬ publicKey.length = publicKeyLength := hlength
  unfold create
  simp only [checkName_of_fits hname, if_neg hlength']

/-- Once the name and the key are checked, only the id is left to fail. -/
theorem create_of_fits (hname : NameFits name) (hlength : publicKey.length = 32) :
    create name publicKey formatVersion
      = (Identifier.author formatVersion publicKey).map
          fun id => ⟨formatVersion, id, name, publicKey⟩ := by
  have hlength' : publicKey.length = publicKeyLength := hlength
  unfold create
  simp only [checkName_of_fits hname, if_pos hlength']

theorem create_eq_ok_iff {author : Author} :
    create name publicKey formatVersion = .ok author ↔
      author.WellFormed ∧ author.name = name ∧ author.publicKey = publicKey ∧
        author.formatVersion = formatVersion := by
  constructor
  · intro h
    obtain hname | ⟨fault, hfault⟩ := nameFits_or_fault name
    rotate_left
    · rw [create_of_refused hfault] at h
      cases h
    by_cases hlength : publicKey.length = 32
    rotate_left
    · rw [create_of_length hname hlength] at h
      cases h
    rw [create_of_fits hname hlength] at h
    cases hid : Identifier.author formatVersion publicKey with
    | error fault =>
      rw [hid] at h
      cases h
    | ok id =>
      rw [hid] at h
      cases h
      exact ⟨⟨hname, hlength, hid⟩, rfl, rfl, rfl⟩
  · rintro ⟨h, rfl, rfl, rfl⟩
    rw [create_of_fits h.name h.length_publicKey, h.id]
    rfl

end

end Author

/-! ## Authors of secret keys -/

namespace LocalAuthor

open Author

variable {name : Text} {privateKey : Bytes}

theorem create_of_refused {fault : Fault} (h : checkName name = .error fault) :
    create name privateKey = .error fault := by
  unfold create
  rw [h]

theorem create_of_length (hname : NameFits name) (hlength : privateKey.length ≠ 32) :
    create name privateKey = .error (.identity .seedLength) := by
  unfold create Ed25519.Seed.ofBytes?
  simp only [checkName_of_fits hname, dif_neg hlength]

theorem create_bytes (hname : NameFits name) (seed : Ed25519.Seed) :
    create name seed.bytes = .ok (.ofSeed name seed) := by
  unfold create Ed25519.Seed.ofBytes?
  simp only [checkName_of_fits hname, dif_pos seed.length_eq]

theorem create_eq_ok_iff {author : LocalAuthor} :
    create name privateKey = .ok author ↔
      NameFits name ∧ author.seed.bytes = privateKey ∧ author = .ofSeed name author.seed := by
  constructor
  · intro h
    obtain hname | ⟨fault, hfault⟩ := nameFits_or_fault name
    rotate_left
    · rw [create_of_refused hfault] at h
      cases h
    by_cases hlength : privateKey.length = 32
    · rw [create_bytes hname ⟨privateKey, hlength⟩] at h
      cases h
      exact ⟨hname, rfl, rfl⟩
    · rw [create_of_length hname hlength] at h
      cases h
  · rintro ⟨hname, rfl, hauthor⟩
    rw [create_bytes hname, ← hauthor]

theorem wellFormed_ofSeed (hname : NameFits name) (seed : Ed25519.Seed) :
    (ofSeed name seed).toAuthor.WellFormed where
  name := hname
  length_publicKey := seed.length_publicKey
  id := author_ofSeed name seed

end LocalAuthor

/-! ## Answers -/

/-- An author of the name that was given, or a refusal that says what is wrong with the identity. -/
def Author.Answers (name : Text) (result : Except Fault Author) : Prop :=
  (∃ author, result = .ok author ∧ author.WellFormed ∧ author.name = name) ∨
    ∃ defect, result = .error (.identity defect)

namespace Author

theorem not_answers_unencodable (name : Text) (run : Utf8.SurrogateRun) :
    ¬ Answers name (.error (.unencodable run)) := by
  rintro (⟨author, hok, -⟩ | ⟨defect, hdefect⟩)
  · cases hok
  · cases hdefect

theorem not_answers_range (name : Text) (defect : RangeDefect) :
    ¬ Answers name (.error (.range defect)) := by
  rintro (⟨author, hok, -⟩ | ⟨defect', hdefect⟩)
  · cases hok
  · cases hdefect

theorem answers_of_wellFormed {author : Author} (h : author.WellFormed) :
    Answers author.name (.ok author) := .inl ⟨author, rfl, h, rfl⟩

variable {name : Text} {publicKey privateKey : Bytes} {formatVersion : Int}

/-- With a name that can be counted, only the derivation of the id fails in another way. -/
theorem answers_create_iff (hclean : name.Clean) :
    Answers name (create name publicKey formatVersion) ↔
      (NameFits name → publicKey.length = 32 → 0 ≤ formatVersion ∧ formatVersion < 256) := by
  by_cases hname : NameFits name
  rotate_left
  · obtain ⟨defect, hdefect⟩ := checkName_of_misfit hclean hname
    rw [create_of_refused hdefect]
    exact iff_of_true (.inr ⟨defect, rfl⟩) fun hfits => absurd hfits hname
  by_cases hlength : publicKey.length = 32
  rotate_left
  · rw [create_of_length hname hlength]
    exact iff_of_true (.inr ⟨_, rfl⟩) fun _ hwhole => absurd hwhole hlength
  rw [create_of_fits hname hlength]
  obtain ⟨id, hid⟩ | ⟨fault, hfault⟩ := Identifier.author_ok_or_fault formatVersion publicKey
  · obtain ⟨h₀, hbyte, -, -⟩ := Identifier.author_eq_ok_iff.mp hid
    rw [hid]
    exact iff_of_true (answers_of_wellFormed ⟨hname, hlength, hid⟩) fun _ _ => ⟨h₀, hbyte⟩
  · rw [Identifier.author_eq_error hfault]
    refine iff_of_false ?_ fun hversion => ?_
    · cases hfault <;> exact not_answers_range name _
    · obtain ⟨h₀, hbyte⟩ := hversion hname hlength
      cases hfault <;> omega

theorem answers_createLocal (hclean : name.Clean) :
    Answers name ((LocalAuthor.create name privateKey).map LocalAuthor.toAuthor) := by
  by_cases hname : NameFits name
  · by_cases hlength : privateKey.length = 32
    · rw [LocalAuthor.create_bytes hname ⟨privateKey, hlength⟩]
      exact answers_of_wellFormed (LocalAuthor.wellFormed_ofSeed hname _)
    · rw [LocalAuthor.create_of_length hname hlength]
      exact .inr ⟨_, rfl⟩
  · obtain ⟨defect, hdefect⟩ := checkName_of_misfit hclean hname
    rw [LocalAuthor.create_of_refused hdefect]
    exact .inr ⟨defect, rfl⟩

/-- Whatever is given, an author is made, and is then well formed and has what was given, or the refusal
says what is wrong with the identity, unless the name has a surrogate or all else is right and the format
version is no byte. -/
theorem create_answers_iff (name : Text) (publicKey privateKey : Bytes) (formatVersion : Int) :
    (Answers name (create name publicKey formatVersion) ↔
      name.Clean ∧
        (NameFits name → publicKey.length = 32 → 0 ≤ formatVersion ∧ formatVersion < 256)) ∧
    (Answers name ((LocalAuthor.create name privateKey).map LocalAuthor.toAuthor) ↔ name.Clean) ∧
    (∀ author, create name publicKey formatVersion = .ok author ↔
      author.WellFormed ∧ author.name = name ∧ author.publicKey = publicKey ∧
        author.formatVersion = formatVersion) ∧
    (∀ author, LocalAuthor.create name privateKey = .ok author ↔
      NameFits name ∧ author.seed.bytes = privateKey ∧ author = .ofSeed name author.seed) ∧
    (¬ name.Clean → ∃ run, create name publicKey formatVersion = .error (.unencodable run) ∧
      LocalAuthor.create name privateKey = .error (.unencodable run)) ∧
    (NameFits name → publicKey.length = 32 → formatVersion < 0 →
      create name publicKey formatVersion = .error (.range .negative)) ∧
    (NameFits name → publicKey.length = 32 → 256 ≤ formatVersion →
      create name publicKey formatVersion = .error (.range .tooBig)) := by
  have hsurrogate : ¬ name.Clean → ∃ run,
      create name publicKey formatVersion = .error (.unencodable run) ∧
        LocalAuthor.create name privateKey = .error (.unencodable run) := by
    intro hclean
    obtain ⟨run, hrun⟩ := checkName_of_not_clean hclean
    exact ⟨run, create_of_refused hrun, LocalAuthor.create_of_refused hrun⟩
  refine ⟨?answers, ?answersLocal, fun _ => create_eq_ok_iff,
    fun _ => LocalAuthor.create_eq_ok_iff, hsurrogate, ?negative, ?tooBig⟩
  case answers =>
    by_cases hclean : name.Clean
    · rw [answers_create_iff hclean, and_iff_right hclean]
    · obtain ⟨run, hrun, -⟩ := hsurrogate hclean
      rw [hrun]
      exact iff_of_false (not_answers_unencodable name run) fun h => hclean h.1
  case answersLocal =>
    by_cases hclean : name.Clean
    · exact iff_of_true (answers_createLocal hclean) hclean
    · obtain ⟨run, -, hrun⟩ := hsurrogate hclean
      rw [hrun]
      exact iff_of_false (not_answers_unencodable name run) hclean
  case negative =>
    intro hname hlength hversion
    rw [create_of_fits hname hlength, Identifier.author_eq_error (.negativeVersion hversion)]
    rfl
  case tooBig =>
    intro hname hlength hversion
    rw [create_of_fits hname hlength, Identifier.author_eq_error (.bigVersion hversion)]
    rfl

/-- A format version that is no byte, and a name of one surrogate, give neither an author nor a refusal that
says what is wrong with the identity. -/
theorem not_create_answers :
    (¬ ∀ (name : Text) (publicKey : Bytes) (formatVersion : Int),
      Answers name (create name publicKey formatVersion)) ∧
    ¬ ∀ (name : Text) (privateKey : Bytes),
      Answers name ((LocalAuthor.create name privateKey).map LocalAuthor.toAuthor) := by
  constructor
  · intro hclaim
    have hname : NameFits ("ann" : Text) := ⟨by decide, by decide, by decide⟩
    have hanswers := hclaim "ann" (List.replicate 32 1) 256
    rw [create_of_fits hname (by decide), Identifier.author_eq_error (.bigVersion (by decide))]
      at hanswers
    exact not_answers_range _ _ hanswers
  · intro hclaim
    have hclean : ¬ Text.Clean [.ofNat 0xD800] := by decide
    obtain ⟨run, hrun⟩ := checkName_of_not_clean hclean
    have hanswers := hclaim [.ofNat 0xD800] (List.replicate 32 1)
    rw [LocalAuthor.create_of_refused hrun] at hanswers
    exact not_answers_unencodable _ run hanswers

end Author

end SignedBlog
