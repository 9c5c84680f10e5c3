import SignedBlog.Proofs.Framing

/-!
What identifiers are taken over.

The bytes that are hashed under one label tell the parts, however many there are and whatever they
hold. The label itself has no length in front of it: two labels are kept apart only if neither is the
beginning of the other (`Identifier.isPrefix_of_preimage_eq`), as it is with the labels in use.

* `Identifier.Subject` is what an identifier may be asked for, with the bytes that are hashed for it.
* `Identifier.preimages_tell` says that these bytes tell the kind of the identifier and all it was
  derived from.
-/

namespace SignedBlog.Identifier

set_option autoImplicit false

/-! ## Labels -/

theorem isPrefix_of_preimage_eq {label₁ label₂ : Bytes} {as bs : List Bytes}
    (h : preimage label₁ as = preimage label₂ bs) : label₁ <+: label₂ ∨ label₂ <+: label₁ := by
  have hfirst : label₁ <+: preimage label₂ bs := ⟨_, h⟩
  have hsecond : label₂ <+: preimage label₂ bs := List.prefix_append _ _
  exact List.prefix_or_prefix_of_prefix hfirst hsecond

/-- A label that goes on where another ends may take over its parts. -/
example : preimage [1] [[]] = preimage [1, 0, 0, 0, 0] [] := rfl

/-- The labels of the kinds of identifiers. -/
def labels : List Bytes := [authorLabel, blogLabel, messageLabel]

theorem eq_of_isPrefix_of_labels :
    ∀ label₁ ∈ labels, ∀ label₂ ∈ labels, label₁ <+: label₂ → label₁ = label₂ := by
  decide

/-- What is hashed begins with only one of the labels. -/
theorem label_eq_of_preimage_eq {label₁ label₂ : Bytes} (h₁ : label₁ ∈ labels)
    (h₂ : label₂ ∈ labels) {as bs : List Bytes} (h : preimage label₁ as = preimage label₂ bs) :
    label₁ = label₂ := by
  obtain hprefix | hprefix := isPrefix_of_preimage_eq h
  · exact eq_of_isPrefix_of_labels label₁ h₁ label₂ h₂ hprefix
  · exact (eq_of_isPrefix_of_labels label₂ h₂ label₁ h₁ hprefix).symm

/-! ## Digests under any label -/

theorem digestOf_eq_ok {label : Text} {name : Bytes} {parts : List Bytes}
    (hlabel : label.utf8 = .ok name) (hparts : ∀ part ∈ parts, part.length < 256 ^ 4) :
    digestOf label parts = .ok (Sha2.sha256 (preimage name parts)) := by
  unfold digestOf
  rw [hlabel]
  exact digestFitting_of_fits hparts

/-! ## Subjects -/

/-- What an identifier may be asked for. -/
inductive Subject where
  | author (formatVersion : Int) (publicKey : Bytes)
  | blog (authorId : Bytes)
  | message (blogId : Bytes) (timestamp : Int) (body : Bytes)

namespace Subject

def identifier : Subject → Except Fault Bytes
  | .author formatVersion publicKey => Identifier.author formatVersion publicKey
  | .blog authorId => .ok (Identifier.blog authorId)
  | .message blogId timestamp body => Identifier.message blogId timestamp body

/-- The numbers fit into their bytes, and four bytes can tell the length of each part. -/
def InRange : Subject → Prop
  | .author formatVersion publicKey =>
    (0 ≤ formatVersion ∧ formatVersion < 256) ∧ publicKey.length < 256 ^ 4
  | .blog authorId => authorId.length < 256 ^ 4
  | .message blogId timestamp body =>
    (0 ≤ timestamp ∧ timestamp < 256 ^ 8) ∧ blogId.length < 256 ^ 4 ∧ body.length < 256 ^ 4

def label : Subject → Bytes
  | .author _ _ => authorLabel
  | .blog _ => blogLabel
  | .message _ _ _ => messageLabel

def parts : Subject → List Bytes
  | .author formatVersion publicKey => [Bytes.bigEndian 1 formatVersion.toNat, publicKey]
  | .blog authorId => [authorId]
  | .message blogId timestamp body => [blogId, Bytes.bigEndian 8 timestamp.toNat, body]

/-- The byte string whose hash the identifier is. -/
def hashed (subject : Subject) : Bytes := preimage subject.label subject.parts

variable {s t : Subject}

theorem identifier_eq_ok (h : s.InRange) : s.identifier = .ok (Sha2.sha256 s.hashed) := by
  cases s with
  | author formatVersion publicKey =>
    obtain ⟨⟨h₀, hbyte⟩, hkey⟩ := h
    exact author_eq_ok h₀ hbyte hkey
  | blog authorId => rfl
  | message blogId timestamp body =>
    obtain ⟨⟨h₀, htime⟩, hblog, hbody⟩ := h
    exact message_eq_ok h₀ htime hblog hbody

theorem length_parts_lt (h : s.InRange) : ∀ part ∈ s.parts, part.length < 256 ^ 4 := by
  cases s with
  | author formatVersion publicKey =>
    simp only [parts, List.forall_mem_cons, List.not_mem_nil, false_imp_iff, implies_true, and_true,
      Bytes.length_bigEndian]
    exact ⟨by decide, h.2⟩
  | blog authorId => exact List.forall_mem_singleton.mpr h
  | message blogId timestamp body =>
    simp only [parts, List.forall_mem_cons, List.not_mem_nil, false_imp_iff, implies_true, and_true,
      Bytes.length_bigEndian]
    exact ⟨h.2.1, by decide, h.2.2⟩

theorem label_mem (subject : Subject) : subject.label ∈ labels := by
  cases subject <;> simp [label, labels]

/-- Subjects of one label are of one kind, and their parts tell the rest. -/
theorem eq_of_parts (hs : s.InRange) (ht : t.InRange) (hlabel : s.label = t.label)
    (hparts : s.parts = t.parts) : s = t := by
  have hkinds : authorLabel ≠ blogLabel ∧ authorLabel ≠ messageLabel ∧ blogLabel ≠ messageLabel := by
    decide
  match s, t with
  | .author version₁ key₁, .author version₂ key₂ =>
    simp only [parts, List.cons.injEq, and_true] at hparts
    rw [@Bytes.bigEndian_toNat_inj 1 _ _ hs.1 ht.1 hparts.1, hparts.2]
  | .blog author₁, .blog author₂ =>
    simp only [parts, List.cons.injEq, and_true] at hparts
    rw [hparts]
  | .message blog₁ time₁ body₁, .message blog₂ time₂ body₂ =>
    simp only [parts, List.cons.injEq, and_true] at hparts
    rw [hparts.1, @Bytes.bigEndian_toNat_inj 8 _ _ hs.1 ht.1 hparts.2.1, hparts.2.2]
  | .author _ _, .blog _ => exact absurd hlabel hkinds.1
  | .author _ _, .message _ _ _ => exact absurd hlabel hkinds.2.1
  | .blog _, .author _ _ => exact absurd hlabel.symm hkinds.1
  | .blog _, .message _ _ _ => exact absurd hlabel hkinds.2.2
  | .message _ _ _, .author _ _ => exact absurd hlabel.symm hkinds.2.1
  | .message _ _ _, .blog _ => exact absurd hlabel.symm hkinds.2.2

theorem hashed_eq_iff (hs : s.InRange) (ht : t.InRange) : s.hashed = t.hashed ↔ s = t := by
  constructor
  · intro h
    have hlabel := label_eq_of_preimage_eq s.label_mem t.label_mem h
    unfold hashed at h
    rw [hlabel] at h
    exact eq_of_parts hs ht hlabel (preimage_inj (length_parts_lt hs) (length_parts_lt ht) h)
  · rintro rfl
    rfl

end Subject

/-! ## What is hashed tells what it stands for -/

/-- Under any label, what is hashed tells the parts. Under different labels of those in use nothing
that is hashed is the same, so that of identifiers in range it tells the kind and every argument. -/
theorem preimages_tell :
    (∀ (label : Text) (name : Bytes) (as bs : List Bytes), label.utf8 = .ok name →
      (∀ a ∈ as, a.length < 256 ^ 4) → (∀ b ∈ bs, b.length < 256 ^ 4) →
      digestOf label as = .ok (Sha2.sha256 (preimage name as)) ∧
        digestOf label bs = .ok (Sha2.sha256 (preimage name bs)) ∧
        (preimage name as = preimage name bs ↔ as = bs)) ∧
    (∀ label₁ ∈ labels, ∀ label₂ ∈ labels, label₁ ≠ label₂ →
      ∀ as bs, preimage label₁ as ≠ preimage label₂ bs) ∧
    ∀ s t : Subject, s.InRange → t.InRange →
      s.identifier = .ok (Sha2.sha256 s.hashed) ∧ t.identifier = .ok (Sha2.sha256 t.hashed) ∧
        (s.hashed = t.hashed ↔ s = t) := by
  refine ⟨?parts, ?labels, ?subjects⟩
  case parts =>
    intro label name as bs hlabel has hbs
    exact ⟨digestOf_eq_ok hlabel has, digestOf_eq_ok hlabel hbs, preimage_inj has hbs,
      congrArg (preimage name)⟩
  case labels =>
    intro label₁ h₁ label₂ h₂ hne as bs h
    exact hne (label_eq_of_preimage_eq h₁ h₂ h)
  case subjects =>
    intro s t hs ht
    exact ⟨Subject.identifier_eq_ok hs, Subject.identifier_eq_ok ht, Subject.hashed_eq_iff hs ht⟩

/-- Two parts, and one part that looks like both of them behind their lengths. A blog whose author id
looks like the parts of an author is told from that author. -/
theorem preimages_tell_imitation :
    ("org.nodeblog/BLOG_ID" : Text).utf8 = .ok blogLabel ∧
      (∀ a ∈ ([[7], [8]] : List Bytes), a.length < 256 ^ 4) ∧
      (∀ b ∈ ([[7, 0, 0, 0, 1, 8]] : List Bytes), b.length < 256 ^ 4) ∧
      preimage blogLabel [[7], [8]] ≠ preimage blogLabel [[7, 0, 0, 0, 1, 8]] ∧
      (Subject.author 7 [8]).InRange ∧ (Subject.blog [7, 0, 0, 0, 1, 8]).InRange ∧
      (Subject.author 7 [8]).hashed ≠ (Subject.blog [7, 0, 0, 0, 1, 8]).hashed := by
  have hlabel : ("org.nodeblog/BLOG_ID" : Text).utf8 = .ok blogLabel := rfl
  have hseparate : ∀ a ∈ ([[7], [8]] : List Bytes), a.length < 256 ^ 4 := by decide
  have hjoined : ∀ b ∈ ([[7, 0, 0, 0, 1, 8]] : List Bytes), b.length < 256 ^ 4 := by decide
  have hauthor : (Subject.author 7 [8]).InRange := ⟨by decide, by decide⟩
  have hblog : (Subject.blog [7, 0, 0, 0, 1, 8]).InRange := by
    change 6 < 256 ^ 4
    decide
  obtain ⟨hparts, -, hsubjects⟩ := preimages_tell
  obtain ⟨-, -, htold⟩ := hparts _ _ _ _ hlabel hseparate hjoined
  obtain ⟨-, -, hkind⟩ := hsubjects _ _ hauthor hblog
  refine ⟨hlabel, hseparate, hjoined, fun h => ?_, hauthor, hblog, fun h => ?_⟩
  · exact absurd (htold.mp h) (by decide)
  · cases hkind.mp h

end SignedBlog.Identifier
