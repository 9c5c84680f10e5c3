import SignedBlog.Identifier
import SignedBlog.Proofs.Digits

/-!
When the id of an author or of a message can be derived.

`Identifier.AuthorFault` and `Identifier.MessageFault` list why it cannot; where no fault applies
there is an id.
-/

namespace SignedBlog

set_option autoImplicit false

/-! ## Integers in a fixed count of bytes -/

theorem Bytes.ofInteger_eq_ok {width : Nat} {n : Int} (h₀ : 0 ≤ n) (h : n < 256 ^ width) :
    Bytes.ofInteger width n = .ok (bigEndian width n.toNat) := by
  obtain ⟨m, rfl⟩ := Int.eq_ofNat_of_zero_le h₀
  have hcast : ((Nat.pow 256 width : Nat) : Int) = 256 ^ width := Int.natCast_pow 256 width
  have hm : m < Nat.pow 256 width := by omega
  change (if m < Nat.pow 256 width then Except.ok _ else _ : Except RangeDefect Bytes).mapError _
    = _
  rw [if_pos hm]
  rfl

theorem Bytes.ofInteger_eq_negative {width : Nat} {n : Int} (h : n < 0) :
    Bytes.ofInteger width n = .error (.range .negative) := by
  obtain ⟨m, rfl⟩ := Int.eq_negSucc_of_lt_zero h
  rfl

theorem Bytes.ofInteger_eq_tooBig {width : Nat} {n : Int} (h : 256 ^ width ≤ n) :
    Bytes.ofInteger width n = .error (.range .tooBig) := by
  have h₀ : 0 ≤ n := Int.le_trans (Int.pow_nonneg (by decide)) h
  obtain ⟨m, rfl⟩ := Int.eq_ofNat_of_zero_le h₀
  have hcast : ((Nat.pow 256 width : Nat) : Int) = 256 ^ width := Int.natCast_pow 256 width
  have hm : ¬ m < Nat.pow 256 width := by omega
  change (if m < Nat.pow 256 width then Except.ok _ else _ : Except RangeDefect Bytes).mapError _
    = _
  rw [if_neg hm]
  rfl

/-! ## How the derivation of an id fails -/

namespace Identifier

theorem digestFitting_eq_tooBig {label : Bytes} {parts : List Bytes} {part : Bytes}
    (hpart : part ∈ parts) (h : 256 ^ 4 ≤ part.length) :
    digestFitting label parts = .error (.range .tooBig) := by
  unfold digestFitting
  rw [if_neg]
  intro hall
  have hlt : part.length < 256 ^ 4 := by simpa using List.all_eq_true.mp hall part hpart
  omega

/-- Why the id of an author cannot be derived: the format version is no byte, or the key is so long
that four bytes cannot tell its length. -/
inductive AuthorFault (formatVersion : Int) (publicKey : Bytes) : Fault → Prop where
  | negativeVersion : formatVersion < 0 → AuthorFault formatVersion publicKey (.range .negative)
  | bigVersion : 256 ≤ formatVersion → AuthorFault formatVersion publicKey (.range .tooBig)
  | longKey : 0 ≤ formatVersion → 256 ^ 4 ≤ publicKey.length →
      AuthorFault formatVersion publicKey (.range .tooBig)

theorem author_eq_error {formatVersion : Int} {publicKey : Bytes} {fault : Fault}
    (h : AuthorFault formatVersion publicKey fault) :
    author formatVersion publicKey = .error fault := by
  unfold author
  cases h with
  | negativeVersion h => rw [Bytes.ofInteger_eq_negative h]
  | bigVersion h => rw [Bytes.ofInteger_eq_tooBig (by simpa using h)]
  | longKey h₀ h =>
    by_cases hbig : 256 ≤ formatVersion
    · rw [Bytes.ofInteger_eq_tooBig (by simpa using hbig)]
    · rw [Bytes.ofInteger_eq_ok h₀ (by omega)]
      exact digestFitting_eq_tooBig (by simp) h

theorem author_eq_ok {formatVersion : Int} {publicKey : Bytes} (h₀ : 0 ≤ formatVersion)
    (hbyte : formatVersion < 256) (hkey : publicKey.length < 256 ^ 4) :
    author formatVersion publicKey
      = .ok (digest authorLabel [Bytes.bigEndian 1 formatVersion.toNat, publicKey]) := by
  unfold author
  rw [Bytes.ofInteger_eq_ok h₀ (by omega)]
  apply digestFitting_of_fits
  simp only [List.mem_cons, List.not_mem_nil, or_false, forall_eq_or_imp, forall_eq,
    Bytes.length_bigEndian, Nat.pow_eq]
  omega

theorem author_eq_ok_iff {formatVersion : Int} {publicKey id : Bytes} :
    author formatVersion publicKey = .ok id ↔
      0 ≤ formatVersion ∧ formatVersion < 256 ∧ publicKey.length < 256 ^ 4 ∧
        id = digest authorLabel [Bytes.bigEndian 1 formatVersion.toNat, publicKey] := by
  constructor
  · intro h
    have hfits : ∀ fault, ¬ AuthorFault formatVersion publicKey fault := by
      intro fault hfault
      rw [author_eq_error hfault] at h
      cases h
    have h₀ : ¬ formatVersion < 0 := fun hlt => hfits _ (.negativeVersion hlt)
    have hbyte : ¬ 256 ≤ formatVersion := fun hle => hfits _ (.bigVersion hle)
    have hkey : ¬ 256 ^ 4 ≤ publicKey.length := fun hle => hfits _ (.longKey (by omega) hle)
    rw [author_eq_ok (by omega) (by omega) (by omega)] at h
    exact ⟨by omega, by omega, by omega, (Except.ok.inj h).symm⟩
  · rintro ⟨h₀, hbyte, hkey, rfl⟩
    exact author_eq_ok h₀ hbyte hkey

/-- A format version that has an id stands in one byte, so it can be written. -/
theorem fits_of_author {formatVersion : Int} {publicKey id : Bytes}
    (h : author formatVersion publicKey = .ok id) :
    Integer.fits Integer.usualLimit formatVersion = true := by
  obtain ⟨h₀, hbyte, -⟩ := author_eq_ok_iff.mp h
  exact @Integer.fits_of_lt formatVersion 3 (by omega) (by decide)

theorem author_ok_or_fault (formatVersion : Int) (publicKey : Bytes) :
    (∃ id, author formatVersion publicKey = .ok id) ∨
      ∃ fault, AuthorFault formatVersion publicKey fault := by
  by_cases h₀ : formatVersion < 0
  · exact .inr ⟨_, .negativeVersion h₀⟩
  by_cases hbig : 256 ≤ formatVersion
  · exact .inr ⟨_, .bigVersion hbig⟩
  by_cases hlong : 256 ^ 4 ≤ publicKey.length
  · exact .inr ⟨_, .longKey (by omega) hlong⟩
  exact .inl ⟨_, author_eq_ok (by omega) (by omega) (by omega)⟩

/-- Why the id of a message cannot be derived: its time does not fit into eight bytes, or a part is
so long that four bytes cannot tell its length. A negative time is named in the fault if it can be
written. -/
inductive MessageFault (blogId : Bytes) (timestamp : Int) (body : Bytes) : Fault → Prop where
  | negativeTime : timestamp < 0 → Integer.fits Integer.usualLimit timestamp = true →
      MessageFault blogId timestamp body (.payload (.negativeTimestamp timestamp))
  | unwrittenTime : timestamp < 0 → Integer.fits Integer.usualLimit timestamp = false →
      MessageFault blogId timestamp body (.setting .longInteger)
  | bigTime : 256 ^ 8 ≤ timestamp → MessageFault blogId timestamp body (.range .tooBig)
  | longPart : 0 ≤ timestamp → 256 ^ 4 ≤ blogId.length ∨ 256 ^ 4 ≤ body.length →
      MessageFault blogId timestamp body (.range .tooBig)

theorem message_eq_error {blogId : Bytes} {timestamp : Int} {body : Bytes} {fault : Fault}
    (h : MessageFault blogId timestamp body fault) :
    message blogId timestamp body = .error fault := by
  unfold message
  cases h with
  | negativeTime h hfits => rw [if_pos h, if_pos hfits]
  | unwrittenTime h hlong => simp only [if_pos h, hlong, Bool.false_eq_true, if_false]
  | bigTime h => rw [if_neg (by omega), Bytes.ofInteger_eq_tooBig (by simpa using h)]
  | longPart h₀ h =>
    rw [if_neg (by omega)]
    by_cases hbig : 256 ^ 8 ≤ timestamp
    · rw [Bytes.ofInteger_eq_tooBig (by simpa using hbig)]
    · rw [Bytes.ofInteger_eq_ok h₀ (by omega)]
      cases h with
      | inl h => exact digestFitting_eq_tooBig (by simp) h
      | inr h => exact digestFitting_eq_tooBig (by simp) h

theorem message_eq_ok {blogId : Bytes} {timestamp : Int} {body : Bytes} (h₀ : 0 ≤ timestamp)
    (htime : timestamp < 256 ^ 8) (hblog : blogId.length < 256 ^ 4) (hbody : body.length < 256 ^ 4) :
    message blogId timestamp body
      = .ok (digest messageLabel [blogId, Bytes.bigEndian 8 timestamp.toNat, body]) := by
  unfold message
  rw [if_neg (by omega), Bytes.ofInteger_eq_ok h₀ htime]
  apply digestFitting_of_fits
  simp only [List.mem_cons, List.not_mem_nil, or_false, forall_eq_or_imp, forall_eq,
    Bytes.length_bigEndian, Nat.pow_eq]
  omega

theorem message_eq_ok_iff {blogId : Bytes} {timestamp : Int} {body id : Bytes} :
    message blogId timestamp body = .ok id ↔
      0 ≤ timestamp ∧ timestamp < 256 ^ 8 ∧ blogId.length < 256 ^ 4 ∧ body.length < 256 ^ 4 ∧
        id = digest messageLabel [blogId, Bytes.bigEndian 8 timestamp.toNat, body] := by
  constructor
  · intro h
    have hfits : ∀ fault, ¬ MessageFault blogId timestamp body fault := by
      intro fault hfault
      rw [message_eq_error hfault] at h
      cases h
    have h₀ : ¬ timestamp < 0 := by
      intro hlt
      cases hwritten : Integer.fits Integer.usualLimit timestamp with
      | true => exact hfits _ (.negativeTime hlt hwritten)
      | false => exact hfits _ (.unwrittenTime hlt hwritten)
    have htime : ¬ 256 ^ 8 ≤ timestamp := fun hle => hfits _ (.bigTime hle)
    have hparts : ¬ (256 ^ 4 ≤ blogId.length ∨ 256 ^ 4 ≤ body.length) :=
      fun hle => hfits _ (.longPart (by omega) hle)
    rw [message_eq_ok (by omega) (by omega) (by omega) (by omega)] at h
    exact ⟨by omega, by omega, by omega, by omega, (Except.ok.inj h).symm⟩
  · rintro ⟨h₀, htime, hblog, hbody, rfl⟩
    exact message_eq_ok h₀ htime hblog hbody

/-- A time that has an id stands in eight bytes, so it can be written. -/
theorem fits_of_message {blogId body id : Bytes} {timestamp : Int}
    (h : message blogId timestamp body = .ok id) :
    Integer.fits Integer.usualLimit timestamp = true := by
  obtain ⟨h₀, htime, -⟩ := message_eq_ok_iff.mp h
  exact Integer.fits_of_eightBytes h₀ htime

theorem message_ok_or_fault (blogId : Bytes) (timestamp : Int) (body : Bytes) :
    (∃ id, message blogId timestamp body = .ok id) ∨
      ∃ fault, MessageFault blogId timestamp body fault := by
  by_cases h₀ : timestamp < 0
  · cases hwritten : Integer.fits Integer.usualLimit timestamp with
    | true => exact .inr ⟨_, .negativeTime h₀ hwritten⟩
    | false => exact .inr ⟨_, .unwrittenTime h₀ hwritten⟩
  by_cases hbig : 256 ^ 8 ≤ timestamp
  · exact .inr ⟨_, .bigTime hbig⟩
  by_cases hlong : 256 ^ 4 ≤ blogId.length ∨ 256 ^ 4 ≤ body.length
  · exact .inr ⟨_, .longPart (by omega) hlong⟩
  exact .inl ⟨_, message_eq_ok (by omega) (by omega) (by omega) (by omega)⟩

end Identifier

end SignedBlog
