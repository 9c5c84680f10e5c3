import SignedBlog.Proofs.Derivation
import SignedBlog.Signature

/-!
Byte strings put together can be taken apart.

A part stands behind its length in four bytes, so what begins with a part tells which part it is:
`Identifier.frame_append_inj`. By induction the parts of a preimage are told by its bytes, and the
label of what is signed by its beginning.
-/

namespace SignedBlog

set_option autoImplicit false

/-! ## Numbers in a fixed count of bytes -/

namespace Bytes

theorem toNatBig_append_singleton (bs : Bytes) (b : UInt8) :
    toNatBig (bs ++ [b]) = toNatBig bs * 256 + b.toNat := by
  simp [toNatBig]

theorem toNatBig_bigEndian {width n : Nat} (h : n < 256 ^ width) :
    toNatBig (bigEndian width n) = n := by
  induction width generalizing n with
  | zero =>
    rw [Nat.pow_zero] at h
    have hzero : n = 0 := by omega
    subst hzero
    rfl
  | succ width ih =>
    rw [Nat.pow_succ] at h
    rw [bigEndian, toNatBig_append_singleton, ih (by omega), UInt8.toNat_ofNat']
    omega

theorem bigEndian_inj {width m n : Nat} (hm : m < 256 ^ width) (hn : n < 256 ^ width)
    (h : bigEndian width m = bigEndian width n) : m = n := by
  rw [← toNatBig_bigEndian hm, h, toNatBig_bigEndian hn]

theorem bigEndian_toNat_inj {width : Nat} {m n : Int} (hm : 0 ≤ m ∧ m < 256 ^ width)
    (hn : 0 ≤ n ∧ n < 256 ^ width)
    (h : bigEndian width m.toNat = bigEndian width n.toNat) : m = n := by
  have hcast : ((256 ^ width : Nat) : Int) = 256 ^ width := Int.natCast_pow 256 width
  have hnat : m.toNat = n.toNat := bigEndian_inj (by omega) (by omega) h
  omega

end Bytes

/-! ## Parts behind their lengths -/

namespace Identifier

theorem frame_append_inj {a b s t : Bytes} (ha : a.length < 256 ^ 4) (hb : b.length < 256 ^ 4)
    (h : frame a ++ s = frame b ++ t) : a = b ∧ s = t := by
  unfold frame at h
  rw [List.append_assoc, List.append_assoc] at h
  have hwidth : (Bytes.bigEndian 4 a.length).length = (Bytes.bigEndian 4 b.length).length := by
    rw [Bytes.length_bigEndian, Bytes.length_bigEndian]
  obtain ⟨hbytes, hrest⟩ := List.append_inj h hwidth
  exact List.append_inj hrest (Bytes.bigEndian_inj ha hb hbytes)

theorem frame_append_ne_nil (a t : Bytes) : frame a ++ t ≠ [] := by
  intro h
  have hlength := congrArg List.length h
  simp [frame] at hlength

/-- Under one label, different lists of parts have different preimages. -/
theorem preimage_inj {label : Bytes} {as bs : List Bytes} (ha : ∀ a ∈ as, a.length < 256 ^ 4)
    (hb : ∀ b ∈ bs, b.length < 256 ^ 4) (h : preimage label as = preimage label bs) : as = bs := by
  have hframes : as.flatMap frame = bs.flatMap frame := List.append_cancel_left h
  clear h
  induction as generalizing bs with
  | nil =>
    cases bs with
    | nil => rfl
    | cons b bs => exact absurd hframes.symm (frame_append_ne_nil b _)
  | cons a as ih =>
    cases bs with
    | nil => exact absurd hframes (frame_append_ne_nil a _)
    | cons b bs =>
      rw [List.forall_mem_cons] at ha hb
      rw [List.flatMap_cons, List.flatMap_cons] at hframes
      obtain ⟨rfl, hrest⟩ := frame_append_inj ha.1 hb.1 hframes
      rw [ih ha.2 hb.2 hrest]

end Identifier

/-! ## Labelled messages -/

/-- What is signed tells the label and the message. -/
theorem Signature.labelled_inj {label₁ label₂ message₁ message₂ : Bytes}
    (h₁ : label₁.length < 256 ^ 4) (h₂ : label₂.length < 256 ^ 4)
    (h : labelled label₁ message₁ = labelled label₂ message₂) :
    label₁ = label₂ ∧ message₁ = message₂ :=
  Identifier.frame_append_inj h₁ h₂ h

end SignedBlog
