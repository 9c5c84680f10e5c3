import SignedBlog.Proofs.Utf8
import SignedBlog.Text.Percent
import Mathlib.Data.List.TakeWhile

/-!
Texts as forms write them.

A form writes a text in letters, digits and a few marks. Only what stands for itself is written as
it is: a text is its own written form exactly if it holds nothing else.
-/

namespace SignedBlog

set_option autoImplicit false

/-- Letters, digits and `_.-~`, which stand for themselves in a form. -/
def CodePoint.isFree (c : CodePoint) : Bool :=
  c.isAsciiLetter || c.isAsciiDigit || c.val == 0x5F || c.val == 0x2E || c.val == 0x2D ||
    c.val == 0x7E

namespace Percent

def formByte (b : UInt8) : Text :=
  if isUnreserved b then [CodePoint.ofByte b] else if b = 0x20 then ['+'] else escapeByte b

def formChar (c : CodePoint) : Text := (Utf8.encodeChar c).flatMap formByte

/-- A text as a form writes it, code point by code point. -/
def form (t : Text) : Text := t.flatMap formChar

theorem encodeForm_eq_ok {t : Text} (h : t.Clean) : encodeForm t = .ok (form t) := by
  have hencode := Utf8.encode_eq_ok_iff.mpr ⟨h, rfl⟩
  unfold encodeForm
  rw [hencode]
  change Except.ok ((t.flatMap Utf8.encodeChar).flatMap formByte) = _
  rw [List.flatMap_assoc]
  rfl

/-! ## What stands for itself -/

theorem val_lt_of_isFree {c : CodePoint} (h : c.isFree = true) : c.val < 0x80 := by
  simp only [CodePoint.isFree, CodePoint.isAsciiLetter, CodePoint.isAsciiDigit, Bool.or_eq_true,
    Bool.and_eq_true, decide_eq_true_eq, beq_iff_eq] at h
  omega

theorem isUnreserved_iff (b : UInt8) : isUnreserved b = (CodePoint.ofByte b).isFree := by
  have hval : (CodePoint.ofByte b).val = b.toNat := rfl
  have hmark (n : UInt8) : (b == n) = (b.toNat == n.toNat) := by
    rw [Bool.eq_iff_iff, beq_iff_eq, beq_iff_eq, UInt8.toNat_inj]
  unfold isUnreserved CodePoint.isFree
  simp only [hmark, hval]
  rfl

theorem ofByte_ofNat {c : CodePoint} (h : c.val < 0x80) :
    CodePoint.ofByte (UInt8.ofNat c.val) = c := by
  refine CodePoint.ext_val ?_
  change (UInt8.ofNat c.val).toNat = c.val
  exact Utf8.toNat_ofNat (by omega)

theorem formByte_of_large {b : UInt8} (h : 0x80 ≤ b.toNat) : formByte b = escapeByte b := by
  have hfree : isUnreserved b = false := by
    rw [isUnreserved_iff, Bool.eq_false_iff]
    intro hfree
    have hlt : b.toNat < 0x80 := val_lt_of_isFree hfree
    omega
  have hblank : b ≠ 0x20 := by
    rintro rfl
    exact absurd h (by decide)
  unfold formByte
  rw [hfree, if_neg (by decide), if_neg hblank]

theorem exists_encodeChar_of_large {c : CodePoint} (h : 0x80 ≤ c.val) :
    ∃ lead tail, Utf8.encodeChar c = lead :: tail ∧ 0x80 ≤ lead.toNat := by
  have hlt := c.val_lt
  unfold Utf8.encodeChar
  rw [if_neg (by omega)]
  split
  · refine ⟨_, _, rfl, ?_⟩
    rw [Utf8.toNat_ofNat (by omega)]
    omega
  · split
    · refine ⟨_, _, rfl, ?_⟩
      rw [Utf8.toNat_ofNat (by omega)]
      omega
    · refine ⟨_, _, rfl, ?_⟩
      rw [Utf8.toNat_ofNat (by omega)]
      omega

/-- A code point is written as it is, or as a plus, or in escapes. -/
theorem formChar_cases (c : CodePoint) :
    (c.isFree = true ∧ formChar c = [c]) ∨
      c.isFree = false ∧ (c.val = 0x20 ∧ formChar c = [('+' : CodePoint)] ∨
        ∃ a b rest, formChar c = ('%' : CodePoint) :: a :: b :: rest) := by
  by_cases hsmall : c.val < 0x80
  · have hone : formChar c = formByte (UInt8.ofNat c.val) := by
      unfold formChar Utf8.encodeChar
      rw [if_pos hsmall]
      simp
    have hfree : isUnreserved (UInt8.ofNat c.val) = c.isFree := by
      rw [isUnreserved_iff, ofByte_ofNat hsmall]
    rw [hone]
    unfold formByte
    rw [hfree, ofByte_ofNat hsmall]
    cases c.isFree with
    | true => exact .inl ⟨rfl, rfl⟩
    | false =>
      refine .inr ⟨rfl, ?_⟩
      by_cases hblank : c.val = 0x20
      · refine .inl ⟨hblank, ?_⟩
        rw [hblank]
        rfl
      · have hne : UInt8.ofNat c.val ≠ 0x20 := by
          intro e
          have hval := congrArg UInt8.toNat e
          rw [Utf8.toNat_ofNat (by omega)] at hval
          exact hblank hval
        rw [if_neg (by decide), if_neg hne]
        exact .inr ⟨_, _, [], rfl⟩
  · obtain ⟨lead, tail, hbytes, hlead⟩ := exists_encodeChar_of_large (Nat.le_of_not_lt hsmall)
    have hfree : c.isFree = false := by
      rw [Bool.eq_false_iff]
      exact fun hfree => hsmall (val_lt_of_isFree hfree)
    refine .inr ⟨hfree, .inr ⟨upperDigit (lead.toNat / 16), upperDigit (lead.toNat % 16),
      tail.flatMap formByte, ?_⟩⟩
    unfold formChar
    rw [hbytes, List.flatMap_cons, formByte_of_large hlead]
    rfl

theorem length_le_form (t : Text) : t.length ≤ (form t).length := by
  induction t with
  | nil => exact Nat.le_refl 0
  | cons c t ih =>
    have hchar : 1 ≤ (formChar c).length := by
      obtain ⟨-, hsame⟩ | ⟨-, ⟨-, hplus⟩ | ⟨a, b, rest, hescape⟩⟩ := formChar_cases c
      · rw [hsame]
        exact Nat.le_refl 1
      · rw [hplus]
        exact Nat.le_refl 1
      · rw [hescape]
        simp only [List.length_cons]
        omega
    have hsplit : (form (c :: t)).length = (formChar c).length + (form t).length := by
      unfold form
      rw [List.flatMap_cons, List.length_append]
    rw [hsplit, List.length_cons]
    omega

/-- A form writes a text as it is exactly if every code point of it stands for itself. -/
theorem form_eq_self_iff {t : Text} : form t = t ↔ ∀ c ∈ t, c.isFree = true := by
  induction t with
  | nil => exact iff_of_true rfl (List.forall_mem_nil _)
  | cons c t ih =>
    rw [List.forall_mem_cons, ← ih]
    have hsplit : form (c :: t) = formChar c ++ form t := List.flatMap_cons
    have hlength := length_le_form t
    rw [hsplit]
    obtain ⟨hfree, hsame⟩ | ⟨hfree, ⟨hblank, hplus⟩ | ⟨a, b, rest, hescape⟩⟩ := formChar_cases c
    · rw [hsame]
      simp [hfree]
    · -- a blank is not a plus
      rw [hplus]
      refine iff_of_false (fun e => ?_) fun h => ?_
      · have hhead : ('+' : CodePoint) = c := (List.cons.inj e).1
        rw [← hhead] at hblank
        exact absurd hblank (by decide)
      · rw [hfree] at h
        cases h.1
    · -- an escape makes the text longer, and nothing makes it shorter again
      rw [hescape]
      refine iff_of_false (fun e => ?_) fun h => ?_
      · have hlengths := congrArg List.length e
        simp only [List.length_append, List.length_cons] at hlengths
        omega
      · rw [hfree] at h
        cases h.1

/-! ## What is written -/

theorem isFree_upperDigit {n : Nat} (h : n < 16) : (upperDigit n).isFree = true := by
  have hall : ∀ m : Fin 16, (upperDigit m.val).isFree = true := by decide
  exact hall ⟨n, h⟩

/-- A written text holds letters, digits and the marks `_.-~%+`. -/
theorem mem_form {t : Text} {c : CodePoint} (h : c ∈ form t) :
    c.isFree = true ∨ c.val = 0x25 ∨ c.val = 0x2B := by
  obtain ⟨d, -, hd⟩ := List.mem_flatMap.mp h
  obtain ⟨b, -, hb⟩ := List.mem_flatMap.mp hd
  unfold formByte at hb
  split at hb
  · rename_i hfree
    rw [List.mem_singleton.mp hb, ← isUnreserved_iff]
    exact .inl hfree
  · split at hb
    · rw [List.mem_singleton.mp hb]
      exact .inr (.inr rfl)
    · have hbyte := b.toNat_lt
      have hhigh : b.toNat / 16 < 16 := by omega
      have hlow : b.toNat % 16 < 16 := by omega
      simp only [escapeByte, List.mem_cons, List.not_mem_nil, or_false] at hb
      obtain rfl | rfl | rfl := hb
      · exact .inr (.inl rfl)
      · exact .inl (isFree_upperDigit hhigh)
      · exact .inl (isFree_upperDigit hlow)

/-! ## Reading what stands for itself -/

theorem resolve_cons {c : CodePoint} (h : c.val ≠ 0x25) (t : Text) :
    resolve (c :: t) = UInt8.ofNat c.val :: resolve t := by
  match t with
  | [] => rfl
  | [a] => rfl
  | a :: b :: t =>
    rw [resolve, if_neg h]

theorem ne_of_isFree {c : CodePoint} (h : c.isFree = true) : c.val ≠ 0x25 ∧ c.val ≠ 0x2B := by
  simp only [CodePoint.isFree, CodePoint.isAsciiLetter, CodePoint.isAsciiDigit, Bool.or_eq_true,
    Bool.and_eq_true, decide_eq_true_eq, beq_iff_eq] at h
  omega

theorem resolve_of_isFree {t : Text} (h : ∀ c ∈ t, c.isFree = true) :
    resolve t = t.map fun c => UInt8.ofNat c.val := by
  induction t with
  | nil => rfl
  | cons c t ih =>
    rw [List.forall_mem_cons] at h
    rw [resolve_cons (ne_of_isFree h.1).1, ih h.2, List.map_cons]

theorem decodeLossyFrom_of_small {t : Text} (h : ∀ c ∈ t, c.val < 0x80) {fuel : Nat}
    (hfuel : t.length ≤ fuel) (done : Text) :
    Utf8.decodeLossyFrom fuel done (t.map fun c => UInt8.ofNat c.val) = done.reverse ++ t := by
  induction t generalizing fuel done with
  | nil => cases fuel <;> simp [Utf8.decodeLossyFrom]
  | cons c t ih =>
    rw [List.forall_mem_cons] at h
    rw [List.length_cons] at hfuel
    obtain ⟨fuel, rfl⟩ : ∃ n, fuel = n + 1 := ⟨fuel - 1, by omega⟩
    have hfront := @Utf8.front_one c false h.1 (t.map fun c => UInt8.ofNat c.val)
    rw [List.map_cons, Utf8.decodeLossyFrom, hfront]
    simp only [ih h.2 (Nat.le_of_succ_le_succ hfuel), List.reverse_cons, List.append_assoc,
      List.singleton_append]

theorem decode_of_isFree {t : Text} (h : ∀ c ∈ t, c.isFree = true) : decode t = t := by
  have hsmall : ∀ c ∈ t, c.val < 0x80 := fun c hc => val_lt_of_isFree (h c hc)
  have hascii : ∀ c ∈ t, c.isAscii = true := fun c hc => decide_eq_true (hsmall c hc)
  unfold decode
  cases t with
  | nil => rfl
  | cons c u =>
    have htake : (c :: u).takeWhile CodePoint.isAscii = c :: u :=
      List.takeWhile_eq_self_iff.mpr hascii
    have hdrop : (c :: u).dropWhile CodePoint.isAscii = [] :=
      List.dropWhile_eq_nil_iff.mpr hascii
    rw [List.length_cons, decodeFrom, if_pos (hascii c List.mem_cons_self), htake, hdrop,
      resolve_of_isFree h]
    unfold Utf8.decodeLossy
    rw [decodeLossyFrom_of_small hsmall (by simp)]
    simp [decodeFrom]

theorem decodeForm_of_isFree {t : Text} (h : ∀ c ∈ t, c.isFree = true) : decodeForm t = t := by
  have hplus : (t.map fun c => if c.val = 0x2B then (' ' : CodePoint) else c) = t := by
    refine (List.map_congr_left fun c hc => ?_).trans (List.map_id t)
    exact if_neg (ne_of_isFree (h c hc)).2
  unfold decodeForm
  rw [hplus, decode_of_isFree h]

end Percent

end SignedBlog
