import SignedBlog.Fault

/-!
Texts and integers as bytes, and integers as digits, with the fault where there is no such form.
-/

namespace SignedBlog

set_option autoImplicit false

/-- The UTF-8 bytes of a text. -/
def Text.utf8 (t : Text) : Except Fault Bytes := (Utf8.encode t).mapError .unencodable

/-- An integer in a fixed count of bytes, the most significant first. -/
def Bytes.ofInteger (width : Nat) (n : Int) : Except Fault Bytes := (ofInt width n).mapError .range

/-- An integer that is to be written may not have too many digits. -/
def Integer.checkDigits (limit : Option Nat) (n : Int) : Except Fault Unit :=
  if fits limit n then .ok () else .error (.setting .longInteger)

theorem Integer.checkDigits_of_fits {limit : Option Nat} {n : Int} (h : fits limit n = true) :
    checkDigits limit n = .ok () := if_pos h

theorem Integer.checkDigits_of_long {limit : Option Nat} {n : Int} (h : fits limit n = false) :
    checkDigits limit n = .error (.setting .longInteger) := by
  unfold checkDigits
  rw [h]
  rfl

/-- The bytes of a text written out in this library, which has no surrogates. -/
def Bytes.ofString (s : String) : Bytes := (Text.ofString s).flatMap Utf8.encodeChar

end SignedBlog
