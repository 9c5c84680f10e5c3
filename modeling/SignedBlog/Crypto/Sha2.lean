import SignedBlog.Bytes.Basic

/-!
The SHA-2 hash functions with 256 and 512 bits.

Both absorb a padded message block by block into eight registers; they differ in the width of a
word, in the constants and in the rotations, which a `Sha2.Family` gives.
-/

namespace SignedBlog.Sha2

set_option autoImplicit false

/-- The eight registers. -/
structure Registers (W : Type) where
  a : W
  b : W
  c : W
  d : W
  e : W
  f : W
  g : W
  h : W

/-- What distinguishes one member of the family. -/
structure Family (W : Type) where
  /-- Bytes of a word; a block has sixteen words, the message length two. -/
  wordSize : Nat
  read : Bytes → W
  toNat : W → Nat
  mixA : W → W
  mixE : W → W
  expandNear : W → W
  expandFar : W → W
  constants : List W
  start : Registers W

section
variable {W : Type} [Inhabited W] [Add W] [XorOp W] [AndOp W] [Complement W]

/-- One round: the word of the schedule and the constant enter the registers. -/
@[specialize] def round (family : Family W) (r : Registers W) (input : W × W) : Registers W :=
  let choice := (r.e &&& r.f) ^^^ (~~~r.e &&& r.g)
  let majority := (r.a &&& r.b) ^^^ (r.a &&& r.c) ^^^ (r.b &&& r.c)
  let t₁ := r.h + family.mixE r.e + choice + input.1 + input.2
  let t₂ := family.mixA r.a + majority
  ⟨t₁ + t₂, r.a, r.b, r.c, r.d + t₁, r.e, r.f, r.g⟩

/-- So many further words of a schedule whose words are given newest first. -/
@[specialize] def extend (family : Family W) : Nat → List W → List W
  | 0, ws => ws
  | n + 1, ws =>
    extend family n
      ((family.expandNear (ws.getD 1 default) + ws.getD 6 default
        + family.expandFar (ws.getD 14 default) + ws.getD 15 default) :: ws)

/-- Takes one block into the registers. -/
@[specialize] def absorb (family : Family W) (r : Registers W) (block : Bytes) : Registers W :=
  let words := (Bytes.chunks family.wordSize block).map family.read
  let schedule := (extend family (family.constants.length - 16) words.reverse).reverse
  let s := (family.constants.zip schedule).foldl (round family) r
  ⟨r.a + s.a, r.b + s.b, r.c + s.c, r.d + s.d, r.e + s.e, r.f + s.f, r.g + s.g, r.h + s.h⟩

/-- A one bit, zeros up to the end of a block, and the length of the message in bits. -/
def pad (wordSize : Nat) (message : Bytes) : Bytes :=
  let block := 16 * wordSize
  let used := message.length + 1 + 2 * wordSize
  message ++ 0x80 :: List.replicate ((block - used % block) % block) 0
    ++ Bytes.bigEndian (2 * wordSize) (8 * message.length)

/-- The registers one after the other as bytes. -/
def output (family : Family W) (r : Registers W) : Bytes :=
  [r.a, r.b, r.c, r.d, r.e, r.f, r.g, r.h].flatMap fun w =>
    Bytes.bigEndian family.wordSize (family.toNat w)

@[specialize] def hash (family : Family W) (message : Bytes) : Bytes :=
  output family
    ((Bytes.chunks (16 * family.wordSize) (pad family.wordSize message)).foldl (absorb family)
      family.start)

end

theorem length_output {W : Type} (family : Family W) (r : Registers W) :
    (output family r).length = 8 * family.wordSize := by
  simp [output]; omega

/-! ## 256 bits -/

def rotate32 (n : UInt32) (w : UInt32) : UInt32 := (w >>> n) ||| (w <<< (32 - n))

/-- The first bits of the fractions of the cube roots of the first 64 primes. -/
def constants256 : List UInt32 :=
  [0x428A2F98, 0x71374491, 0xB5C0FBCF, 0xE9B5DBA5, 0x3956C25B, 0x59F111F1, 0x923F82A4, 0xAB1C5ED5,
   0xD807AA98, 0x12835B01, 0x243185BE, 0x550C7DC3, 0x72BE5D74, 0x80DEB1FE, 0x9BDC06A7, 0xC19BF174,
   0xE49B69C1, 0xEFBE4786, 0x0FC19DC6, 0x240CA1CC, 0x2DE92C6F, 0x4A7484AA, 0x5CB0A9DC, 0x76F988DA,
   0x983E5152, 0xA831C66D, 0xB00327C8, 0xBF597FC7, 0xC6E00BF3, 0xD5A79147, 0x06CA6351, 0x14292967,
   0x27B70A85, 0x2E1B2138, 0x4D2C6DFC, 0x53380D13, 0x650A7354, 0x766A0ABB, 0x81C2C92E, 0x92722C85,
   0xA2BFE8A1, 0xA81A664B, 0xC24B8B70, 0xC76C51A3, 0xD192E819, 0xD6990624, 0xF40E3585, 0x106AA070,
   0x19A4C116, 0x1E376C08, 0x2748774C, 0x34B0BCB5, 0x391C0CB3, 0x4ED8AA4A, 0x5B9CCA4F, 0x682E6FF3,
   0x748F82EE, 0x78A5636F, 0x84C87814, 0x8CC70208, 0x90BEFFFA, 0xA4506CEB, 0xBEF9A3F7, 0xC67178F2]

/-- SHA-256. -/
def family256 : Family UInt32 where
  wordSize := 4
  read bs := UInt32.ofNat (Bytes.toNatBig bs)
  toNat := UInt32.toNat
  mixA w := rotate32 2 w ^^^ rotate32 13 w ^^^ rotate32 22 w
  mixE w := rotate32 6 w ^^^ rotate32 11 w ^^^ rotate32 25 w
  expandNear w := rotate32 17 w ^^^ rotate32 19 w ^^^ (w >>> 10)
  expandFar w := rotate32 7 w ^^^ rotate32 18 w ^^^ (w >>> 3)
  constants := constants256
  start := ⟨0x6A09E667, 0xBB67AE85, 0x3C6EF372, 0xA54FF53A,
    0x510E527F, 0x9B05688C, 0x1F83D9AB, 0x5BE0CD19⟩

def sha256 (message : Bytes) : Bytes := hash family256 message

@[simp] theorem length_sha256 (message : Bytes) : (sha256 message).length = 32 :=
  length_output family256 _

/-! ## 512 bits -/

def rotate64 (n : UInt64) (w : UInt64) : UInt64 := (w >>> n) ||| (w <<< (64 - n))

/-- The first bits of the fractions of the cube roots of the first 80 primes. -/
def constants512 : List UInt64 :=
  [0x428A2F98D728AE22, 0x7137449123EF65CD, 0xB5C0FBCFEC4D3B2F, 0xE9B5DBA58189DBBC,
   0x3956C25BF348B538, 0x59F111F1B605D019, 0x923F82A4AF194F9B, 0xAB1C5ED5DA6D8118,
   0xD807AA98A3030242, 0x12835B0145706FBE, 0x243185BE4EE4B28C, 0x550C7DC3D5FFB4E2,
   0x72BE5D74F27B896F, 0x80DEB1FE3B1696B1, 0x9BDC06A725C71235, 0xC19BF174CF692694,
   0xE49B69C19EF14AD2, 0xEFBE4786384F25E3, 0x0FC19DC68B8CD5B5, 0x240CA1CC77AC9C65,
   0x2DE92C6F592B0275, 0x4A7484AA6EA6E483, 0x5CB0A9DCBD41FBD4, 0x76F988DA831153B5,
   0x983E5152EE66DFAB, 0xA831C66D2DB43210, 0xB00327C898FB213F, 0xBF597FC7BEEF0EE4,
   0xC6E00BF33DA88FC2, 0xD5A79147930AA725, 0x06CA6351E003826F, 0x142929670A0E6E70,
   0x27B70A8546D22FFC, 0x2E1B21385C26C926, 0x4D2C6DFC5AC42AED, 0x53380D139D95B3DF,
   0x650A73548BAF63DE, 0x766A0ABB3C77B2A8, 0x81C2C92E47EDAEE6, 0x92722C851482353B,
   0xA2BFE8A14CF10364, 0xA81A664BBC423001, 0xC24B8B70D0F89791, 0xC76C51A30654BE30,
   0xD192E819D6EF5218, 0xD69906245565A910, 0xF40E35855771202A, 0x106AA07032BBD1B8,
   0x19A4C116B8D2D0C8, 0x1E376C085141AB53, 0x2748774CDF8EEB99, 0x34B0BCB5E19B48A8,
   0x391C0CB3C5C95A63, 0x4ED8AA4AE3418ACB, 0x5B9CCA4F7763E373, 0x682E6FF3D6B2B8A3,
   0x748F82EE5DEFB2FC, 0x78A5636F43172F60, 0x84C87814A1F0AB72, 0x8CC702081A6439EC,
   0x90BEFFFA23631E28, 0xA4506CEBDE82BDE9, 0xBEF9A3F7B2C67915, 0xC67178F2E372532B,
   0xCA273ECEEA26619C, 0xD186B8C721C0C207, 0xEADA7DD6CDE0EB1E, 0xF57D4F7FEE6ED178,
   0x06F067AA72176FBA, 0x0A637DC5A2C898A6, 0x113F9804BEF90DAE, 0x1B710B35131C471B,
   0x28DB77F523047D84, 0x32CAAB7B40C72493, 0x3C9EBE0A15C9BEBC, 0x431D67C49C100D4C,
   0x4CC5D4BECB3E42B6, 0x597F299CFC657E2A, 0x5FCB6FAB3AD6FAEC, 0x6C44198C4A475817]

/-- SHA-512. -/
def family512 : Family UInt64 where
  wordSize := 8
  read bs := UInt64.ofNat (Bytes.toNatBig bs)
  toNat := UInt64.toNat
  mixA w := rotate64 28 w ^^^ rotate64 34 w ^^^ rotate64 39 w
  mixE w := rotate64 14 w ^^^ rotate64 18 w ^^^ rotate64 41 w
  expandNear w := rotate64 19 w ^^^ rotate64 61 w ^^^ (w >>> 6)
  expandFar w := rotate64 1 w ^^^ rotate64 8 w ^^^ (w >>> 7)
  constants := constants512
  start := ⟨0x6A09E667F3BCC908, 0xBB67AE8584CAA73B, 0x3C6EF372FE94F82B,
    0xA54FF53A5F1D36F1, 0x510E527FADE682D1, 0x9B05688C2B3E6C1F,
    0x1F83D9ABFB41BD6B, 0x5BE0CD19137E2179⟩

def sha512 (message : Bytes) : Bytes := hash family512 message

@[simp] theorem length_sha512 (message : Bytes) : (sha512 message).length = 64 :=
  length_output family512 _

end SignedBlog.Sha2
