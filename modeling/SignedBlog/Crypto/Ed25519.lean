import SignedBlog.Crypto.Sha2

/-!
Ed25519 signatures.

Points of the twisted Edwards curve are kept in extended coordinates over the integers modulo
2²⁵⁵ − 19. Verification is strict: the scalar has to be below the group order, the public key in
canonical form, and neither the key nor the commitment a point of small order.
-/

namespace SignedBlog.Ed25519

set_option autoImplicit false

/-- The field's modulus. -/
def prime : Nat := Nat.pow 2 255 - 19

/-- The order of the base point. -/
def order : Nat := Nat.pow 2 252 + 27742317777372353535851937790883648493

/-- The binary digits of a number, `width` of them, the most significant first. -/
def bits (width n : Nat) : List Bool :=
  (List.range width).foldl (fun acc i => n.testBit i :: acc) []

/-! ## The field -/

def mul (a b : Nat) : Nat := a * b % prime

def add (a b : Nat) : Nat := (a + b) % prime

def sub (a b : Nat) : Nat := (a + (prime - b)) % prime

def pow (a n : Nat) : Nat :=
  (bits 256 n).foldl (fun acc bit => let square := mul acc acc; if bit then mul square a else square) 1

def inverse (a : Nat) : Nat := pow a (prime - 2)

/-- The constant of the curve −x² + y² = 1 + d·x²·y². -/
def curveConstant : Nat := 0x52036cee2b6ffe738cc740797779e89800700a4d4141d8ab75eb4dca135978a3

/-- A square root of minus one. -/
def rootOfMinusOne : Nat := 0x2b8324804fc1df0b2b4d00993dfbd7a72f431806ad2fe478c4ee1b274a0ea0b0

/-! ## The curve -/

/-- A point in extended coordinates: `x / z`, `y / z`, and `t = x · y / z`. -/
structure Point where
  x : Nat
  y : Nat
  z : Nat
  t : Nat

namespace Point

def neutral : Point := ⟨0, 1, 1, 0⟩

def ofAffine (x y : Nat) : Point := ⟨x, y, 1, mul x y⟩

def base : Point :=
  ofAffine 0x216936d3cd6e53fec0a4e231fdd6dc5c692cc7609525a7b2c9562d608f25d51a
    0x6666666666666666666666666666666666666666666666666666666666666658

def add (p q : Point) : Point :=
  let a := mul (sub p.y p.x) (sub q.y q.x)
  let b := mul (Ed25519.add p.y p.x) (Ed25519.add q.y q.x)
  let c := mul (mul (2 * curveConstant) p.t) q.t
  let d := mul (2 * p.z) q.z
  let e := sub b a
  let f := sub d c
  let g := Ed25519.add d c
  let h := Ed25519.add b a
  ⟨mul e f, mul g h, mul f g, mul e h⟩

def neg (p : Point) : Point := ⟨sub 0 p.x, p.y, p.z, sub 0 p.t⟩

/-- A multiple of a point by doubling and adding. -/
def scale (n : Nat) (p : Point) : Point :=
  (bits 256 n).foldl (fun acc bit => let twice := add acc acc; if bit then add twice p else twice)
    neutral

/-- The ordinate in 255 bits and the last bit of the abscissa. -/
def encode (p : Point) : Bytes :=
  let i := inverse p.z
  Bytes.littleEndian 32 (mul p.y i + mul p.x i % 2 * Nat.pow 2 255)

@[simp] theorem length_encode (p : Point) : p.encode.length = 32 := Bytes.length_littleEndian _ _

/-- The point of an encoding, if its ordinate belongs to one. -/
def decode? (bs : Bytes) : Option Point :=
  let n := Bytes.toNatLittle bs
  let y := n % Nat.pow 2 255 % prime
  let u := sub (mul y y) 1
  let v := Ed25519.add (mul curveConstant (mul y y)) 1
  let v3 := mul (mul v v) v
  let v7 := mul (mul v3 v3) v
  let r := mul (mul u v3) (pow (mul u v7) ((prime - 5) / 8))
  let square := mul v (mul r r)
  let root? :=
    if square = u then some r else if square = sub 0 u then some (mul r rootOfMinusOne) else none
  root?.map fun x => ofAffine (if x % 2 = n / Nat.pow 2 255 % 2 then x else sub 0 x) y

end Point

/-- The ordinates of the points whose order divides eight, as far as 255 bits can write them. -/
def smallOrdinates : List Nat :=
  [0, 1,
    0x05fc536d880238b13933c6d305acdfd5f098eff289f4c345b027b2c28f95e826,
    0x7a03ac9277fdc74ec6cc392cfa53202a0f67100d760b3cba4fd84d3d706a17c7,
    prime - 1, prime, prime + 1]

/-- Whether an encoding is that of a point of small order. -/
def hasSmallOrder (bs : Bytes) : Bool :=
  smallOrdinates.contains (Bytes.toNatLittle bs % Nat.pow 2 255)

/-- Whether the ordinate of an encoding is below the modulus. -/
def isCanonical (bs : Bytes) : Bool := Bytes.toNatLittle bs % Nat.pow 2 255 < prime

/-! ## Keys and signatures -/

/-- The thirty-two secret bytes from which a key pair is derived. -/
structure Seed where
  bytes : Bytes
  length_eq : bytes.length = 32
deriving DecidableEq

/-- Bytes as a seed, if there are thirty-two of them. -/
def Seed.ofBytes? (bs : Bytes) : Option Seed :=
  if h : bs.length = 32 then some ⟨bs, h⟩ else none

/-- The secret scalar: bit 254 set, bit 255 and the last three bits cleared. -/
def Seed.scalar (seed : Seed) : Nat :=
  let n := Bytes.toNatLittle ((Sha2.sha512 seed.bytes).take 32)
  n % Nat.pow 2 254 / 8 * 8 + Nat.pow 2 254

/-- The secret bytes that make the commitment of a signature. -/
def Seed.nonceKey (seed : Seed) : Bytes := (Sha2.sha512 seed.bytes).drop 32

def Seed.publicKey (seed : Seed) : Bytes := (Point.base.scale seed.scalar).encode

@[simp] theorem Seed.length_publicKey (seed : Seed) : seed.publicKey.length = 32 :=
  Point.length_encode _

/-- A hash as a scalar. -/
def scalarOfHash (message : Bytes) : Nat := Bytes.toNatLittle (Sha2.sha512 message) % order

/-- The signature of a message: commitment and scalar, thirty-two bytes each. -/
def sign (seed : Seed) (message : Bytes) : Bytes :=
  let r := scalarOfHash (seed.nonceKey ++ message)
  let commitment := (Point.base.scale r).encode
  let challenge := scalarOfHash (commitment ++ seed.publicKey ++ message)
  commitment ++ Bytes.littleEndian 32 ((r + challenge * seed.scalar) % order)

@[simp] theorem length_sign (seed : Seed) (message : Bytes) : (sign seed message).length = 64 := by
  simp [sign]

/-- Whether a signature of a message was made with the seed of a public key. -/
def verify (publicKey message signature : Bytes) : Bool :=
  let commitment := signature.take 32
  let scalar := Bytes.toNatLittle (signature.drop 32)
  publicKey.length == 32 && signature.length == 64 && scalar < order
    && !hasSmallOrder commitment && isCanonical publicKey && !hasSmallOrder publicKey
    && match Point.decode? publicKey with
      | none => false
      | some key =>
        let challenge := scalarOfHash (commitment ++ publicKey ++ message)
        ((Point.base.scale scalar).add (key.neg.scale challenge)).encode == commitment

end SignedBlog.Ed25519
