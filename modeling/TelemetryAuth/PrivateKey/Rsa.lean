import TelemetryAuth.PrivateKey.Encoded

/-!
# Private keys of two primes

A key is stored as a version, the name of its algorithm and the bytes of its eight numbers, which
are encoded values in turn (`RsaKey.ofBytes?`).  A key that is read must be fit for signatures
(`RsaKey.isAcceptable`): its numbers have the sizes of a strong key and belong together as far as
that can be told without factoring.
-/

namespace TelemetryAuth

/-- The numbers of a private key: a modulus with its two primes, the exponents for both directions,
the second of these for each prime, and the inverse of the second prime modulo the first. -/
structure RsaKey where
  modulus : Nat
  publicExponent : Nat
  privateExponent : Nat
  firstPrime : Nat
  secondPrime : Nat
  firstExponent : Nat
  secondExponent : Nat
  inverse : Nat
  deriving DecidableEq

namespace RsaKey

/-! ### Keys that are fit for signatures -/

/-- The number of binary digits of a number. -/
def bitCount (n : Nat) : Nat := if n = 0 then 0 else n.log2 + 1

/-- Half of the binary digits of the modulus, rounded up. -/
def halfBits (key : RsaKey) : Nat := (bitCount key.modulus + 1) / 2

/-- Whether the modulus is odd and has 2048 to 4096 binary digits, up to seven of them zeros in
front. -/
def hasModulus (key : RsaKey) : Bool :=
  key.modulus % 2 = 1 && bitCount key.modulus > 2040 && bitCount key.modulus ≤ 4096

/-- Whether the public exponent is odd and neither too small nor too great. -/
def hasPublicExponent (key : RsaKey) : Bool :=
  key.publicExponent % 2 = 1 && key.publicExponent ≥ 65537 && key.publicExponent < 0x200000000

/-- Whether a number may be one of the primes: odd, and half as long as the modulus, in multiples of
512 binary digits. -/
def isHalf (key : RsaKey) (prime : Nat) : Bool :=
  prime % 2 = 1 && bitCount prime = key.halfBits && key.halfBits % 512 = 0

/-- Whether the private exponent is odd, longer than half of the modulus, and less than it. -/
def hasPrivateExponent (key : RsaKey) : Bool :=
  key.privateExponent % 2 = 1 && key.halfBits < bitCount key.privateExponent &&
    key.privateExponent < key.modulus

/-- Whether a number may be the exponent for a prime. -/
def isExponentFor (prime exponent : Nat) : Bool := exponent % 2 = 1 && exponent < prime

/-- Whether a key is fit for signatures. -/
def isAcceptable (key : RsaKey) : Bool :=
  key.hasModulus && key.hasPublicExponent && key.isHalf key.firstPrime &&
    key.isHalf key.secondPrime && key.firstPrime * key.secondPrime % key.modulus = 0 &&
    key.hasPrivateExponent && isExponentFor key.firstPrime key.firstExponent &&
    isExponentFor key.secondPrime key.secondExponent && key.inverse < key.firstPrime &&
    key.inverse * key.secondPrime % key.firstPrime = 1

/-! ### Stored keys -/

/-- The name of the algorithm, with its empty parameters. -/
def algorithm : List UInt8 :=
  [0x06, 0x09, 0x2A, 0x86, 0x48, 0x86, 0xF7, 0x0D, 0x01, 0x01, 0x01, 0x05, 0x00]

/-- The key of its eight numbers, behind a version. -/
def ofNumbers? : List Nat → Option RsaKey
  | [0, n, e, d, p, q, dp, dq, inverse] => some ⟨n, e, d, p, q, dp, dq, inverse⟩
  | _ => none

/-- The attributes that may follow a key are passed over. -/
def skipAttributes? (bytes : List UInt8) : Option (List UInt8) :=
  if bytes.head? = some Encoded.attributesTag then
    (Encoded.readValue? Encoded.attributesTag bytes).map (·.2)
  else some bytes

/-- The bytes of the numbers of a stored key of the first version. -/
def unwrap? (bytes : List UInt8) : Option (List UInt8) := do
  let contents ← Encoded.readOnly? Encoded.sequenceTag bytes
  let (version, rest) ← Encoded.readNatural? contents
  let (name, rest) ← Encoded.readValue? Encoded.sequenceTag rest
  let (key, rest) ← Encoded.readValue? Encoded.bytesTag rest
  let rest ← skipAttributes? rest
  if version = 0 ∧ name = algorithm ∧ rest = [] then some key else none

/-- The key of stored bytes, if it is acceptable. -/
def ofBytes? (bytes : List UInt8) : Option RsaKey := do
  let contents ← Encoded.readOnly? Encoded.sequenceTag (← unwrap? bytes)
  match Encoded.readNaturals? 9 contents with
  | some (numbers, []) =>
    let key ← ofNumbers? numbers
    if key.isAcceptable then some key else none
  | _ => none

end RsaKey

end TelemetryAuth
