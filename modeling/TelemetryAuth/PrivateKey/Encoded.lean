/-!
# Values with a tag and a length

An encoded value is a byte that tells its kind (its tag), the length of its contents, and the
contents.  A length below 128 is one byte; a greater one has a first byte that counts the bytes of
the length.  Only the shortest form of a length is read, and none of more than two bytes.

A reader takes the value from the front of some bytes and answers with the bytes behind it.
-/

namespace TelemetryAuth.Encoded

/-- The tag of a whole number. -/
def integerTag : UInt8 := 0x02

/-- The tag of bytes without a kind of their own. -/
def bytesTag : UInt8 := 0x04

/-- The tag of values in a row. -/
def sequenceTag : UInt8 := 0x30

/-- The tag of the attributes that may follow a key. -/
def attributesTag : UInt8 := 0xA0

/-- The length in front of some bytes, and the bytes behind it. -/
def readLength? : List UInt8 → Option (Nat × List UInt8)
  | 0x81 :: low :: rest => if 0x80 ≤ low then some (low.toNat, rest) else none
  | 0x82 :: high :: low :: rest =>
    if high ≠ 0 then some (256 * high.toNat + low.toNat, rest) else none
  | first :: rest => if first < 0x80 then some (first.toNat, rest) else none
  | [] => none

/-- The contents of a value with a tag, and the bytes behind it. -/
def readValue? (tag : UInt8) : List UInt8 → Option (List UInt8 × List UInt8)
  | [] => none
  | first :: rest => do
    if first ≠ tag then none
    let (length, rest) ← readLength? rest
    if rest.length < length then none
    return (rest.take length, rest.drop length)

/-- The contents of the only value among some bytes. -/
def readOnly? (tag : UInt8) (bytes : List UInt8) : Option (List UInt8) :=
  match readValue? tag bytes with
  | some (contents, []) => some contents
  | _ => none

/-- The number that bytes stand for, the most significant first. -/
def natural (bytes : List UInt8) : Nat :=
  bytes.foldl (fun value byte => 256 * value + byte.toNat) 0

/-- Whether bytes are the shortest form of a number that is not negative. -/
def isNatural : List UInt8 → Bool
  | [] => false
  | [first] => first < 0x80
  | first :: second :: _ => first < 0x80 && (first ≠ 0 || 0x80 ≤ second)

/-- A number that is not negative, and the bytes behind it. -/
def readNatural? (bytes : List UInt8) : Option (Nat × List UInt8) :=
  match readValue? integerTag bytes with
  | some (contents, rest) => if isNatural contents then some (natural contents, rest) else none
  | none => none

/-- Some numbers in a row, and the bytes behind them. -/
def readNaturals? : Nat → List UInt8 → Option (List Nat × List UInt8)
  | 0, bytes => some ([], bytes)
  | count + 1, bytes => do
    let (first, rest) ← readNatural? bytes
    let (others, rest) ← readNaturals? count rest
    return (first :: others, rest)

/-! ### Samples: a number, a number with its leading zero, and a length that is not the shortest -/

example : readNatural? [0x02, 0x01, 0x05, 0xFF] = some (5, [0xFF]) := by decide
example : readNatural? [0x02, 0x02, 0x00, 0x80] = some (128, []) := by decide
example : readNatural? [0x02, 0x81, 0x01, 0x05] = none := by decide

end TelemetryAuth.Encoded
