/-!
# Bytes written with sixty-four characters

Each character stands for six bits, and four characters for three bytes; one or two equals signs
fill up the last four characters, or are left out.  Blanks between the characters mean nothing.

A text is read in blocks of two groups of four characters (`decode`).  Only the last group may be
filled up or be shorter: padding in a group that another follows is early, and padding that does not
fill up the last group as it should is bad.  The bits of the last character that belong to no byte
are not looked at.
-/

namespace TelemetryAuth.Base64

/-- Why a text does not stand for bytes: a byte that is none of the characters, padding in a group
that is not the last, or a last group that is not filled up as it should be. -/
inductive Fault
  | badCharacter (byte : UInt8)
  | earlyPadding
  | badPadding
  deriving DecidableEq

/-- A character: six bits, or padding. -/
inductive Symbol
  | digit (value : Nat)
  | padding
  deriving DecidableEq

/-- The number of characters in a group. -/
def groupLength : Nat := 4

/-- The number of characters in a block, which is two groups. -/
def blockLength : Nat := 8

/-- Whether a byte is a blank. -/
def isBlank (byte : UInt8) : Bool := byte == 0x20 || (0x09 ≤ byte && byte ≤ 0x0D)

/-- The character of a byte. -/
def symbol? (byte : UInt8) : Option Symbol :=
  let n := byte.toNat
  if 0x41 ≤ n ∧ n ≤ 0x5A then some (.digit (n - 0x41))
  else if 0x61 ≤ n ∧ n ≤ 0x7A then some (.digit (n - 0x61 + 26))
  else if 0x30 ≤ n ∧ n ≤ 0x39 then some (.digit (n - 0x30 + 52))
  else if n = 0x2B then some (.digit 62)
  else if n = 0x2F then some (.digit 63)
  else if n = 0x3D then some .padding
  else none

/-- The bits of a character; padding stands for zeros. -/
def Symbol.bits : Symbol → Nat
  | .digit value => value
  | .padding => 0

/-- The bytes of a block in which only so many characters count. -/
def blockBytes (digits : Nat) (block : List Symbol) : List UInt8 :=
  let filled := block ++ List.replicate (blockLength - block.length) .padding
  let value := filled.foldl (fun value symbol => 64 * value + symbol.bits) 0
  ((List.range 6).map fun place => UInt8.ofNat (value >>> (8 * (5 - place)))).take (digits * 6 / 8)

/-- The bytes of the last group. -/
def lastGroupBytes (group : List Symbol) : Except Fault (List UInt8) :=
  let digits := (group.takeWhile (· ≠ .padding)).length
  let padding := group.length - digits
  if (group.drop digits).all (· = .padding) ∧ digits ≠ 1 ∧
      (padding = 0 ∨ (padding ≤ 2 ∧ group.length = groupLength)) then
    .ok (blockBytes digits group)
  else .error .badPadding

/-- The bytes of the last block, which has one group or two. -/
def lastBlockBytes (block : List Symbol) : Except Fault (List UInt8) :=
  if block.length ≤ groupLength then lastGroupBytes block
  else
    let front := block.take groupLength
    if front.contains .padding then .error .earlyPadding
    else (lastGroupBytes (block.drop groupLength)).map (blockBytes groupLength front ++ ·)

/-- The bytes of a text, of whose current block some characters have been read. -/
def decodeFrom (block : List Symbol) : List UInt8 → Except Fault (List UInt8)
  | [] => lastBlockBytes block
  | byte :: rest =>
    if isBlank byte then decodeFrom block rest
    else match symbol? byte with
      | none => .error (.badCharacter byte)
      | some symbol =>
        if block.length < blockLength then decodeFrom (block ++ [symbol]) rest
        else if block.contains .padding then .error .earlyPadding
        else (decodeFrom [symbol] rest).map (blockBytes blockLength block ++ ·)

/-- The bytes that a text stands for. -/
def decode (text : List UInt8) : Except Fault (List UInt8) := decodeFrom [] text

/-! ### Samples: one, two and three bytes, and padding in a wrong place -/

example : (decode [0x54, 0x51, 0x3D, 0x3D]).toOption = some [0x4D] := by decide +kernel
example : (decode [0x54, 0x57, 0x45]).toOption = some [0x4D, 0x61] := by decide +kernel
example : (decode [0x54, 0x57, 0x46, 0x75]).toOption = some [0x4D, 0x61, 0x6E] := by decide +kernel
example : (decode [0x54, 0x3D, 0x46, 0x75]).toOption = none := by decide +kernel

end TelemetryAuth.Base64
