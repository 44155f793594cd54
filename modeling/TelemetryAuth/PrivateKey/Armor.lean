import TelemetryAuth.PrivateKey.Base64

/-!
# Armored text

Armored text carries bytes in sections.  A line `-----BEGIN label-----` opens a section, and a line
that begins with `-----END label-----` closes it; between them the bytes are written with
sixty-four characters.  What stands outside of sections means nothing.

Only sections of known labels are decoded.  `firstSection` looks for the first section of one label
and stops at the first fault on the way: a line that begins as an opening line and does not end as
one, a known section that cannot be decoded, or a section without end.
-/

namespace TelemetryAuth.Armor

/-- Why a text has no section of a label: a malformed opening line, the missing end of a section,
bytes that cannot be decoded, or no such section. -/
inductive Fault
  | badOpening (line : List UInt8)
  | unclosed (label : List UInt8)
  | badBytes (fault : Base64.Fault)
  | noSection
  deriving DecidableEq

/-- The bytes of a text. -/
def bytesOf (text : String) : List UInt8 := text.toUTF8.toList

/-- What an opening line begins with. -/
def opening : List UInt8 := bytesOf "-----BEGIN "

/-- What a closing line begins with. -/
def closing : List UInt8 := bytesOf "-----END "

/-- What stands behind a label. -/
def dashes : List UInt8 := bytesOf "-----"

/-- The labels of sections that are decoded. -/
def knownLabels : List (List UInt8) :=
  ["CERTIFICATE", "PUBLIC KEY", "RSA PRIVATE KEY", "PRIVATE KEY", "EC PRIVATE KEY", "X509 CRL",
    "CERTIFICATE REQUEST", "ECHCONFIG"].map bytesOf

/-! ### Lines -/

/-- Whether a byte ends a line. -/
def endsLine (byte : UInt8) : Bool := byte == 0x0A || byte == 0x0D

/-- The lines of a text; what follows the last end of a line is a line unless it is empty. -/
def lines (line : List UInt8) : List UInt8 → List (List UInt8)
  | [] => if line = [] then [] else [line]
  | byte :: rest => if endsLine byte then line :: lines [] rest else lines (line ++ [byte]) rest

/-- The label of an opening line without its beginning, unless it ends with other than five dashes.
Spaces after and between the dashes do not count. -/
def openedLabel? (rest : List UInt8) : Option (List UInt8) :=
  let isTail (byte : UInt8) : Bool := byte == 0x2D || byte == 0x20
  let tail := (rest.reverse.takeWhile isTail).reverse
  let label := rest.take (rest.length - tail.length)
  if tail.count 0x2D = 5 then some (label ++ tail.takeWhile (· == 0x20)) else none

/-- Whether a line closes the section of a label. -/
def closes (label line : List UInt8) : Bool := (closing ++ label ++ dashes).isPrefixOf line

/-! ### Sections -/

/-- The state between two lines: the label of the open section, if there is one, and the characters
that have been collected. -/
structure Reading where
  label : Option (List UInt8)
  collected : List UInt8

/-- Before the first line and after a section. -/
def Reading.initial : Reading := ⟨none, []⟩

/-- The state after one line, or the label and the bytes of a known section that the line closes.
A section that is opened inside another takes over what has been collected. -/
def Reading.step (reading : Reading) (line : List UInt8) :
    Except Fault (Reading ⊕ (List UInt8 × List UInt8)) :=
  if opening.isPrefixOf line then
    match openedLabel? (line.drop opening.length) with
    | some label => .ok (.inl { reading with label := some label })
    | none => .error (.badOpening line)
  else match reading.label with
    | none => .ok (.inl reading)
    | some label =>
      if !closes label line then
        .ok (.inl { reading with collected := reading.collected ++ line })
      else if !knownLabels.contains label then .ok (.inl .initial)
      else match Base64.decode reading.collected with
        | .ok bytes => .ok (.inr (label, bytes))
        | .error fault => .error (.badBytes fault)

/-- The bytes of the first section of a label among lines. -/
def firstAmong (label : List UInt8) (reading : Reading) :
    List (List UInt8) → Except Fault (List UInt8)
  | [] =>
    match reading.label with
    | some label => .error (.unclosed label)
    | none => .error .noSection
  | line :: rest =>
    match reading.step line with
    | .error fault => .error fault
    | .ok (.inl reading) => firstAmong label reading rest
    | .ok (.inr (found, bytes)) =>
      if found = label then .ok bytes else firstAmong label .initial rest

/-- The bytes of the first section of a label in a text. -/
def firstSection (label text : String) : Except Fault (List UInt8) :=
  firstAmong (bytesOf label) .initial (lines [] (bytesOf text))

/-! ### Samples: the ends of opening lines -/

example : openedLabel? (bytesOf "A B-----  ") = some (bytesOf "A B") := by decide +kernel
example : openedLabel? (bytesOf "A-----x") = none := by decide +kernel
example : openedLabel? (bytesOf "A----") = none := by decide +kernel

end TelemetryAuth.Armor
