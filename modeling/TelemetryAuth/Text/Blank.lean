/-!
# Blanks at the ends of a text

A property value may stand between blanks.  A character is blank when it has the Unicode property
`White_Space`; `isBlank` lists that property, and `trim` drops blanks at both ends and none inside.
-/

namespace TelemetryAuth.Text

/-- Whether a character has the Unicode property `White_Space`. -/
def isBlank (c : Char) : Bool :=
  let n := c.toNat
  (9 ≤ n && n ≤ 13) || n == 0x20 || n == 0x85 || n == 0xA0 || n == 0x1680 ||
    (0x2000 ≤ n && n ≤ 0x200A) || n == 0x2028 || n == 0x2029 || n == 0x202F || n == 0x205F ||
    n == 0x3000

/-- Drops the blanks in front. -/
def trimStart (cs : List Char) : List Char := cs.dropWhile isBlank

/-- Drops from the end the characters that satisfy `p`. -/
def dropEndWhile (p : Char → Bool) (cs : List Char) : List Char :=
  (cs.reverse.dropWhile p).reverse

/-- Drops the blanks at the end. -/
def trimEnd (cs : List Char) : List Char := dropEndWhile isBlank cs

/-- Drops the blanks at both ends. -/
def trim (cs : List Char) : List Char := trimEnd (trimStart cs)

/-- An ASCII capital becomes the small letter; every other character stays. -/
def lowerAscii (cs : List Char) : List Char := cs.map Char.toLower

end TelemetryAuth.Text
