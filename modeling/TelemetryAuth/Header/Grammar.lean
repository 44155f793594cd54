import TelemetryAuth.Text.Blank

/-!
# Well-formed header names and values

A header name is a token: ASCII letters and digits and a few marks, at least one character.  Names
are compared and kept in small letters.  A header value is any text without control characters; the
tab is allowed.

The metadata of a remote procedure call follows the same rules, and a name that ends in `-bin` is
kept for binary values, which have another form.
-/

namespace TelemetryAuth.Header

/-- The marks that a name may hold beside letters and digits. -/
def nameMarks : List Char := "!#$%&'*+-.^_\x60|~".toList

/-- Whether a character may stand in a name. -/
def isNameChar (c : Char) : Bool := c.isAlphanum || nameMarks.contains c

/-- The largest length of a name. -/
def maxNameLength : Nat := 0xFFFF

/-- Whether a text is a header name. -/
def isName (name : String) : Bool :=
  name ≠ "" && name.toList.all isNameChar && name.length ≤ maxNameLength

/-- A name in small letters, the form in which names are compared. -/
def lowerName (name : String) : String := String.ofList (Text.lowerAscii name.toList)

/-- Whether a name ends, in any mixture of capitals, as the names of binary values do. -/
def isBinaryName (name : String) : Bool :=
  "-bin".toList.isSuffixOf (Text.lowerAscii name.toList)

/-- Whether a text is the name of a textual metadata entry. -/
def isMetadataName (name : String) : Bool := isName name && !isBinaryName name

/-- Whether a character may stand in a value. -/
def isValueChar (c : Char) : Bool := c == '\t' || (c.toNat ≥ 0x20 && c.toNat ≠ 0x7F)

/-- Whether a text is a header value. -/
def isValue (value : String) : Bool := value.toList.all isValueChar

end TelemetryAuth.Header
