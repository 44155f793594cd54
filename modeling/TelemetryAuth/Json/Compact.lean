import TelemetryAuth.Json.Basic
import TelemetryAuth.Text.Count
import TelemetryAuth.Text.Quoted

/-!
# Compact JSON text

`Json.compact` writes a value on one line without blanks.  In a string only the quote, the
backslash and the control characters below U+0020 are escaped; five control characters have a
letter, the others are written with four hexadecimal digits.
-/

namespace TelemetryAuth.Json

/-- One character of a string. -/
def stringChar (c : Char) : List Char :=
  match c with
  | '"' => ['\\', '"']
  | '\\' => ['\\', '\\']
  | '\x08' => ['\\', 'b']
  | '\x0c' => ['\\', 'f']
  | '\n' => ['\\', 'n']
  | '\r' => ['\\', 'r']
  | '\t' => ['\\', 't']
  | _ =>
    if c.toNat < 0x20 then
      let digits := Text.hexDigits c.toNat
      ['\\', 'u'] ++ List.replicate (4 - digits.length) '0' ++ digits
    else [c]

/-- A string between quotes. -/
def stringText (s : String) : String :=
  String.ofList ('"' :: (s.toList.flatMap stringChar ++ ['"']))

mutual

/-- A value on one line without blanks. -/
def compact : Json → String
  | .null => "null"
  | .bool true => "true"
  | .bool false => "false"
  | .number value => value.text
  | .string value => stringText value
  | .array items => "[" ++ ",".intercalate (compactItems items) ++ "]"
  | .object members => "\x7b" ++ ",".intercalate (compactMembers members) ++ "\x7d"

/-- The items of an array, each on one line. -/
def compactItems : List Json → List String
  | [] => []
  | item :: rest => compact item :: compactItems rest

/-- The members of an object, each on one line. -/
def compactMembers : List (String × Json) → List String
  | [] => []
  | (name, value) :: rest => (stringText name ++ ":" ++ compact value) :: compactMembers rest

end

end TelemetryAuth.Json
