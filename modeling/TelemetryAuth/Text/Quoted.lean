import TelemetryAuth.Text.Visible

/-!
# Quoted text

`quote` writes a text between double quotes so that every character of it can be read back.  The
quote, the backslash, the tab, the two line ends and the null character have an escape of two
characters; any other character without a visible form is written by its number in hexadecimal.
-/

namespace TelemetryAuth.Text

/-- The digits of a number in hexadecimal, in small letters and without leading zeros. -/
def hexDigits (n : Nat) : List Char := Nat.toDigits 16 n

/-- One character of quoted text. -/
def quoteChar (c : Char) : List Char :=
  match c with
  | '\x00' => ['\\', '0']
  | '\t' => ['\\', 't']
  | '\r' => ['\\', 'r']
  | '\n' => ['\\', 'n']
  | '\\' => ['\\', '\\']
  | '"' => ['\\', '"']
  | _ => if isVisible c then [c] else ['\\', 'u', '\x7b'] ++ hexDigits c.toNat ++ ['\x7d']

/-- A text between double quotes, with escapes. -/
def quote (s : String) : String := String.ofList ('"' :: (s.toList.flatMap quoteChar ++ ['"']))

/-! ### Samples -/

example : quote "a\"b" = "\"a\\\"b\"" := by decide +kernel

end TelemetryAuth.Text
