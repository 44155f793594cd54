import TelemetryAuth.Text.Count
import TelemetryAuth.Text.Split

/-!
# Hosts that a certificate can name

A certificate names a domain name or an address, of four numbers (`isFourPartAddress`) or of eight
groups of hexadecimal digits (`isEightGroupAddress`).  In an identifier, a host may stand between
square brackets, which do not belong to it (`isCertifiable`).
-/

namespace TelemetryAuth.Host

/-! ### Domain names -/

/-- Whether a text is a label of a domain name: letters, digits, underscores and inner hyphens. -/
def isLabel (label : List Char) : Bool :=
  label ≠ [] && label.length ≤ 63 && label.all (fun c => c.isAlphanum || c == '-' || c == '_') &&
    label.head? ≠ some '-' && label.getLast? ≠ some '-'

/-- Whether a text is a domain name; the last label is not a number, and one point may end it. -/
def isDomainName (host : List Char) : Bool :=
  let labels := Text.splitAll '.' host
  let labels := if labels.getLast? = some [] then labels.dropLast else labels
  host.length ≤ 253 && labels ≠ [] && labels.all isLabel &&
    !(labels.getLast?.getD []).all Char.isDigit

/-! ### Addresses -/

/-- Whether a text is an address of four numbers up to 255, written without leading zeros. -/
def isFourPartAddress (host : List Char) : Bool :=
  let parts := Text.splitAll '.' host
  parts.length == 4 && parts.all fun part =>
    part.all Char.isDigit && (Text.readCount? 255 part).isSome &&
      (part.length == 1 || part.head? ≠ some '0')

/-- Whether a character is a hexadecimal digit. -/
def isHexDigit (c : Char) : Bool :=
  c.isDigit || ('a' ≤ c && c ≤ 'f') || ('A' ≤ c && c ≤ 'F')

/-- Whether a text is a group of one to four hexadecimal digits. -/
def isGroup (group : List Char) : Bool :=
  group ≠ [] && group.length ≤ 4 && group.all isHexDigit

/-- The number of groups that stand between colons.  The last two may be written as an address of
four numbers if `mixed`. -/
def groupCount? (mixed : Bool) (cs : List Char) : Option Nat :=
  if cs = [] then some 0
  else
    let groups := Text.splitAll ':' cs
    let last := groups.getLast?.getD []
    if !groups.dropLast.all isGroup then none
    else if isGroup last then some groups.length
    else if mixed && isFourPartAddress last then some (groups.length + 1)
    else none

/-- The texts before and behind the first two colons that stand side by side. -/
def splitGap : List Char → Option (List Char × List Char)
  | [] => none
  | ':' :: ':' :: rest => some ([], rest)
  | c :: rest => (splitGap rest).map fun (before, behind) => (c :: before, behind)

/-- Whether a text is an address of eight groups; two colons side by side stand for one group of
zeros or more. -/
def isEightGroupAddress (host : List Char) : Bool :=
  match splitGap host with
  | none => groupCount? true host == some 8
  | some (before, behind) =>
    match groupCount? false before, groupCount? true behind with
    | some first, some second => first + second ≤ 7
    | _, _ => false

/-! ### Hosts of identifiers -/

/-- A host without the brackets around it. -/
def withoutBrackets (host : List Char) : List Char :=
  match host with
  | '[' :: rest => if rest.getLast? = some ']' then rest.dropLast else host
  | _ => host

/-- Whether a certificate can name a host. -/
def isCertifiable (host : String) : Bool :=
  let host := withoutBrackets host.toList
  isDomainName host || isFourPartAddress host || isEightGroupAddress host

/-! ### Samples: the gap, the mixed form, and what is neither -/

example : isCertifiable "[::1]" = true ∧ isCertifiable "[::ffff:1.2.3.4]" = true := by
  decide +kernel
example : isCertifiable "[1:2:3:4:5:6:7::]" = true ∧ isCertifiable "[1:2:3:4:5:6:7:8]" = true := by
  decide +kernel
example : isCertifiable "[1::2::3]" = false ∧ isCertifiable "[12345::]" = false := by
  decide +kernel
example : isCertifiable "a.example." = true ∧ isCertifiable "10.0.0.256" = false := by
  decide +kernel

end TelemetryAuth.Host
