import TelemetryAuth.Text.Blank

/-!
# Identifiers of resources

A text is read in one of four forms: a path (`/a?b`), the asterisk, a bare authority
(`localhost:4317`), or a scheme with an authority and an optional path (`http://host/a?b`).  A
fragment is dropped.  `Uri.read` gives a reason for a text of no such form, and `Uri.text` writes an
identifier back, with a slash for the path that a scheme asks for.
-/

namespace TelemetryAuth

/-- An identifier by its parts; a missing part is `none`, and a path is never empty. -/
structure Uri where
  scheme : Option String
  authority : Option String
  path : Option String
  query : Option String
  deriving DecidableEq, Inhabited

/-- Why a text is no identifier. -/
inductive UriFault
  | badCharacter
  | badAuthority
  | badFormat
  | tooLong
  | empty
  | schemeTooLong
  deriving DecidableEq

namespace UriFault

/-- The wording of a fault. -/
def message : UriFault → String
  | .badCharacter => "invalid uri character"
  | .badAuthority => "invalid authority"
  | .badFormat => "invalid format"
  | .tooLong => "uri too long"
  | .empty => "empty string"
  | .schemeTooLong => "scheme too long"

end UriFault

namespace Uri

/-- The greatest length of an identifier in bytes. -/
def maxLength : Nat := 0xFFFE

/-- The greatest length of a scheme. -/
def maxSchemeLength : Nat := 64

/-! ### Characters -/

/-- Whether a character may stand in a scheme. -/
def isSchemeChar (c : Char) : Bool := c.isAlphanum || "+-.~".toList.contains c

/-- Whether a character may stand in front of a path. -/
def isAuthorityChar (c : Char) : Bool :=
  c.isAlphanum || "!#$&'()*+,-./:;=?@[]_~".toList.contains c

/-- Whether a character may stand in a path.  Quotes and braces should be escaped but are let
through, and so is everything beyond ASCII. -/
def isPathChar (c : Char) : Bool :=
  c.toNat > 0x20 && c.toNat ≠ 0x7F && !"#<>?\x60".toList.contains c

/-- Whether a character may stand in a query. -/
def isQueryChar (c : Char) : Bool :=
  c.toNat > 0x20 && c.toNat ≠ 0x7F && !"\"#<>".toList.contains c

/-! ### The scheme -/

/-- Whether a text begins with a word, in any mixture of capitals. -/
def startsWithWord (word : String) (cs : List Char) : Bool :=
  word.toList.isPrefixOf (Text.lowerAscii (cs.take word.length))

/-- The scheme in front of `://`, if there is one, and the text behind.  A text that is no longer
than this mark has no scheme. -/
def splitScheme (cs : List Char) : Except UriFault (Option String × List Char) :=
  if cs.length ≤ 3 then .ok (none, cs)
  else if startsWithWord "http://" cs then .ok (some "http", cs.drop 7)
  else if startsWithWord "https://" cs then .ok (some "https", cs.drop 8)
  else
    let scheme := cs.takeWhile isSchemeChar
    match cs.dropWhile isSchemeChar with
    | ':' :: '/' :: '/' :: rest =>
      if scheme.length > maxSchemeLength then .error .schemeTooLong
      else .ok (some (String.ofList scheme), rest)
    | _ => .ok (none, cs)

/-! ### The authority -/

/-- What has been seen of an authority: the colons since the last user or address, brackets, percent
signs outside of a user, and whether the last character was the sign behind a user. -/
structure AuthorityScan where
  colons : Nat
  opened : Bool
  closed : Bool
  percent : Bool
  endsWithUser : Bool

/-- One character of an authority. -/
def AuthorityScan.step (scan : AuthorityScan) (c : Char) : Except UriFault AuthorityScan :=
  let scan := { scan with endsWithUser := false }
  if c = ':' then
    if scan.colons ≥ 8 then .error .badAuthority else .ok { scan with colons := scan.colons + 1 }
  else if c = '[' then
    if scan.percent || scan.opened then .error .badAuthority else .ok { scan with opened := true }
  else if c = ']' then
    if !scan.opened || scan.closed then .error .badAuthority
    else .ok { scan with closed := true, colons := 0, percent := false }
  else if c = '@' then .ok { scan with colons := 0, percent := false, endsWithUser := true }
  else if c = '%' then .ok { scan with percent := true }
  else if isAuthorityChar c then .ok scan
  else .error .badCharacter

/-- Splits off the authority, which ends before a slash, a question mark or a hash. -/
def splitAuthority (cs : List Char) : Except UriFault (List Char × List Char) := do
  let inside := fun c => c ≠ '/' ∧ c ≠ '?' ∧ c ≠ '#'
  let authority := cs.takeWhile inside
  let scan ← authority.foldlM AuthorityScan.step ⟨0, false, false, false, false⟩
  if scan.opened ≠ scan.closed || scan.colons > 1 || scan.endsWithUser || scan.percent then
    .error .badAuthority
  else .ok (authority, cs.dropWhile inside)

/-! ### Path and query -/

/-- Reads what stands behind the authority: a path, a query, and a fragment that is dropped. -/
def readPath (cs : List Char) : Except UriFault (Option String × Option String) :=
  let path := cs.takeWhile fun c => c ≠ '?' ∧ c ≠ '#'
  if !path.all isPathChar then .error .badCharacter
  else
    let pathText := if path = [] then none else some (String.ofList path)
    match cs.dropWhile fun c => c ≠ '?' ∧ c ≠ '#' with
    | '?' :: rest =>
      let query := rest.takeWhile (· ≠ '#')
      if !query.all isQueryChar then .error .badCharacter
      else .ok (pathText, some (String.ofList query))
    | _ => .ok (pathText, none)

/-! ### Whole identifiers -/

/-- Reads an identifier. -/
def read (text : String) : Except UriFault Uri := do
  if text.utf8ByteSize > maxLength then throw .tooLong
  match text.toList with
  | [] => throw .empty
  | ['/'] => return ⟨none, none, some "/", none⟩
  | ['*'] => return ⟨none, none, some "*", none⟩
  | '/' :: rest =>
    let (path, query) ← readPath ('/' :: rest)
    return ⟨none, none, path, query⟩
  | cs =>
    let (scheme, rest) ← splitScheme cs
    if rest = [] then throw .empty
    let (authority, rest) ← splitAuthority rest
    match scheme with
    | none =>
      if rest ≠ [] then throw (if cs.length = 1 then .badCharacter else .badFormat)
      return ⟨none, some (String.ofList authority), none, none⟩
    | some scheme =>
      if authority = [] then throw .badFormat
      let (path, query) ← readPath rest
      return ⟨some scheme, some (String.ofList authority), path, query⟩

/-- The written form of an identifier. -/
def text (uri : Uri) : String :=
  let front := (uri.scheme.map (· ++ "://")).getD "" ++ uri.authority.getD ""
  let path := uri.path.getD (if uri.scheme.isSome || uri.query.isSome then "/" else "")
  front ++ path ++ (uri.query.map ("?" ++ ·)).getD ""

/-- The host of an identifier, without user and port. -/
def host? (uri : Uri) : Option String :=
  uri.authority.map fun authority =>
    let behindUser := (authority.toList.reverse.takeWhile (· ≠ '@')).reverse
    String.ofList <| match behindUser with
      | '[' :: rest => '[' :: rest.takeWhile (· ≠ ']') ++ [']']
      | host => host.takeWhile (· ≠ ':')

end Uri

end TelemetryAuth
