import TelemetryAuth.Credential.Provider
import TelemetryAuth.Json.Read
import TelemetryAuth.PrivateKey.Armor
import TelemetryAuth.PrivateKey.Rsa

/-!
# Credentials from a key file

The default credentials of an application may come from a file with the key of a service account: a
JSON object with a private key, an address, a token endpoint and possibly a project (or an array of
these, the project first).  Other members are passed over.  The file is read from the front, so the
first fault in the text is the one that is reported, at the place where it was noticed.

A credential from such a file exists as soon as the file is well formed and its private key is fit
for signatures.  Its project is the one in the file; `Found.withFallback` fills in a missing
project, and every fetch of a token fails, because the time limit of a fetch cannot be set up on the
thread that makes it.
-/

namespace TelemetryAuth.KeyFile

open Json

/-- The key of a service account. -/
structure ServiceAccount where
  project : Option String
  privateKey : String
  clientEmail : String
  tokenUri : String
  deriving DecidableEq

/-- Why there is no credential in a file: there is no file, its text is no account, the private key
cannot be unpacked, or it is unfit for signatures. -/
inductive Fault
  | missingFile
  | malformed (message : String)
  | badPrivateKey (fault : Armor.Fault)
  | unfitPrivateKey
  deriving DecidableEq

/-- The wording of a fault in the characters of a private key. -/
def base64Message : Base64.Fault → String
  | .badCharacter byte => "InvalidCharacter(" ++ toString byte.toNat ++ ")"
  | .earlyPadding => "PrematurePadding"
  | .badPadding => "InvalidTrailingPadding"

/-- Bytes in the wording of a fault: their numbers in brackets. -/
def bytesText (bytes : List UInt8) : String :=
  "[" ++ ", ".intercalate (bytes.map fun byte => toString byte.toNat) ++ "]"

/-- The wording of a fault in the armor of a private key. -/
def armorMessage : Armor.Fault → String
  | .badOpening line => "illegal section start: " ++ bytesText line
  | .unclosed label => "missing section end marker: " ++ bytesText label
  | .badBytes fault => "base64 decode error: " ++ base64Message fault
  | .noSection => "no items found"

/-- The wording of a fault. -/
def Fault.message : Fault → String
  | .missingFile =>
    "failed to open application credentials file: No such file or directory (os error 2)"
  | .malformed message => "failed to deserialize ApplicationCredentials: " ++ message
  | .badPrivateKey fault => "failed to parse PKCS#8 RSA key pair: " ++ armorMessage fault
  | .unfitPrivateKey => "invalid private key in credentials"

/-! ### Reading members of the expected type -/

/-- The name of the record that a file holds. -/
def recordName : String := "struct ServiceAccountKey"

/-- The wording for a value of another type than the expected one. -/
def wrongType (found expected : String) : Json.Fault :=
  .other ("invalid type: " ++ found ++ ", expected " ++ expected)

/-- A number in the wording of a wrong type. -/
def numberText (number : Number) : String :=
  match number with
  | .integer _ => "integer \x60" ++ number.text ++ "\x60"
  | .decimal _ _ _ => "floating point \x60" ++ number.text ++ "\x60"

/-- The failure for a value that is not of the expected type. -/
def failType {α : Type} (expected : String) (cs : List Char) : Except Failure α :=
  match cs with
  | '"' :: rest => do
    let (chars, rest) ← readString .keep .plain rest
    failHere (wrongType ("string " ++ Text.quote (String.ofList chars)) expected) rest
  | '[' :: _ => failAhead (wrongType "sequence" expected) cs
  | '\x7b' :: _ => failAhead (wrongType "map" expected) cs
  | 'n' :: rest => do failHere (wrongType "null" expected) (← readWord "ull".toList rest)
  | 't' :: rest => do
    failHere (wrongType "boolean \x60true\x60" expected) (← readWord "rue".toList rest)
  | 'f' :: rest => do
    failHere (wrongType "boolean \x60false\x60" expected) (← readWord "alse".toList rest)
  | '-' :: rest => do
    let (size, rest) ← readNumber .keep true rest
    failAhead (wrongType (numberText size) expected) rest
  | [] => failAhead .endInValue []
  | c :: _ =>
    if c.isDigit then do
      let (size, rest) ← readNumber .keep false cs
      failAhead (wrongType (numberText size) expected) rest
    else failAhead .noValue cs

/-- A string member. -/
def readText (cs : List Char) : Except Failure (String × List Char) :=
  match skipBlanks cs with
  | '"' :: rest =>
    (readString .keep .plain rest).map fun (chars, rest) => (String.ofList chars, rest)
  | rest => failType "a string" rest

/-- A string member that may be null. -/
def readOptionalText (cs : List Char) : Except Failure (Option String × List Char) :=
  match skipBlanks cs with
  | 'n' :: rest => (readWord "ull".toList rest).map fun rest => (none, rest)
  | rest => (readText rest).map fun (text, rest) => (some text, rest)

/-! ### Records -/

/-- The members read so far; the project is there once, even if it is null. -/
structure Members where
  project : Option (Option String)
  privateKey : Option String
  clientEmail : Option String
  tokenUri : Option String

/-- The failure for a member that occurs twice. -/
def failTwice {α : Type} (name : String) (rest : List Char) : Except Failure α :=
  failAhead (.other ("duplicate field \x60" ++ name ++ "\x60")) (skipBlanks rest)

/-- The colon behind the name of a member. -/
def readColon (cs : List Char) : Except Failure (List Char) :=
  match skipBlanks cs with
  | ':' :: rest => .ok rest
  | [] => failAhead .endInObject []
  | rest => failAhead .noColon rest

/-- The value of one member, and the members with it. -/
def readMember (members : Members) (name : String) (cs : List Char) :
    Except Failure (Members × List Char) := do
  match name with
  | "project_id" =>
    if members.project.isSome then failTwice name cs
    let (value, rest) ← readOptionalText (← readColon cs)
    return ({ members with project := some value }, rest)
  | "private_key" =>
    if members.privateKey.isSome then failTwice name cs
    let (value, rest) ← readText (← readColon cs)
    return ({ members with privateKey := some value }, rest)
  | "client_email" =>
    if members.clientEmail.isSome then failTwice name cs
    let (value, rest) ← readText (← readColon cs)
    return ({ members with clientEmail := some value }, rest)
  | "token_uri" =>
    if members.tokenUri.isSome then failTwice name cs
    let (value, rest) ← readText (← readColon cs)
    return ({ members with tokenUri := some value }, rest)
  | _ =>
    let rest ← readColon cs
    let (_, rest) ← readValue .pass (rest.length + 1) rest
    return (members, rest)

/-- The members of an object up to its closing brace, and the text from the brace on. -/
def readMembers : Nat → Bool → Members → List Char → Except Failure (Members × List Char)
  | 0, _, _, cs => failHere .noValue cs
  | size + 1, first, members, cs =>
    let member (rest : List Char) : Except Failure (Members × List Char) := do
      let (name, rest) ← readString .keep .plain rest
      let (members, rest) ← readMember members (String.ofList name) rest
      readMembers size false members rest
    match skipBlanks cs, first with
    | '\x7d' :: rest, _ => .ok (members, '\x7d' :: rest)
    | [], _ => failAhead .endInObject []
    | '"' :: rest, true => member rest
    | rest, true => failAhead .keyNotString rest
    | ',' :: rest, false =>
      match skipBlanks rest with
      | '"' :: rest => member rest
      | '\x7d' :: rest => failAhead .trailingComma ('\x7d' :: rest)
      | [] => failAhead .endInValue []
      | rest => failAhead .keyNotString rest
    | rest, false => failAhead .noCommaInObject rest

/-- A member that must be there, or a failure behind the object. -/
def required {α : Type} (name : String) (value : Option α) (rest : List Char) : Except Failure α :=
  match value with
  | some value => .ok value
  | none => failHere (.other ("missing field \x60" ++ name ++ "\x60")) rest

/-- The record of an object from behind its opening brace on. -/
def readObject (cs : List Char) : Except Failure (ServiceAccount × List Char) := do
  let (members, rest) ← readMembers (cs.length + 1) true ⟨none, none, none, none⟩ cs
  let rest := rest.drop 1
  let privateKey ← required "private_key" members.privateKey rest
  let clientEmail ← required "client_email" members.clientEmail rest
  let tokenUri ← required "token_uri" members.tokenUri rest
  return (⟨members.project.join, privateKey, clientEmail, tokenUri⟩, rest)

/-- The next item of an array, of which `index` have been read. -/
def readItem {α : Type} (read : List Char → Except Failure (α × List Char)) (index : Nat)
    (cs : List Char) : Except Failure (α × List Char) :=
  let short := Json.Fault.other
    ("invalid length " ++ toString index ++ ", expected " ++ recordName ++ " with 4 elements")
  match skipBlanks cs with
  | ']' :: rest => failHere short rest
  | [] => failAhead .endInList []
  | rest =>
    if index = 0 then read rest
    else match rest with
      | ',' :: rest =>
        match skipBlanks rest with
        | ']' :: rest => failAhead .trailingComma (']' :: rest)
        | [] => failAhead .endInValue []
        | rest => read rest
      | rest => failAhead .noCommaInList rest

/-- The record of an array from behind its opening bracket on. -/
def readArray (cs : List Char) : Except Failure (ServiceAccount × List Char) := do
  let (project, rest) ← readItem readOptionalText 0 cs
  let (privateKey, rest) ← readItem readText 1 rest
  let (clientEmail, rest) ← readItem readText 2 rest
  let (tokenUri, rest) ← readItem readText 3 rest
  match skipBlanks rest with
  | ']' :: rest => return (⟨project, privateKey, clientEmail, tokenUri⟩, rest)
  | ',' :: rest =>
    match skipBlanks rest with
    | ']' :: rest => failAhead .trailingComma (']' :: rest)
    | rest => failAhead .trailingCharacters rest
  | [] => failAhead .endInList []
  | rest => failAhead .trailingCharacters rest

/-- The record at the front of a text. -/
def readRecord (cs : List Char) : Except Failure (ServiceAccount × List Char) :=
  match skipBlanks cs with
  | '\x7b' :: rest => readObject rest
  | '[' :: rest => readArray rest
  | rest => failType recordName rest

/-- The label of the section that holds a private key. -/
def keyLabel : String := "PRIVATE KEY"

/-- The numbers of a private key that is fit for signatures. -/
def readKey (privateKey : String) : Except Fault RsaKey :=
  match Armor.firstSection keyLabel privateKey with
  | .error fault => .error (.badPrivateKey fault)
  | .ok bytes =>
    match RsaKey.ofBytes? bytes with
    | some key => .ok key
    | none => .error .unfitPrivateKey

/-- Reads the text of a file. -/
def read (text : String) : Except Fault ServiceAccount :=
  let cs := text.toList
  let record : Except Failure ServiceAccount := do
    let (account, rest) ← readRecord cs
    readEnd rest
    return account
  match record with
  | .error failure => .error (.malformed (failure.message cs))
  | .ok account => (readKey account.privateKey).map fun _ => account

/-! ### Credentials -/

/-- The back end of a key file: no fetch succeeds. -/
def backend : Backend := fun _ => .failure "token refresh thread panicked"

/-- The project that a key file reports, and what was logged while it was looked for. -/
structure Found where
  project : Option String
  log : List Log.Entry

/-- The entry that records a key file without a project. -/
def noProjectEntry : Log.Entry :=
  .withMessage .warn (Credential.logTarget ++ "::adc") "Credentials do not report a project id"
    [("error", .shown "no project ID in application credentials")]

/-- Looks for a credential in a file; `none` if there is no file. -/
def find (file : Option String) : Except CredentialError Found :=
  let account : Except Fault ServiceAccount := match file with
    | none => .error .missingFile
    | some text => read text
  match account with
  | .error fault => .error (.noIdentity fault.message)
  | .ok account =>
    .ok ⟨account.project, if account.project.isSome then [] else [noProjectEntry]⟩

/-- The project option, which is asked for only if the file reports no project. -/
def fallbackProject? (reported : Option String) (process : Environment) (properties : Properties) :
    Option String :=
  match reported with
  | some _ => none
  | none => (RequiredOption.project.value process properties).toOption

/-- The credential with another project, if one is given. -/
def Found.withProject (found : Found) (project : Option String) : Found :=
  { found with project := project.or found.project }

/-- The credential with the project option in place of a missing project. -/
def Found.withFallback (found : Found) (process : Environment)
    (properties : Properties) : Found :=
  found.withProject (fallbackProject? found.project process properties)

/-- A provider of tokens for the credential. -/
def Found.provider (found : Found) : Except CredentialError Provider :=
  Provider.create found.project backend

end TelemetryAuth.KeyFile
