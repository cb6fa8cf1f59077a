import ProcedureAudit.Database.HostNumber
import ProcedureAudit.Number.Numeral
import ProcedureAudit.Text.Utf8

/-!
# Addresses of databases

An address is written as a URL: a scheme, then, after two slashes, a user and a password before an
at sign, a host and a port, and then a path that names the database.  User and password are
percent-encoded.  Whatever is left out has a default.
-/

namespace ProcedureAudit

/-- Where a database is, and as whom to connect to it. -/
structure Address where
  host : Text
  port : Nat
  user : Text
  password : Text
  database : Option Text
deriving DecidableEq, Repr

/-- Why a text is no address. -/
inductive AddressProblem where
  | misplacedBracket
  | futureHost
  | bracketedVersionFour
  | bracketedName (host : Text)
  /-- The host part holds a character that stands for a delimiter. -/
  | disguisedDelimiter (authority : Text)
  | otherScheme (text : Text)
  | portNoNumber (port : Text)
  | portTooLong (count : Nat)
  | portOutOfRange
deriving DecidableEq, Repr

/-- A problem in words. -/
def AddressProblem.message : AddressProblem → Text
  | .misplacedBracket => "Invalid IPv6 URL"
  | .futureHost => "IPvFuture address is invalid"
  | .bracketedVersionFour => "An IPv4 address cannot be in brackets"
  | .bracketedName host => Text.quoted host ++ " does not appear to be an IPv4 or IPv6 address"
  | .disguisedDelimiter authority =>
    "netloc '" ++ authority ++ "' contains invalid characters under NFKC normalization"
  | .otherScheme text => "Expected a mysql:// URL, got: " ++ text
  | .portNoNumber port => "Port could not be cast to integer value as " ++ Text.quoted port
  | .portTooLong count => (Numeral.Problem.tooLong count).message
  | .portOutOfRange => "Port out of range 0-65535"

namespace Address

/-! ## The parts of a URL -/

/-- The text without controls and spaces at its beginning and without tabs and line ends. -/
def clean (text : Text) : Text :=
  (text.dropWhile (·.toNat ≤ 0x20)).filter fun character =>
    !(character = '\t' || character = '\r' || character = '\n')

/-- Whether a character may stand in a scheme. -/
def inScheme (character : Char) : Bool :=
  Text.isLetter character || Text.isAsciiDigit character || character = '+' ||
    character = '-' || character = '.'

/-- The scheme in small letters, empty if there is none, and what follows it. -/
def splitScheme (url : Text) : Text × Text :=
  let scheme := url.takeWhile (· ≠ ':')
  match url.dropWhile (· ≠ ':') with
  | [] => ([], url)
  | _ :: rest =>
    if scheme.head?.any Text.isLetter && scheme.all inScheme then
      (Text.lower scheme, rest)
    else
      ([], url)

/-- Whether a character ends the part with user, host and port. -/
def endsAuthority (character : Char) : Bool :=
  character = '/' || character = '?' || character = '#'

/-- The part with user, host and port, and what follows it. -/
def splitAuthority : Text → Text × Text
  | '/' :: '/' :: rest =>
    (rest.takeWhile (!endsAuthority ·), rest.dropWhile (!endsAuthority ·))
  | rest => ([], rest)

/-- The path, which ends where a query or a fragment begins. -/
def pathOf (rest : Text) : Text :=
  rest.takeWhile fun character => !(character = '?' || character = '#')

/-- What stands before the last at sign, if there is one, and what stands after it. -/
def splitUser (authority : Text) : Option Text × Text :=
  match Text.splitAtLast? '@' authority with
  | some (credentials, place) => (some credentials, place)
  | none => (none, authority)

/-- The text before the first colon, and the text after it. -/
def splitColon (text : Text) : Text × Text :=
  (text.takeWhile (· ≠ ':'), (text.dropWhile (· ≠ ':')).drop 1)

/-- A host that is set off by brackets must be a number of version six or later. -/
def checkNumber (host : Text) : Except AddressProblem Unit :=
  if host.head? = some 'v' then
    if HostNumber.isVersionFuture host then .ok () else .error .futureHost
  else if HostNumber.isVersionFour host then
    .error .bracketedVersionFour
  else if HostNumber.isVersionSix host then
    .ok ()
  else
    .error (.bracketedName host)

/--
If there are brackets, there must be both of them, and nothing may stand between them and the
delimiters around the host.
-/
def checkBrackets (authority : Text) : Except AddressProblem Unit :=
  if '[' ∈ authority ∧ ']' ∈ authority then
    let place := (splitUser authority).2
    match place.dropWhile (· ≠ '[') with
    | [] => checkNumber (splitColon place).1
    | _ :: rest =>
      let port := (rest.dropWhile (· ≠ ']')).drop 1
      if place.head? ≠ some '[' || !port.head?.all (· = ':') then
        .error .misplacedBracket
      else
        checkNumber (rest.takeWhile (· ≠ ']'))
  else if '[' ∈ authority ∨ ']' ∈ authority then
    .error .misplacedBracket
  else
    .ok ()

/-- Code points of characters that are compatible with a text that holds a delimiter. -/
def disguises : List Nat :=
  [ 0x2047, 0x2048, 0x2049, 0x2100, 0x2101, 0x2105, 0x2106, 0x2A74, 0xFE13, 0xFE16, 0xFE55,
    0xFE56, 0xFE5F, 0xFE6B, 0xFF03, 0xFF0F, 0xFF1A, 0xFF1F, 0xFF20 ]

/-- No character may stand for a delimiter. -/
def checkDisguises (authority : Text) : Except AddressProblem Unit :=
  if authority.any fun character => character.toNat ∈ disguises then
    .error (.disguisedDelimiter authority)
  else
    .ok ()

/-- A URL in its parts. -/
structure Parts where
  scheme : Text
  authority : Text
  path : Text
deriving DecidableEq, Repr

/-- Take a URL apart. -/
def split (text : Text) : Except AddressProblem Parts :=
  let (scheme, rest) := splitScheme (clean text)
  let (authority, rest) := splitAuthority rest
  match checkBrackets authority with
  | .error problem => .error problem
  | .ok _ =>
    match checkDisguises authority with
    | .error problem => .error problem
    | .ok _ => .ok { scheme, authority, path := pathOf rest }

/-! ## Host and port -/

/-- Host and port as they are written; brackets around the host are dropped. -/
def splitPlace (place : Text) : Text × Text :=
  match place.dropWhile (· ≠ '[') with
  | [] => splitColon place
  | _ :: rest =>
    (rest.takeWhile (· ≠ ']'), (splitColon ((rest.dropWhile (· ≠ ']')).drop 1)).2)

/-- The host in lower case, except for a zone after a percent sign. -/
def hostName (host : Text) : Text :=
  Text.lower (host.takeWhile (· ≠ '%')) ++ host.dropWhile (· ≠ '%')

/-- The number of a port; no port and the port zero are left to the default. -/
def portNumber (port : Text) : Except AddressProblem (Option Nat) :=
  if port.isEmpty then
    .ok none
  else if !port.all Text.isAsciiDigit then
    .error (.portNoNumber port)
  else if Numeral.digitLimit < port.length then
    .error (.portTooLong port.length)
  else
    let number := Text.natOfDigits port
    if 65535 < number then
      .error .portOutOfRange
    else
      .ok (if number = 0 then none else some number)

/-- The octet that two hexadecimal digits denote. -/
def hexOctet? (high low : Char) : Option UInt8 :=
  (Text.natOfDigits? 16 [high, low]).map UInt8.ofNat

/-- The octets of a percent-encoded text; a percent sign without two digits stands for itself. -/
def percentOctets : Text → List UInt8
  | '%' :: high :: low :: rest =>
    match hexOctet? high low with
    | some octet => octet :: percentOctets rest
    | none => String.utf8EncodeChar '%' ++ percentOctets (high :: low :: rest)
  | character :: rest => String.utf8EncodeChar character ++ percentOctets rest
  | [] => []

/-- Decode a percent-encoded text. -/
def percentDecode (text : Text) : Text :=
  Utf8.decodeLenient (percentOctets text)

/-! ## Addresses -/

/-- The text, or another one in place of the empty text. -/
def orDefault (fallback text : Text) : Text :=
  if text.isEmpty then fallback else text

/-- The schemes of a database address. -/
def schemes : List Text :=
  ["mysql".toList, "mysql+aiomysql".toList]

/-- The port of a database that names none. -/
def defaultPort : Nat :=
  3306

/-- The address that a text denotes. -/
def parse (text : Text) : Except AddressProblem Address :=
  match split text with
  | .error problem => .error problem
  | .ok parts =>
    if !schemes.any (· = parts.scheme) then
      .error (.otherScheme text)
    else
      let (credentials, place) := splitUser parts.authority
      let (user, password) := splitColon (credentials.getD [])
      let (host, port) := splitPlace place
      match portNumber port with
      | .error problem => .error problem
      | .ok port =>
        let database := parts.path.dropWhile (· = '/')
        .ok
          { host := orDefault "localhost" (hostName host)
            port := port.getD defaultPort
            user := percentDecode (orDefault "root" user)
            password := percentDecode password
            database := if database.isEmpty then none else some database }

end Address

end ProcedureAudit
