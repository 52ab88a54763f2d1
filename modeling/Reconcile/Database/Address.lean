import Reconcile.Store
import Reconcile.Text.Printable
import Reconcile.Text.Utf8

/-! # The address of a database

    A database is addressed by a URL: a scheme, a host with an optional port, and options after
    a question mark.  An address that makes no sense is refused before anybody is asked to
    connect. -/

namespace Reconcile.Database.Address

/-! ## Section 1: What can be wrong -/

/-- A character of a quoted text: quotes and backslashes are escaped, and so is whatever does
    not print. -/
def escape (c : Char) : List Char :=
  match c with
  | '"' => ['\\', '"']
  | '\\' => ['\\', '\\']
  | '\t' => ['\\', 't']
  | '\r' => ['\\', 'r']
  | '\n' => ['\\', 'n']
  | '\x00' => ['\\', '0']
  | c =>
    if Text.isPrintable c then [c]
    else '\\' :: 'u' :: '{' :: (Nat.toDigits 16 c.toNat ++ ['}'])

/-- A text in quotes. -/
def quote (s : String) : String := "\"" ++ String.ofList (s.toList.flatMap escape) ++ "\""

inductive AddressError where
  /-- There is no scheme at the start. -/
  | noScheme
  /-- There is a user or a port, but no host. -/
  | noHost
  /-- What stands for the port of the host is no port. -/
  | badPort
  /-- An option that must be a number has nothing in it. -/
  | emptyNumber
  /-- An option that must be a number has something else in it. -/
  | notANumber
  /-- An option that must be a number has a number in it that is too large. -/
  | numberTooLarge
  /-- There is no such way to encrypt a connection. -/
  | unknownEncryption (text : String)
deriving DecidableEq, Repr

namespace AddressError

def message : AddressError → String
  | .noScheme => "relative URL without a base"
  | .noHost => "empty host"
  | .badPort => "invalid port number"
  | .emptyNumber => "cannot parse integer from empty string"
  | .notANumber => "invalid digit found in string"
  | .numberTooLarge => "number too large to fit in target type"
  | .unknownEncryption text => "error with configuration: unknown value " ++ quote text ++
    " for `ssl_mode`"

end AddressError

/-! ## Section 2: Scheme and host -/

def isLetter (c : Char) : Bool := ('a' ≤ c && c ≤ 'z') || ('A' ≤ c && c ≤ 'Z')

def isSchemeChar (c : Char) : Bool :=
  isLetter c || c.isDigit || c == '+' || c == '-' || c == '.'

/-- Characters that do not count at the ends of an address. -/
def isEdge (c : Char) : Bool := c.toNat ≤ 32

/-- Characters that do not count anywhere. -/
def isBreak (c : Char) : Bool := c == '\t' || c == '\n' || c == '\r'

/-- The address without what does not count in it. -/
def cleaned (s : List Char) : List Char :=
  (((s.dropWhile isEdge).reverse.dropWhile isEdge).reverse).filter (!isBreak ·)

/-- What follows the scheme and its colon. -/
def afterScheme? (s : List Char) : Option (List Char) :=
  if (s.head?.any isLetter) then
    match s.dropWhile isSchemeChar with
    | ':' :: rest => some rest
    | _ => none
  else none

/-- Characters that end the part with the host. -/
def endsAuthority (c : Char) : Bool := c == '/' || c == '?' || c == '#'

/-- The part with user, host and port, if there is one. -/
def authority? : List Char → Option (List Char)
  | '/' :: '/' :: s => some (s.takeWhile (!endsAuthority ·))
  | _ => none

/-- Host and port without the user, which ends at the last at-sign. -/
def afterUser (s : List Char) : List Char :=
  if s.contains '@' then (s.reverse.takeWhile (· != '@')).reverse else s

/-- What stands for the port.  Colons in brackets belong to the host. -/
def portText? : (inBrackets : Bool) → List Char → Option (List Char)
  | _, [] => none
  | false, ':' :: s => some s
  | b, c :: s => portText? (if c = '[' then true else if c = ']' then false else b) s

/-- The largest port. -/
def maxPort : Nat := 65535

/-- A port may be empty. -/
def isPort (s : List Char) : Bool :=
  s.all Char.isDigit && Nat.ofDigitChars 10 s 0 ≤ maxPort

/-! ## Section 3: Options -/

/-- The text between the question mark and the hash sign. -/
def query (s : List Char) : List Char :=
  ((s.takeWhile (· != '#')).dropWhile (· != '?')).drop 1

/-- A text cut at every character `c`. -/
def cutAt (c : Char) : List Char → List (List Char)
  | [] => [[]]
  | d :: s =>
    if d = c then [] :: cutAt c s
    else
      match cutAt c s with
      | [] => [[d]]
      | piece :: pieces => (d :: piece) :: pieces

/-- A plus sign stands for a space. -/
def plainByte (b : UInt8) : UInt8 := if b = 43 then 32 else b

/-- The bytes of an option, in which a plus sign stands for a space and a percent sign
    introduces the two hexadecimal digits of a byte. -/
def decodeBytes : List UInt8 → List UInt8
  | b :: h :: l :: rest =>
    if b = 37 then
      match Uuid.hexValue? (Char.ofUInt8 h), Uuid.hexValue? (Char.ofUInt8 l) with
      | some m, some n => UInt8.ofNat (m * 16 + n) :: decodeBytes rest
      | _, _ => b :: decodeBytes (h :: l :: rest)
    else plainByte b :: decodeBytes (h :: l :: rest)
  | s => s.map plainByte

/-- The text of an option. -/
def decode (s : List Char) : String :=
  String.ofList (Text.Utf8.decode (decodeBytes (String.ofList s).toUTF8.toList))

/-- Name and value of an option. -/
def option (s : List Char) : String × String :=
  (decode (s.takeWhile (· != '=')), decode ((s.dropWhile (· != '=')).drop 1))

/-- Names and values of all options in order. -/
def options (s : List Char) : List (String × String) :=
  ((cutAt '&' (query s)).filter (!·.isEmpty)).map option

/-- The digits of a number below `bound`, with an optional plus sign. -/
def checkNumber (bound : Nat) (value : String) : Except AddressError Unit :=
  if value.isEmpty then .error .emptyNumber
  else
    let digits := match value.toList with
      | '+' :: s => s
      | s => s
    match Decimal.natural? digits with
    | none => .error .notANumber
    | some n => if n < bound then .ok () else .error .numberTooLarge

/-- The ways to encrypt a connection. -/
def encryptions : List String :=
  ["DISABLE", "ALLOW", "PREFER", "REQUIRE", "VERIFY-CA", "VERIFY-FULL"]

/-- An option must make sense if it is one that is looked at. -/
def checkOption (name value : String) : Except AddressError Unit :=
  if name ∈ ["sslmode", "ssl-mode"] then
    if Text.asciiUpper value ∈ encryptions then .ok () else .error (.unknownEncryption value)
  else if name = "port" then checkNumber (maxPort + 1) value
  else if name = "statement-cache-capacity" then checkNumber (Nat.pow 2 64) value
  else .ok ()

/-- The first option that makes no sense counts. -/
def checkOptions : List (String × String) → Except AddressError Unit
  | [] => .ok ()
  | (name, value) :: rest => (checkOption name value).bind fun () => checkOptions rest

/-! ## Section 4: Addresses -/

/-- User, host and port: a user or a port needs a host, and a port must be a port. -/
def checkAuthority (a : List Char) : Except AddressError Unit :=
  let server := afterUser a
  match portText? false server with
  | none => if server.isEmpty && a.length ≥ 2 then .error .noHost else .ok ()
  | some port =>
    if server.head? = some ':' then .error .noHost
    else if isPort port then .ok ()
    else .error .badPort

/-- The part with the host must make sense if there is one. -/
def checkServer (s : List Char) : Except AddressError Unit :=
  match authority? s with
  | none => .ok ()
  | some a => checkAuthority a

/-- Checks an address. -/
def check (address : String) : Except AddressError Unit :=
  match afterScheme? (cleaned address.toList) with
  | none => .error .noScheme
  | some rest => (checkServer rest).bind fun () => checkOptions (options rest)

end Reconcile.Database.Address
