import EventRelay.Text.Split
set_option autoImplicit false

/-!
Absolute URLs in their parts, and their one written form.
-/
namespace EventRelay

inductive Url.Host where
  /-- A name in ASCII; empty for a local file. -/
  | domain (name : String)
  /-- An address of 32 bits. -/
  | ipv4 (address : Nat)
  /-- An address of eight pieces of 16 bits. -/
  | ipv6 (pieces : List Nat)
deriving DecidableEq, Repr

inductive Url.Path where
  /-- Text without structure, after a scheme without an authority. -/
  | opaqueText (text : String)
  | segments (parts : List String)
deriving DecidableEq, Repr

structure Url where
  scheme : String
  username : String
  password : Option String
  host : Option Url.Host
  port : Option Nat
  path : Url.Path
  query : Option String
  fragment : Option String
deriving DecidableEq, Repr

namespace Url

/-- Characters of a scheme after its first letter. -/
def isSchemeChar (c : Char) : Bool := c.isAlphanum || c == '+' || c == '-' || c == '.'

/-- Why a text is no URL. -/
inductive Error where
  | emptyHost
  | domainName
  | port
  | ipv4
  | ipv6
  | domainCharacter
  | noScheme
deriving DecidableEq, Repr

def Error.message : Error → String
  | .emptyHost => "empty host"
  | .domainName => "invalid international domain name"
  | .port => "invalid port number"
  | .ipv4 => "invalid IPv4 address"
  | .ipv6 => "invalid IPv6 address"
  | .domainCharacter => "invalid domain character"
  | .noScheme => "relative URL without a base"

/-- The port that a scheme has when none is written. -/
def defaultPort? (scheme : String) : Option Nat :=
  match scheme with
  | "http" | "ws" => some 80
  | "https" | "wss" => some 443
  | "ftp" => some 21
  | _ => none

/-- Schemes whose URLs have a host and a path with slashes. -/
def isSpecial (scheme : String) : Bool := scheme == "file" || (defaultPort? scheme).isSome

def isCallable (url : Url) : Bool := url.scheme == "http" || url.scheme == "https"

def ipv4Text (address : Nat) : String :=
  ".".intercalate ([address / 0x1000000, address / 0x10000, address / 0x100, address].map
    fun n => toString (n % 256))

/-- How many pieces at the start are zero. -/
def zeroRun (pieces : List Nat) : Nat := (pieces.takeWhile (· = 0)).length

/-- Start and length of the first longest run of zeros. -/
def longestZeros : Nat → List Nat → Nat × Nat
  | _, [] => (0, 0)
  | start, piece :: rest =>
    let here := zeroRun (piece :: rest)
    let (later, length) := longestZeros (start + 1) rest
    if here = 0 ∨ here < length then (later, length) else (start, here)

def piecesText (pieces : List Nat) : String :=
  ":".intercalate (pieces.map fun n => String.ofList (Nat.toDigits 16 n))

/-- An address of eight pieces, the longest run of at least two zeros written as two colons. -/
def ipv6Text (pieces : List Nat) : String :=
  let (start, length) := longestZeros 0 pieces
  if length < 2 then piecesText pieces
  else piecesText (pieces.take start) ++ "::" ++ piecesText (pieces.drop (start + length))

def Host.text : Host → String
  | .domain name => name
  | .ipv4 address => ipv4Text address
  | .ipv6 pieces => "[" ++ ipv6Text pieces ++ "]"

def Path.text : Path → String
  | .opaqueText text => text
  | .segments parts => String.join (parts.map ("/" ++ ·))

def userText (url : Url) : String :=
  match url.username, url.password with
  | "", none => ""
  | name, none => name ++ "@"
  | name, some password => name ++ ":" ++ password ++ "@"

/-- What stands between the scheme and the path. -/
def authorityText (url : Url) : String :=
  match url.host with
  | some host =>
    "//" ++ url.userText ++ host.text ++ (url.port.map fun n => ":" ++ toString n).getD ""
  | none =>
    match url.path with
    | .segments ("" :: _ :: _) => "/."
    | _ => ""

def textWithoutFragment (url : Url) : String :=
  url.scheme ++ ":" ++ url.authorityText ++ url.path.text
    ++ (url.query.map ("?" ++ ·)).getD ""

def text (url : Url) : String :=
  url.textWithoutFragment ++ (url.fragment.map ("#" ++ ·)).getD ""

end Url
end EventRelay
