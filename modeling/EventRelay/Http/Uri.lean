import EventRelay.Text.Split
import EventRelay.Text.Utf8
import EventRelay.Url.Basic
set_option autoImplicit false

/-!
The target of a request: a path with a query, an authority alone, all of a URL, or an asterisk.
Nothing is decoded, and a fragment is dropped.
-/
namespace EventRelay

structure Uri where
  scheme : Option String
  authority : Option String
  /-- Path and query as they are written. -/
  target : String
  query : Option String
deriving DecidableEq, Repr, Inhabited

namespace Uri

/-- The path; that of a whole URL is at least a slash. -/
def path (uri : Uri) : String :=
  let written := match Text.cut? '?' uri.target with
    | some (path, _) => path
    | none => uri.target
  if written.isEmpty ∧ (uri.scheme.isSome ∨ ¬ uri.target.isEmpty) then "/" else written

/-- The host of an authority, without user and port. -/
def hostOf (authority : String) : String :=
  let cs := authority.toList
  let hostPort := (cs.reverse.takeWhile (· ≠ '@')).reverse
  match hostPort with
  | '[' :: _ => String.ofList (hostPort.takeWhile (· ≠ ']') ++ [']'])
  | _ => String.ofList (hostPort.takeWhile (· ≠ ':'))

def host? (uri : Uri) : Option String := uri.authority.map hostOf

/-- Characters of an authority besides those with a meaning of their own. -/
def isPlain (c : Char) : Bool :=
  c.isAlphanum ||
    ['!', '$', '&', '\'', '(', ')', '*', '+', ',', '-', '.', ';', '=', '_', '~'].contains c

/-- What has been seen of an authority. -/
structure Seen where
  colons : Nat
  opened : Bool
  closed : Bool
  percent : Bool
  lastAt : Bool

/-- Looks at a character of an authority. -/
def see (seen : Seen) (c : Char) : Option Seen :=
  let seen := { seen with lastAt := c == '@' }
  match c with
  | ':' => if 8 ≤ seen.colons then none else some { seen with colons := seen.colons + 1 }
  | '[' => if seen.percent ∨ seen.opened then none else some { seen with opened := true }
  | ']' =>
    if ¬ seen.opened ∨ seen.closed then none
    else some { seen with closed := true, colons := 0, percent := false }
  | '@' => some { seen with colons := 0, percent := false }
  | '%' => some { seen with percent := true }
  | c => if isPlain c then some seen else none

/-- Whether a text is an authority: at most one colon outside brackets and user, brackets in a
pair, no percent sign in the host. -/
def isAuthority (cs : List Char) : Bool :=
  match cs.foldl (fun seen c => seen.bind (see · c)) (some ⟨0, false, false, false, false⟩) with
  | some seen => seen.opened == seen.closed && seen.colons ≤ 1 && !seen.lastAt && !seen.percent
  | none => false

def isPathChar (c : Char) : Bool :=
  let n := c.toNat
  n == 0x21 || n == 0x22 || (0x24 ≤ n && n ≤ 0x3B) || n == 0x3D || (0x40 ≤ n && n ≤ 0x5F)
    || (0x61 ≤ n && n ≤ 0x7E) || 0x80 ≤ n || n == 0x7F

def isQueryChar (c : Char) : Bool :=
  let n := c.toNat
  n == 0x21 || (0x24 ≤ n && n ≤ 0x3B) || n == 0x3D || 0x3F ≤ n

/-- A path and a query, up to a fragment. -/
def target? (cs : List Char) : Option (String × Option String) :=
  let cs := cs.takeWhile (· ≠ '#')
  let path := cs.takeWhile (· ≠ '?')
  if ¬ path.all isPathChar then none
  else
    match cs.dropWhile (· ≠ '?') with
    | [] => some (String.ofList cs, none)
    | _ :: query =>
      if query.all isQueryChar then some (String.ofList cs, some (String.ofList query)) else none

/-- The scheme of a whole URL, and what follows its two slashes. -/
def scheme? (cs : List Char) : Option (String × List Char) :=
  match cs.dropWhile Url.isSchemeChar with
  | ':' :: '/' :: '/' :: rest => some (String.ofList (cs.takeWhile Url.isSchemeChar), rest)
  | _ => none

/-- The target that a text writes. -/
def parse? (text : String) : Option Uri :=
  if 65534 < text.utf8ByteSize then none
  else
    match text.toList with
    | [] => none
    | ['*'] => some ⟨none, none, "*", none⟩
    | '/' :: rest => (target? ('/' :: rest)).map fun (target, query) => ⟨none, none, target, query⟩
    | cs =>
      match scheme? cs with
      | none => if isAuthority cs then some ⟨none, some text, "", none⟩ else none
      | some (scheme, rest) =>
        let isEnd := fun c => c == '/' || c == '?' || c == '#'
        let authority := rest.takeWhile fun c => !isEnd c
        if 64 < scheme.length ∨ authority.isEmpty ∨ ¬ isAuthority authority then none
        else
          (target? (rest.dropWhile fun c => !isEnd c)).map fun (target, query) =>
            ⟨some scheme, some (String.ofList authority), target, query⟩

end Uri
end EventRelay
