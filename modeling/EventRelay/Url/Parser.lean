import EventRelay.Url.Host
set_option autoImplicit false

/-!
Reading an absolute URL: blanks and controls around it and tabs and line ends inside it do not
count, then come the scheme, an authority after two slashes, the path, a query and a fragment.
-/
namespace EventRelay.Url

def isControlOrSpace (c : Char) : Bool := c.toNat ≤ 0x20

def counted (text : String) : List Char :=
  let inner := ((text.toList.dropWhile isControlOrSpace).reverse.dropWhile isControlOrSpace).reverse
  inner.filter fun c => c ≠ '\t' ∧ c ≠ '\n' ∧ c ≠ '\r'

/-- The scheme in lower case, and what follows its colon. -/
def scheme? (cs : List Char) : Option (String × List Char) :=
  match cs.head?, cs.dropWhile isSchemeChar with
  | some c, ':' :: rest =>
    if c.isAlpha then
      some (Text.lower (String.ofList (cs.takeWhile isSchemeChar)), rest)
    else none
  | _, _ => none

def keptInFragment (c : Char) : Bool :=
  isNoControl c && !([' ', '"', '<', '>', '\x60'].contains c)

/-- Characters that stand for themselves in a path. -/
def keptInPath (c : Char) : Bool :=
  keptInFragment c && !(['#', '?', '\x7b', '\x7d'].contains c)

def keptInUser (c : Char) : Bool :=
  keptInPath c && !(['/', ':', ';', '=', '@', '[', '\\', ']', '^', '|'].contains c)

def keptInQuery (special : Bool) (c : Char) : Bool :=
  isNoControl c && !([' ', '"', '#', '<', '>'].contains c) && !(special && c == '\'')

/-- Characters as text, what is not kept written by its bytes. -/
def escaped (kept : Char → Bool) (cs : List Char) : String := Percent.encode kept (String.ofList cs)

/-- Slashes; special schemes take a backslash for one. -/
def isSlash (special : Bool) (c : Char) : Bool := c == '/' || (special && c == '\\')

/-- Where an authority or a path ends. -/
def isQueryOrFragment (c : Char) : Bool := c == '?' || c == '#'

/-- The query and the fragment that the rest of a URL holds. -/
def queryAndFragment (special : Bool) (rest : List Char) : Option String × Option String :=
  let fragment := match rest.dropWhile (· ≠ '#') with
    | _ :: fragment => some (escaped keptInFragment fragment)
    | [] => none
  match rest with
  | '?' :: rest => (some (escaped (keptInQuery special) (rest.takeWhile (· ≠ '#'))), fragment)
  | _ => (none, fragment)

/-- A point, as such or written by its byte. -/
def dotForms : List String := [".", "%2e"]

/-- A segment that stands for its own directory. -/
def isSingleDot (segment : String) : Bool := dotForms.contains (Text.lower segment)

/-- A segment that stands for the directory above. -/
def isDoubleDot (segment : String) : Bool :=
  (dotForms.flatMap fun a => dotForms.map (a ++ ·)).contains (Text.lower segment)

def isDriveLetter (segment : List Char) : Bool :=
  match segment with
  | [c, mark] => c.isAlpha && (mark == ':' || mark == '|')
  | _ => false

/-- Goes one directory up; the drive of a local file stays. -/
def shorten (local? : Bool) (path : List String) : List String :=
  match path with
  | [first] =>
    if local? ∧ isDriveLetter first.toList ∧ first.toList.getLast? = some ':' then path else []
  | path => path.dropLast

/-- Adds segments to a path, following those that are dots. -/
def walk (local? : Bool) : List String → List (List Char) → List String
  | path, [] => path
  | path, piece :: rest =>
    let segment := escaped keptInPath piece
    if isDoubleDot segment then
      let shorter := shorten local? path
      walk local? (if rest.isEmpty then shorter ++ [""] else shorter) rest
    else if isSingleDot segment then
      walk local? (if rest.isEmpty then path ++ [""] else path) rest
    else if local? ∧ path.isEmpty ∧ isDriveLetter piece then
      walk local? (path ++ [String.ofList (piece.take 1 ++ [':'])]) rest
    else walk local? (path ++ [segment]) rest

def slashPieces (special : Bool) (cs : List Char) : List (List Char) :=
  Text.piecesOf '/' (cs.map fun c => if isSlash special c then '/' else c)

/-- The segments of a path that begins after its first slash. -/
def pathSegments (special local? : Bool) (cs : List Char) : List String :=
  walk local? [] (slashPieces special cs)

def fromPath (scheme : String) (host : Option Host) (rest : List Char) : Url :=
  let special := isSpecial scheme
  let cs := rest.takeWhile fun c => !isQueryOrFragment c
  let after := rest.dropWhile fun c => !isQueryOrFragment c
  let (query, fragment) := queryAndFragment special after
  let path := match cs with
    | [] => if special then [""] else []
    | c :: more => pathSegments special (scheme == "file") (if isSlash special c then more else cs)
  ⟨scheme, "", none, host, none, .segments path, query, fragment⟩

def portAndRest (scheme : String) (cs : List Char) : Except Error (Option Nat × List Char) :=
  let digits := cs.takeWhile Char.isDigit
  let rest := cs.dropWhile Char.isDigit
  let ended : Bool := match rest with
    | [] => true
    | c :: _ => isSlash true c || isQueryOrFragment c
  match Text.number? 10 digits with
  | some n =>
    if n < Nat.pow 2 16 ∧ ended then
      .ok (if digits.isEmpty ∨ defaultPort? scheme = some n then none else some n, rest)
    else .error .port
  | none => .error .port

/-- Where the host ends: at a colon outside brackets. -/
def hostLength (inside : Bool) : List Char → Nat
  | [] => 0
  | ':' :: rest => if inside then hostLength inside rest + 1 else 0
  | '[' :: rest => hostLength true rest + 1
  | ']' :: rest => hostLength false rest + 1
  | _ :: rest => hostLength inside rest + 1

/-- User name and password before the last at-sign of an authority. -/
def userInfo (cs : List Char) : String × Option String :=
  let (name, password) := (Text.cutOf? ':' cs).getD (cs, [])
  (escaped keptInUser name, if password.isEmpty then none else some (escaped keptInUser password))

/-- What stands before and after the last at-sign. -/
def cutLastAt? (cs : List Char) : Option (List Char × List Char) :=
  (Text.cutOf? '@' cs.reverse).map fun (after, before) => (before.reverse, after.reverse)

def fromAuthority (scheme : String) (cs : List Char) : Except Error Url := do
  let special := isSpecial scheme
  let ends := fun c => isSlash special c || isQueryOrFragment c
  let authority := cs.takeWhile fun c => !ends c
  let rest := cs.dropWhile fun c => !ends c
  let user := cutLastAt? authority
  let hostAndPort := (user.map (·.2)).getD authority
  let name := hostAndPort.take (hostLength false hostAndPort)
  let afterHost := hostAndPort.drop (hostLength false hostAndPort)
  if user.isSome ∧ hostAndPort.isEmpty ∧ ((user.map (·.1)) ≠ some [] ∨ ¬ rest.isEmpty) then
    throw .emptyHost
  if name.isEmpty ∧ (special ∨ ¬ afterHost.isEmpty) then throw .emptyHost
  let found ← if special then specialHost name else opaqueHost name
  let (number, rest) ← match afterHost with
    | ':' :: digits => portAndRest scheme (digits ++ rest)
    | _ => .ok (none, rest)
  let (username, password) := (user.map fun (cs, _) => userInfo cs).getD ("", none)
  let url := fromPath scheme (some found) rest
  return { url with username, password, port := number }

def fromFile (cs : List Char) : Except Error Url :=
  match cs with
  | a :: b :: rest =>
    if isSlash true a ∧ isSlash true b then
      let ends := fun c => isSlash true c || isQueryOrFragment c
      let name := rest.takeWhile fun c => !ends c
      if isDriveLetter name then .ok (fromPath "file" (some (.domain "")) rest)
      else if name.isEmpty then .ok (fromPath "file" (some (.domain "")) rest)
      else do
        let found ← specialHost name
        let found := if found = .domain "localhost" then .domain "" else found
        return fromPath "file" (some found) (rest.dropWhile fun c => !ends c)
    else .ok (fromPath "file" (some (.domain "")) cs)
  | cs => .ok (fromPath "file" (some (.domain "")) cs)

/-- The URL after a scheme that has no host of its own. -/
def fromOther (scheme : String) (cs : List Char) : Except Error Url :=
  match cs with
  | '/' :: '/' :: rest => fromAuthority scheme rest
  | '/' :: _ => .ok (fromPath scheme none cs)
  | cs =>
    let text := cs.takeWhile fun c => !isQueryOrFragment c
    let (query, fragment) := queryAndFragment false (cs.dropWhile fun c => !isQueryOrFragment c)
    .ok ⟨scheme, "", none, none, none, .opaqueText (escaped isNoControl text), query, fragment⟩

def parse (text : String) : Except Error Url :=
  match scheme? (counted text) with
  | none => .error .noScheme
  | some (scheme, rest) =>
    if scheme = "file" then fromFile rest
    else if isSpecial scheme then fromAuthority scheme (rest.dropWhile (isSlash true))
    else fromOther scheme rest

def isUrl (text : String) : Bool := (parse text).toOption.isSome

end EventRelay.Url
