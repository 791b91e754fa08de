import EventRelay.Keyed
import EventRelay.Text.Quoted
import EventRelay.Text.Split
set_option autoImplicit false

/-!
Paths and routes as lists of segments: a slash at the start belongs to no segment, every other slash
separates two, so a slash at the end leaves an empty last segment. The routes of one table are
merged into a tree. Below every node stand either static segments, or one parameter, or one
wildcard, so that looking up never has to go back.
-/
namespace EventRelay.Route

/-- The segments of a path; the empty path and the path of one slash have none. -/
def segments (path : String) : List String :=
  if path = "/" ∨ path = "" then []
  else Text.pieces '/' ((Text.after? "/" path).getD path)

inductive Segment where
  /-- Matches itself. -/
  | static (text : String)
  /-- Matches any one segment and captures it. -/
  | param (name : String)
  /-- Matches all that is left, at least one segment, and captures it. -/
  | wildcard (name : String)
deriving DecidableEq, Repr

/-- The segment that a route spells: a colon marks a parameter, an asterisk a wildcard. -/
def Segment.ofText (text : String) : Segment :=
  match Text.after? ":" text, Text.after? "*" text with
  | some name, _ => .param name
  | none, some name => .wildcard name
  | none, none => .static text

def pattern (route : String) : List Segment := (segments route).map Segment.ofText

/-- Why a route cannot join those that are there. -/
inductive RouteError where
  | conflict (route : String)
  | parameterName (existing route : String)
  | wildcard (existing route : String)
  | staticDefined (route : String)
  | parameterDefined (route : String)
  | wildcardNotLast (route : String)
deriving DecidableEq, Repr

def RouteError.message : RouteError → String
  | .conflict route => "route " ++ route ++ " conflicts with existing route"
  | .parameterName existing route =>
    "parameter with different name (" ++ Text.quoted existing ++ ") already defined: for route: "
      ++ route
  | .wildcard existing route =>
    "wildcard with different name (" ++ Text.quoted existing ++ ") already defined: for route: "
      ++ route
  | .staticDefined route => "static route already defined for route: " ++ route
  | .parameterDefined route => "parameterized route already defined for route: " ++ route
  | .wildcardNotLast route => "wildcard must be the last segment: for route: " ++ route

/-- Captured segments by the name of their parameter. -/
abbrev Params := List (String × String)

/-- A tree of routes with a value at the end of each. -/
inductive Tree (α : Type) where
  /-- Static segments below, or nothing. -/
  | branch (value : Option α) (children : List (String × Tree α))
  /-- A parameter below. -/
  | param (value : Option α) (name : String) (child : Tree α)
  /-- A wildcard below, with its own value: a wildcard ends its route. -/
  | wildcard (value : Option α) (name : String) (rest : α)

namespace Tree

variable {α : Type}

def empty : Tree α := .branch none []

def value : Tree α → Option α
  | .branch value _ => value
  | .param value _ _ => value
  | .wildcard value _ _ => value

/-- The tree with a value for the route that ends here. -/
def withValue (new : α) : Tree α → Tree α
  | .branch _ children => .branch (some new) children
  | .param _ name child => .param (some new) name child
  | .wildcard _ name rest => .wildcard (some new) name rest

/-- Adds the rest of a route below a node. What was made on the way stays when the route is
refused. -/
def addPattern (route : String) (new : α) : List Segment → Tree α → Tree α × Option RouteError
  | [], tree =>
    match tree.value with
    | some _ => (tree, some (.conflict route))
    | none => (tree.withValue new, none)
  | .static text :: rest, .branch value children =>
    let (child, error) := addPattern route new rest ((Keyed.get? children text).getD empty)
    (.branch value (Keyed.insert children text child), error)
  | .static _ :: _, .param value name child =>
    (.param value name child, some (.parameterDefined route))
  | .static _ :: _, .wildcard value name target =>
    (.wildcard value name target, some (.wildcard name route))
  | .param name :: rest, .branch value [] =>
    let (child, error) := addPattern route new rest empty
    (.param value name child, error)
  | .param _ :: _, .branch value (child :: children) =>
    (.branch value (child :: children), some (.staticDefined route))
  | .param name :: rest, .param value existing child =>
    if existing = name then
      let (child, error) := addPattern route new rest child
      (.param value existing child, error)
    else (.param value existing child, some (.parameterName existing route))
  | .param _ :: _, .wildcard value name target =>
    (.wildcard value name target, some (.wildcard name route))
  | .wildcard _ :: _ :: _, tree => (tree, some (.wildcardNotLast route))
  | [.wildcard name], .branch value [] => (.wildcard value name new, none)
  | [.wildcard _], .branch value (child :: children) =>
    (.branch value (child :: children), some (.staticDefined route))
  | [.wildcard _], .param value name child => (.param value name child, some (.wildcard name route))
  | [.wildcard _], .wildcard value name target =>
    (.wildcard value name target, some (.wildcard name route))

/-- Adds a route with its value, unless some path could then be read in two ways. -/
def add (tree : Tree α) (route : String) (new : α) : Tree α × Option RouteError :=
  addPattern route new (pattern route) tree

/-- Follows the segments of a path down the tree. -/
def follow : List String → Tree α → Params → Option (α × Params)
  | [], tree, params => tree.value.map (·, params)
  | segment :: rest, .branch _ children, params =>
    (Keyed.get? children segment).bind (follow rest · params)
  | segment :: rest, .param _ name child, params =>
    follow rest child (Keyed.insert params name segment)
  | segment :: rest, .wildcard _ name target, params =>
    some (target, Keyed.insert params name ("/".intercalate (segment :: rest)))

/-- The value of the route that a path matches, and what its parameters capture. -/
def resolve (tree : Tree α) (path : String) : Option (α × Params) :=
  follow (segments path) tree []

end Tree
end EventRelay.Route
