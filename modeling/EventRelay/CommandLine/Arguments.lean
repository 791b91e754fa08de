import EventRelay.Text.Split
set_option autoImplicit false

/-!
Arguments of a command line: options with values, and words. An option is given once at most; its
value follows it or is joined to it, and never looks like an option itself.
-/
namespace EventRelay.CommandLine

/-- An option that takes a value. -/
structure Choice where
  name : String
  short : Option Char
deriving DecidableEq, Repr

inductive Argument where
  /-- Two dashes alone: only words follow. -/
  | divider
  | long (name : String) (value : Option String)
  | short (letter : Char) (rest : String)
  | word (text : String)
deriving DecidableEq, Repr

def splitValue (cs : List Char) : String × Option String :=
  let name := String.ofList (cs.takeWhile (· != '='))
  match cs.dropWhile (· != '=') with
  | [] => (name, none)
  | _ :: value => (name, some (String.ofList value))

/-- Tells how an argument looks; a dash alone is a word. -/
def Argument.of (text : String) : Argument :=
  match text.toList with
  | ['-', '-'] => .divider
  | '-' :: '-' :: rest => let (name, value) := splitValue rest; .long name value
  | '-' :: letter :: rest => .short letter (String.ofList rest)
  | _ => .word text

/-- Why the arguments are no command. -/
inductive Stop where
  /-- Help is asked for. -/
  | help
  /-- The version is asked for. -/
  | version
  | misuse
deriving DecidableEq, Repr

/-- The options and words read so far. -/
structure Taken where
  values : List (String × String)
  words : List String
deriving DecidableEq, Repr

namespace Taken

def nothing : Taken := ⟨[], []⟩

def value? (taken : Taken) (name : String) : Option String := taken.values.lookup name

/-- Adds an option that was not given before. -/
def withValue (taken : Taken) (name value : String) : Except Stop Taken :=
  if (taken.value? name).isSome then .error .misuse
  else .ok { taken with values := taken.values ++ [(name, value)] }

/-- Adds a word while there are not too many. -/
def withWord (taken : Taken) (most : Nat) (word : String) : Except Stop Taken :=
  if taken.words.length < most then .ok { taken with words := taken.words ++ [word] }
  else .error .misuse

end Taken

/-- What can stand on a command line up to the place where it ends. -/
structure Layout where
  choices : List Choice
  /-- How many words there can be. -/
  most : Nat
  /-- The words that end this part and belong to the next. -/
  ends : List String
  /-- Whether the version can be asked for. -/
  versioned : Bool

namespace Layout

/-- The value joined to a letter; an equals sign between them is left out. -/
def joined (rest : String) : Option String :=
  match rest.toList with
  | [] => none
  | '=' :: value => some (String.ofList value)
  | _ => some rest

/-- The option that an argument stands for, with the value joined to it. -/
def choice? (layout : Layout) : Argument → Except Stop (String × Option String)
  | .long "help" none => .error .help
  | .long name value =>
    match layout.choices.find? (·.name == name) with
    | some choice => .ok (choice.name, value)
    | none =>
      .error (if layout.versioned ∧ name = "version" ∧ value.isNone then .version else .misuse)
  | .short 'h' _ => .error .help
  | .short letter rest =>
    match layout.choices.find? (·.short == some letter) with
    | some choice => .ok (choice.name, joined rest)
    | none => .error (if layout.versioned ∧ letter = 'V' then .version else .misuse)
  | _ => .error .misuse

def takeWords (layout : Layout) (words : List String) (taken : Taken) : Except Stop Taken :=
  words.foldlM (fun (taken : Taken) word => taken.withWord layout.most word) taken

/-- Reads arguments, and gives what was read and the arguments of the next part. -/
def read (layout : Layout) : List String → Taken → Except Stop (Taken × List String)
  | [], taken => .ok (taken, [])
  | text :: rest, taken =>
    if text ∈ layout.ends then .ok (taken, text :: rest)
    else
      match Argument.of text with
      | .divider => (layout.takeWords rest taken).map (·, [])
      | .word word =>
        match taken.withWord layout.most word with
        | .ok taken => layout.read rest taken
        | .error stop => .error stop
      | argument =>
        match layout.choice? argument with
        | .error stop => .error stop
        | .ok (name, some value) =>
          match taken.withValue name value with
          | .ok taken => layout.read rest taken
          | .error stop => .error stop
        | .ok (name, none) =>
          match rest with
          | [] => .error .misuse
          | next :: rest =>
            match Argument.of next with
            | .word value =>
              match taken.withValue name value with
              | .ok taken => layout.read rest taken
              | .error stop => .error stop
            | _ => .error .misuse

end Layout
end EventRelay.CommandLine
