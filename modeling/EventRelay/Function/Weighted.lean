import EventRelay.Draw
import EventRelay.Function.Basic
set_option autoImplicit false

/-!
Choosing one of several functions by weight: a number from one to the sum of the weights is drawn,
and the function in whose share it falls is taken. A single function is taken without a draw.
-/
namespace EventRelay.WeightedFunction

def total (functions : List WeightedFunction) : Nat :=
  functions.foldr (fun f rest => f.weight.toNat + rest) 0

/-- The function in whose share a number falls; `before` is the sum of the shares passed. -/
def at? (chosen : Nat) : Nat → List WeightedFunction → Option FunctionId
  | _, [] => none
  | before, f :: rest =>
    let reached := before + f.weight.toNat
    if chosen ≤ reached then some f.functionId else at? chosen reached rest

def choose (functions : List WeightedFunction) (words : Words) :
    Except FunctionError FunctionId × Words :=
  match functions with
  | [only] => (.ok only.functionId, words)
  | functions =>
    if total functions = 0 then (.error .noWeightedTarget, words)
    else
      let (drawn, words) := Draw.below 64 (total functions) words
      match at? (drawn + 1) 0 functions with
      | some id => (.ok id, words)
      | none => (.error .noWeightedTarget, words)

end EventRelay.WeightedFunction
