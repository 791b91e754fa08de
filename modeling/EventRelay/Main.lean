import EventRelay.CommandLine.Run
set_option autoImplicit false

/-!
The command line as a program. It has no connection of its own, so that every call is lost: what
it shows is how a command line is read and how a lost call is reported.
-/

/-- Carries out the command of the arguments. -/
def main (arguments : List String) : IO UInt32 := do
  let (report, _) := (EventRelay.CommandLine.run EventRelay.Network.silent arguments).run ()
  IO.print report.output
  IO.eprint report.notes
  return UInt32.ofNat report.exit
