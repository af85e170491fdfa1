import AdFilter.Cli.Command

/-! The program itself: it reads files, prints what the command line says, and exits. -/

namespace AdFilter.Cli

/-- How the program is called. -/
def usage : String :=
  "Usage: adfilter <check | match | cosmetic | content> -i <list>... [-u <url>]\n" ++
  "         [-d <document>] [-t <type>] [--html <page>] [-v]\n"

/-- Why a file cannot be read, in the words of the system. -/
def reasonOf : IO.Error → String
  | .noFileOrDirectory .. => "No such file or directory (os error 2)"
  | .permissionDenied .. => "Permission denied (os error 13)"
  | .inappropriateType .. => "Is a directory (os error 21)"
  | other => toString other

/-- The text of a file, or why it cannot be read. -/
def readFile (path : String) : IO (Except String String) := do
  try
    return .ok (← IO.FS.readFile path)
  catch error =>
    return .error (reasonOf error)

/-- The time that has passed, in milliseconds with one decimal. -/
def elapsedText (nanoseconds : Nat) : String :=
  let tenths := (nanoseconds + 50000) / 100000
  "  Time:     " ++ Nat.repr (tenths / 10) ++ "." ++ Nat.repr (tenths % 10) ++ "ms\n"

end AdFilter.Cli

/-- The program. -/
def main (arguments : List String) : IO UInt32 := do
  let start ← IO.monoNanosNow
  let outcome ← AdFilter.Cli.run AdFilter.Cli.readFile arguments
  IO.print outcome.output
  match AdFilter.Cli.Command.ofArguments arguments, outcome.code with
  | .ok (.check _), 0 => IO.print (AdFilter.Cli.elapsedText ((← IO.monoNanosNow) - start))
  | .error .help, _ => IO.print AdFilter.Cli.usage
  | .error .misuse, _ => IO.eprint AdFilter.Cli.usage
  | _, _ => pure ()
  if let some complaint := outcome.complaint then IO.eprintln ("Error: " ++ complaint)
  return UInt32.ofNat outcome.code
