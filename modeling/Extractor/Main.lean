import Extractor.Command.Line
import Extractor.Libraries.Standard

/-!
# Extractor.Main

The command line program: reads the words and the input, and writes what the
command answers.
-/

namespace Extractor.Command

/-- Reads all lines of a stream. -/
partial def readLines (stream : IO.FS.Stream) (before : String) : IO String := do
  let line ← stream.getLine
  if line.isEmpty then return before else readLines stream (before ++ line)

/-- Why reading failed. -/
def faultOf : IO.Error → FileFault
  | .noFileOrDirectory .. => .missing
  | .permissionDenied _ code details | .inappropriateType _ code details
  | .resourceExhausted _ code details => .system details code.toNat
  | .otherError code details => .system details code.toNat
  | _ => .notText

/-- Reads the input of a command. A terminal holds none. -/
def readInput : InputSource → IO (Except CommandError String)
  | .given text => return .ok text
  | .file path => do
      try return .ok (← IO.FS.readFile path)
      catch e => return .error (.file (faultOf e))
  | .standard => do
      let stream ← IO.getStdin
      if ← stream.isTty then return .error .noInput
      try return .ok (← readLines stream "")
      catch e => return .error (.file (faultOf e))

/-- The outcome of a command line. -/
def outcomeOf (words : List String) : IO Outcome :=
  match Request.ofWords words with
  | .error stop => return stop.outcome
  | .ok request => return request.outcome (← readInput request.input)

end Extractor.Command

/-- Runs the command that the words ask for. -/
def main (words : List String) : IO UInt32 := do
  let outcome ← Extractor.Command.outcomeOf words
  IO.eprint outcome.err
  IO.print outcome.out
  return outcome.code.toUInt32
