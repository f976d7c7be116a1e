import Extractor.Declaration.Module
import Extractor.JsonShape.Infer
import Extractor.Program.Json

/-!
# Extractor.Command.Basic

The three commands as functions of their input: checking declarations,
printing the program they stand for, and declaring the shape of a JSON sample.
-/

namespace Extractor

variable [Libraries]

/-- Why a file cannot be read. -/
inductive FileFault where
  /-- What the system says, and its number for it. -/
  | system (reason : String) (code : Nat)
  /-- The bytes are no text. -/
  | notText
  deriving DecidableEq, Repr, Inhabited

namespace FileFault

/-- There is no such file. -/
def missing : FileFault := .system "No such file or directory" 2

/-- The fault in words. -/
def text : FileFault → String
  | system reason code => reason ++ " (os error " ++ toString code ++ ")"
  | notText => "stream did not contain valid UTF-8"

end FileFault

/-- Why a command fails. -/
inductive CommandError where
  | parse (e : Declaration.ParseError)
  | assemble (e : AssembleError)
  | infer (e : InferError)
  | file (fault : FileFault)
  | noInput
  deriving Inhabited

/-- The error in words. -/
def CommandError.message : CommandError → String
  | parse e => "parse error: " ++ e.message
  | assemble e => e.message
  | infer e => "json inference failed: " ++ e.message
  | file fault => "io error: " ++ fault.text
  | noInput => "no input provided. Pass a file or --input, or pipe it to stdin."

namespace Command

/-- Parses a source. -/
def parse (source : String) : Except CommandError Module :=
  (Module.parse source).mapError .parse

/-- Assembles a module. -/
def assemble (m : Module) (options : Options) : Except (Failure CommandError) Assembled :=
  (m.assemble options).mapError (Failure.map CommandError.assemble)

/-- What a check finds in declarations without errors. -/
structure Summary where
  /-- The schemas, each behind those it depends on. -/
  schemas : List String
  /-- How many shapes are declared. -/
  shapes : Nat
  warnings : List Warning
  deriving Inhabited

/-- Checks the declarations of a source. -/
def check (source : String) : Except (Failure CommandError) Summary := do
  let m ← parse source
  let assembled ← assemble m {}
  let order ← liftM (m.schemaOrder.mapError CommandError.assemble)
  return ⟨order, m.shapes.length, assembled.warnings⟩

/-- The program of a source as JSON text, and the warnings on the way. -/
def printProgram (source : String) (indented : Bool) (options : Options) :
    Except (Failure CommandError) (String × List Warning) := do
  let m ← parse source
  let assembled ← assemble m options
  let json := assembled.program.toJson
  return (if indented then json.pretty else json.compact, assembled.warnings)

/-- The name of the entry shape if none is given. -/
def defaultEntry : String := "Main"

/-- The declarations of the shapes in a sample. -/
def declareSample (sample? : Option String) (entry path : String) : Except CommandError String :=
  match sample? with
  | none => .error .noInput
  | some sample => do
      let shapes ← (JsonShape.infer sample entry path).mapError .infer
      return JsonShape.declarations shapes

end Command

end Extractor
