import Extractor.Command.Basic

/-!
# Extractor.Command.Line

The command line: which words ask for which command, and what a command
writes. Options come as `--name value`, `--name=value`, `-n value`, `-nvalue`
or `-n=value`; short flags may share a dash; `--` ends the options.
-/

namespace Extractor.Command

variable [Libraries]

/-! ## words -/

/-- An option that a command has. -/
structure OptionWord where
  long : String
  short : Option Char
  takesValue : Bool
  deriving DecidableEq, Repr, Inhabited

/-- Why words are not taken any further. -/
inductive Stop where
  /-- The words ask for help. -/
  | help
  /-- The words ask for the version. -/
  | version
  /-- The words make no command. -/
  | misuse
  deriving DecidableEq, Repr, Inhabited

/-- The words of a command line that have been read. -/
structure Words where
  /-- The options with their values; a flag has none. -/
  options : List (String × Option String) := []
  operands : List String := []
  /-- An option whose value is the next word. -/
  pending : Option String := none
  /-- Whether all further words are operands. -/
  operandsOnly : Bool := false
  deriving DecidableEq, Repr, Inhabited

namespace Words

/-- Adds an option, which has to be new. -/
def addOption (w : Words) (name : String) (value : Option String) : Except Stop Words :=
  if (w.options.lookup name).isSome then .error .misuse
  else .ok { w with options := w.options ++ [(name, value)], pending := none }

/-- Adds an option behind whose name there may be a value. -/
def addNamed (w : Words) (option : OptionWord) (value : Option String) : Except Stop Words :=
  match option.takesValue, value with
  | true, some v => w.addOption option.long (some v)
  | true, none =>
      if (w.options.lookup option.long).isSome then .error .misuse
      else .ok { w with pending := some option.long }
  | false, none => w.addOption option.long none
  | false, some _ => .error .misuse

/-- Whether a flag is there. -/
def hasFlag (w : Words) (name : String) : Bool := (w.options.lookup name).isSome

/-- The value of an option, if it is there. -/
def value? (w : Words) (name : String) : Option String := (w.options.lookup name).join

end Words

/-- Splits at the first equals sign; the second part is missing without one. -/
def splitEquals (word : List Char) : List Char × Option (List Char) :=
  match word.dropWhile (· ≠ '=') with
  | [] => (word, none)
  | _ :: value => (word.takeWhile (· ≠ '='), some value)

/-- What stands behind a short option in the same word as its value. -/
def attachedValue : List Char → Option String
  | [] => none
  | '=' :: value => some (String.ofList value)
  | value => some (String.ofList value)

/-- Reads the short options of a word. -/
def readShort (options : List OptionWord) : List Char → Words → Except Stop Words
  | [], w => .ok w
  | c :: cs, w =>
      match options.find? (·.short = some c) with
      | none => .error (if c = 'h' then .help else .misuse)
      | some option =>
          if option.takesValue then w.addNamed option (attachedValue cs)
          else if option.long = "version" then .error .version
          else do readShort options cs (← w.addNamed option none)

/-- Reads a long option without its dashes. -/
def readLong (options : List OptionWord) (word : List Char) (w : Words) : Except Stop Words :=
  let (name, value) := splitEquals word
  match options.find? (·.long = String.ofList name), value with
  | none, none => .error (if name = "help".toList then .help else .misuse)
  | none, some _ => .error .misuse
  | some option, none =>
      if option.long = "version" then .error .version else w.addNamed option none
  | some option, some v => w.addNamed option (some (String.ofList v))

/-- Whether a word is an option: a dash and something behind it. -/
def isOption (word : String) : Bool :=
  match word.toList with
  | '-' :: _ :: _ => true
  | _ => false

/-- Reads one more word. -/
def readWord (options : List OptionWord) (w : Words) (word : String) : Except Stop Words :=
  if w.operandsOnly then .ok { w with operands := w.operands ++ [word] }
  else
    match w.pending, isOption word, word.toList with
    | some name, false, _ => w.addOption name (some word)
    | some _, true, _ => .error .misuse
    | none, false, _ => .ok { w with operands := w.operands ++ [word] }
    | none, true, ['-', '-'] => .ok { w with operandsOnly := true }
    | none, true, '-' :: '-' :: name => readLong options name w
    | none, true, letters => readShort options (letters.drop 1) w

/-- Reads the words of a command. -/
def readWords (options : List OptionWord) (words : List String) : Except Stop Words := do
  let w ← words.foldlM (readWord options) {}
  if w.pending.isSome then throw .misuse else return w

/-! ## commands -/

/-- What is asked for. -/
inductive Request where
  | check (file : Option String)
  | program (file : Option String) (indented : Bool) (options : Options)
  | sample (entry path : String) (text : Option String)
  deriving Inhabited

/-- The option of every command to tell more. -/
def verboseOption : OptionWord := ⟨"verbose", some 'v', false⟩

/-- The options before a command. -/
def outerOptions : List OptionWord := [verboseOption, ⟨"version", some 'V', false⟩]

/-- The options of the command that prints programs. -/
def programOptions : List OptionWord :=
  [verboseOption, ⟨"pretty", some 'p', false⟩, ⟨"css-to-xpath", none, false⟩,
    ⟨"xpath-to-css", none, false⟩, ⟨"xpath-prefix", none, true⟩, ⟨"no-docstring", none, false⟩]

/-- The options of the command that declares samples. -/
def sampleOptions : List OptionWord :=
  [verboseOption, ⟨"name", some 'n', true⟩, ⟨"start", some 's', true⟩, ⟨"input", some 'i', true⟩]

/-- The file among the operands: there is one at most, and its name is not empty. -/
def fileOf (w : Words) : Except Stop (Option String) :=
  match w.operands with
  | [] => .ok none
  | [file] => if file.isEmpty then .error .misuse else .ok (some file)
  | _ => .error .misuse

/-- Reads the words behind the command that checks. -/
def readCheck (words : List String) : Except Stop Request := do
  let w ← readWords [verboseOption] words
  return .check (← fileOf w)

/-- Reads the words behind the command that prints programs. Queries are converted one way only. -/
def readProgram (words : List String) : Except Stop Request := do
  let w ← readWords programOptions words
  let file ← fileOf w
  if w.hasFlag "css-to-xpath" && w.hasFlag "xpath-to-css" then throw .misuse
  return .program file (w.hasFlag "pretty")
    { docstrings := !w.hasFlag "no-docstring"
      cssToXPath := w.hasFlag "css-to-xpath"
      xpathToCss := w.hasFlag "xpath-to-css"
      lead := (w.value? "xpath-prefix").getD XPath.defaultPrefix }

/-- Reads the words behind the command that declares samples. -/
def readSample (words : List String) : Except Stop Request := do
  let w ← readWords sampleOptions words
  if w.operands.isEmpty then
    return .sample ((w.value? "name").getD defaultEntry) ((w.value? "start").getD "")
      (w.value? "input")
  else throw .misuse

/-- The words that help is about. -/
def readHelp : List String → Stop
  | [] | ["check"] | ["ast"] | ["json-schema"] | ["help"] => .help
  | _ => .misuse

/-- Reads a command line. -/
def Request.ofWords (words : List String) : Except Stop Request := do
  let outer ← readWords outerOptions (words.takeWhile isOption)
  if outer.operandsOnly then throw .misuse
  match words.dropWhile isOption with
  | "check" :: rest => readCheck rest
  | "ast" :: rest => readProgram rest
  | "json-schema" :: rest => readSample rest
  | "help" :: rest => throw (readHelp rest)
  | _ => throw .misuse

/-! ## outcomes -/

/-- Where the input of a command comes from. -/
inductive InputSource where
  | file (path : String)
  | standard
  /-- The command line holds it. -/
  | given (text : String)
  deriving DecidableEq, Repr, Inhabited

/-- Where the input of a request comes from. -/
def Request.input : Request → InputSource
  | check (some path) | program (some path) _ _ => .file path
  | sample _ _ (some text) => .given text
  | _ => .standard

/-- What a command writes, and the code it ends with. -/
structure Outcome where
  code : Nat
  out : String
  err : String
  deriving DecidableEq, Repr, Inhabited

/-- A text as a line. -/
def asLine (s : String) : String := s ++ "\n"

/-- Warnings, each on its line. -/
def warningLines (warnings : List Warning) : String :=
  String.join (warnings.map fun w => asLine w.text)

/-- What a request writes for an input. -/
def Request.answer (request : Request) (text : String) :
    Except (Failure CommandError) (String × List Warning) :=
  match request with
  | check _ => do
      let s ← Command.check text
      let line := "OK: " ++ toString s.schemas.length ++ " schema(s), " ++ toString s.shapes
        ++ " json schema(s)"
      return (asLine line, s.warnings)
  | program _ indented options => do
      let (json, warnings) ← printProgram text indented options
      return (asLine json, warnings)
  | sample entry path _ => do
      return (← declareSample (some text) entry path, [])

/-- The outcome of a request, given its input or why there is none. -/
def Request.outcome (request : Request) (input : Except CommandError String) : Outcome :=
  match liftM input >>= request.answer with
  | .ok (out, warnings) => ⟨0, out, warningLines warnings⟩
  | .error (.refused e) => ⟨1, "", asLine e.message⟩
  | .error .overflow => ⟨101, "", asLine "attempt to add with overflow"⟩

/-- The name of the program. -/
def programName : String := "sscgen"

/-- The version of the program. -/
def version : String := "0.3.0"

/-- How the program is used. -/
def usage : String :=
  "Usage: " ++ programName ++ " [-v] check [FILE]\n"
    ++ "       " ++ programName ++ " [-v] ast [--pretty] [--css-to-xpath | --xpath-to-css]\n"
    ++ "              [--xpath-prefix PREFIX] [--no-docstring] [FILE]\n"
    ++ "       " ++ programName ++ " [-v] json-schema [--name NAME] [--start PATH] [--input JSON]\n"

/-- The outcome of words that make no request. -/
def Stop.outcome : Stop → Outcome
  | help => ⟨0, usage, ""⟩
  | version => ⟨0, asLine (programName ++ " " ++ Command.version), ""⟩
  | misuse => ⟨2, "", usage⟩

end Extractor.Command
