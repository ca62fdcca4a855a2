import Gemtext.Command.Arguments
import Gemtext.Command.Host
import Gemtext.Convert
import Gemtext.Settings.Package

/-!
# Running the command

The command converts the files that it is given, in order, or else its input.  Its settings come
from a file in the working directory, from a file that is named by a switch, and from the other
switches.  The first failure ends the command; what was printed and written before stays.
-/

namespace Gemtext

namespace Command

/-- Why the command fails. -/
inductive Failure where
  | settings (reason : Text)
  | config (cause : ConvertError)
  | malformedInput
  | missingDirectory (path : Text)
  | missingFile (path : Text)
  | unreadable (path reason : Text)
  | conversion (name : Text) (cause : ConvertError)
  | unwritable (path reason : Text)

/-- Why bytes are no text, in words. -/
def malformedText : Text :=
  "stream did not contain valid UTF-8".toList

/-- The failure in words. -/
def Failure.message : Failure → Text
  | settings reason => "Failed to load configuration: ".toList ++ reason
  | config cause => "Error: ".toList ++ cause.message
  | malformedInput => "Error reading stdin: ".toList ++ malformedText
  | missingDirectory path => "Error: directory '".toList ++ path ++ "' cannot be found".toList
  | missingFile path => "Error: file '".toList ++ path ++ "' cannot be found".toList
  | unreadable path reason => "Error reading file '".toList ++ path ++ "': ".toList ++ reason
  | conversion name cause =>
    "Error converting '".toList ++ name ++ "': ".toList ++ cause.message
  | unwritable path reason => "Error writing file '".toList ++ path ++ "': ".toList ++ reason

/-- A step of the command, which may print and may fail. -/
abbrev Action (m : Type → Type) := ExceptT Failure (StateT Text m)

section

variable {m : Type → Type} [Monad m] {ε : Type} (library : Library) (P : SettingsPackage ε)
  (host : Host m)

/-- Use the host. -/
def onHost {α : Type} (x : m α) : Action m α :=
  ExceptT.lift (StateT.lift x)

/-- The result of a computation, whose failure ends the command. -/
def attempt {ε α : Type} (failure : ε → Failure) (x : Except ε α) : Action m α :=
  match x with
  | .ok a => pure a
  | .error e => throw (failure e)

/-- Print a line. -/
def printLine (s : Text) : Action m Unit :=
  modifyThe Text (· ++ s ++ ['\n'])

/-- Read a settings file from the first of the paths at which it is looked for that leads to a
file.  One that cannot be read counts as missing. -/
def readSettingsFile (name : Text) (optional : Bool) : m SettingsFile := do
  match ← (P.candidates name).findM? host.isFile with
  | none => pure ⟨some name, none, optional⟩
  | some path =>
    match ← host.readFile path with
    | .ok bytes => pure ⟨some (P.nameOf path), some (P.decode bytes), optional⟩
    | .error _ => pure ⟨some name, none, optional⟩

/-- The name of the settings file in the working directory. -/
def settingsFileName : Text :=
  "md2gmi.toml".toList

/-- The settings that the command runs with. -/
def loadSettings (a : Arguments) : Action m Settings := do
  let standing ← onHost (readSettingsFile P host settingsFileName true)
  let named ← (a.text? .config).toList.mapM fun name =>
    onHost (readSettingsFile P host name false)
  attempt (.settings ∘ P.message) (Settings.load P (standing :: named) a.settings)

/-- The gemtext of a document of the given name. -/
def convertNamed (c : Conversion) (name source : Text) : Action m Text :=
  attempt (.conversion name) (convert c source)

/-- Convert the input and print the result. -/
def convertInput (c : Conversion) : Action m Unit := do
  match Utf8.decode? (← onHost host.readInput) with
  | none => throw .malformedInput
  | some source => printLine (← convertNamed c "<stdin>".toList source)

/-- Convert a file, and print the result or write it to a file. -/
def convertFile (c : Conversion) (output : OutputSettings) (path : Text) :
    Action m Unit := do
  if !(← onHost (host.isFile path)) then throw (.missingFile path)
  let source ←
    match ← onHost (host.readFile path) with
    | .error reason => throw (.unreadable path reason)
    | .ok bytes =>
      match Utf8.decode? bytes with
      | none => throw (.unreadable path malformedText)
      | some source => pure source
  let gemtext ← convertNamed c path source
  if output.write then
    let target := Path.join output.dir (gemtextName path)
    match ← onHost (host.writeFile target (Utf8.encode (gemtext ++ ['\n']))) with
    | .ok _ => pure ()
    | .error reason => throw (.unwritable target reason)
  else printLine gemtext

/-- Run the command with arguments that were read. -/
def runWith (a : Arguments) : Action m Unit := do
  let settings ← loadSettings P host a
  let options ← attempt .config settings.render.toConfig
  let c : Conversion := ⟨options, library⟩
  if a.files.isEmpty then convertInput host c
  else
    if settings.output.write && !(← onHost (host.isDirectory settings.output.dir)) then
      throw (.missingDirectory settings.output.dir)
    a.files.forM (convertFile host c settings.output)

/-- Run the command. -/
def run (read : Reader) (arguments : List Text) : m Outcome := do
  match read arguments with
  | .error outcome => pure outcome
  | .ok a =>
    let (result, output) ← (runWith library P host a).run.run []
    match result with
    | .ok _ => pure ⟨0, output, []⟩
    | .error failure => pure ⟨1, output, failure.message ++ ['\n']⟩

end

end Command

end Gemtext
