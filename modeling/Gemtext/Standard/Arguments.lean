import Gemtext.Command.Arguments
import Gemtext.Number.Decimal

/-!
# Reading arguments

A switch has a long name behind two dashes or a letter behind one; letters can share their dash.
Some switches take a value, which stands behind an equals sign, directly behind the letter, or in
the next argument; there it must not look like a switch.  All arguments behind two dashes are names
of files.

`Reader.standard` reads the arguments from left to right and stops at the first one that is wrong,
or that asks for the version or for help.
-/

namespace Gemtext

namespace Command

/-- A switch. -/
inductive Switch where
  | flag (flag : Flag)
  | text (name : TextSwitch)
  | maxTableWidth
  | version
  | help
  deriving DecidableEq, Repr

/-- The switches with their long names, their letters, and what they are for. -/
def switches : List (Switch × String × Option Char × String) := [
  (.flag .write, "write", some 'w', "Write each file to <name>.gmi instead of printing it"),
  (.text .dir, "dir", some 'd', "Directory to write files to (default: current directory)"),
  (.flag .asciiTable, "ascii-table", some 'a', "Draw tables with ASCII characters"),
  (.flag .frontmatter, "frontmatter", some 'f', "Remove front matter before converting"),
  (.flag .jekyll, "jekyll", some 'j', "Deprecated alias of --frontmatter"),
  (.text .codeTag, "code-tag", none, "Alt text for code blocks without a language"),
  (.text .imgTag, "img-tag", none, "Text added after image links (default: '[IMG]')"),
  (.text .tableTag, "table-tag", none, "Alt text for table blocks (default: 'table')"),
  (.text .indent, "indent", some 'i', "Spaces per list nesting level, or 'tab'"),
  (.text .links, "links", some 'l', "Link mode: off, newline, paragraph, at-end or copy"),
  (.flag .plain, "plain", some 'p', "Remove emphasis markers, code marks and inline HTML"),
  (.flag .stripHtml, "strip-html", some 's', "Remove all inline and block HTML"),
  (.text .baseUrl, "base-url", some 'b', "Prepended to every link starting with a slash"),
  (.flag .mdLinks, "md-links", some 'm', "Point relative links to .md files to .gmi"),
  (.flag .noChecklist, "no-checklist", some 'c', "Render task list items as [x] / [ ]"),
  (.maxTableWidth, "max-table-width", none, "Maximum table width, 0 for unlimited (default: 80)"),
  (.text .config, "config", none, "Path to a configuration file"),
  (.flag .verbose, "verbose", some 'v', "Log conversion details"),
  (.help, "help", some 'h', "Print help"),
  (.version, "version", some 'V', "Print version")]

/-- The switch with the given long name. -/
def Switch.ofName? (name : Text) : Option Switch :=
  (switches.find? fun (_, long, _, _) => long.toList = name).map Prod.fst

/-- The switch with the given letter. -/
def Switch.ofLetter? (letter : Char) : Option Switch :=
  (switches.find? fun (_, _, short, _) => short = some letter).map Prod.fst

/-- Whether the switch takes a value. -/
def Switch.takesValue : Switch → Bool
  | .text _ => true
  | .maxTableWidth => true
  | _ => false

/-- Why arguments are wrong. -/
inductive UsageError where
  | unknown (argument : Text)
  | missingValue (argument : Text)
  | unneededValue (argument : Text)
  | repeated (argument : Text)
  | invalidWidth (value : Text)
  deriving DecidableEq, Repr

/-- The failure in words. -/
def UsageError.message : UsageError → Text
  | unknown argument => "unexpected argument '".toList ++ argument ++ "' found".toList
  | missingValue argument =>
    "a value is required for '".toList ++ argument ++ "' but none was supplied".toList
  | unneededValue argument => "unexpected value for '".toList ++ argument ++ "' found".toList
  | repeated argument =>
    "the argument '".toList ++ argument ++ "' cannot be used multiple times".toList
  | invalidWidth value => "invalid value '".toList ++ value ++ "' for a width".toList

/-- Why reading arguments stops. -/
inductive Stop where
  | version
  | help
  | usage (cause : UsageError)
  deriving DecidableEq, Repr

namespace Arguments

/-- No arguments. -/
def empty : Arguments :=
  ⟨[], [], none, []⟩

/-- The width that a text denotes: a number of at most 32 bits. -/
def widthOfText? (s : Text) : Option UInt32 :=
  match Text.signedDigits? s with
  | some n => if 0 ≤ n && n.toNat < twoTo 32 then some (.ofNat n.toNat) else none
  | none => none

/-- Add a switch without a value, which was given as `argument`. -/
def addSwitch (a : Arguments) (argument : Text) (s : Switch) : Except Stop Arguments :=
  match s with
  | .version => .error .version
  | .help => .error .help
  | .flag f =>
    if a.flag f then .error (.usage (.repeated argument))
    else .ok { a with flags := a.flags ++ [f] }
  | _ => .error (.usage (.missingValue argument))

/-- Add a switch with its value, which was given as `argument`. -/
def addValue (a : Arguments) (argument : Text) (s : Switch) (value : Text) :
    Except Stop Arguments :=
  match s with
  | .text name =>
    if (a.text? name).isSome then .error (.usage (.repeated argument))
    else .ok { a with texts := a.texts ++ [(name, value)] }
  | .maxTableWidth =>
    match widthOfText? value with
    | some width =>
      if a.maxTableWidth.isSome then .error (.usage (.repeated argument))
      else .ok { a with maxTableWidth := some width }
    | none => .error (.usage (.invalidWidth value))
  | _ => .error (.usage (.unneededValue argument))

/-- A switch that waits for its value in the next argument. -/
abbrev Waiting := Option (Text × Switch)

/-- Read an argument behind its two dashes. -/
def readLong (a : Arguments) (s : Text) : Except Stop (Arguments × Waiting) :=
  let name := s.takeWhile (· != '=')
  let argument := '-' :: '-' :: name
  match Switch.ofName? name, s.drop name.length with
  | none, _ => .error (.usage (.unknown argument))
  | some switch, _ :: value => (a.addValue argument switch value).map fun a => (a, none)
  | some switch, [] =>
    if switch.takesValue then .ok (a, some (argument, switch))
    else (a.addSwitch argument switch).map fun a => (a, none)

/-- Read letters behind a dash.  What stands behind the letter of a switch with a value is the
value, less an equals sign at its start. -/
def readLetters (a : Arguments) : Text → Except Stop (Arguments × Waiting)
  | [] => .ok (a, none)
  | letter :: rest =>
    let argument := ['-', letter]
    match Switch.ofLetter? letter with
    | none => .error (.usage (.unknown argument))
    | some switch =>
      if switch.takesValue then
        match rest with
        | [] => .ok (a, some (argument, switch))
        | '=' :: value => (a.addValue argument switch value).map fun a => (a, none)
        | value => (a.addValue argument switch value).map fun a => (a, none)
      else
        match a.addSwitch argument switch with
        | .ok a => readLetters a rest
        | .error stop => .error stop

/-- Whether the argument looks like a switch.  A single dash does not. -/
def isSwitch (argument : Text) : Bool :=
  match argument with
  | '-' :: _ :: _ => true
  | _ => false

/-- Read an argument that looks like a switch. -/
def readSwitch (a : Arguments) (argument : Text) : Except Stop (Arguments × Waiting) :=
  match argument with
  | '-' :: '-' :: name => a.readLong name
  | _ => a.readLetters (argument.drop 1)

/-- Read arguments, of which the first may be the value of a switch. -/
def readAll (a : Arguments) (waiting : Waiting) : List Text → Except Stop Arguments
  | [] =>
    match waiting with
    | some (argument, _) => .error (.usage (.missingValue argument))
    | none => .ok a
  | argument :: rest =>
    match waiting with
    | some (waited, switch) =>
      if isSwitch argument then .error (.usage (.missingValue waited))
      else
        match a.addValue waited switch argument with
        | .ok a => readAll a none rest
        | .error stop => .error stop
    | none =>
      if argument = ['-', '-'] then .ok { a with files := a.files ++ rest }
      else if isSwitch argument then
        match a.readSwitch argument with
        | .ok (a, waiting) => readAll a waiting rest
        | .error stop => .error stop
      else readAll { a with files := a.files ++ [argument] } none rest

end Arguments

/-- The name and the version of the command. -/
def versionText : Text :=
  "md2gmi 0.1.0".toList

/-- A switch on a line of the help text. -/
def switchLine (name : String) (letter : Option Char) (purpose : String) : Text :=
  let short : Text :=
    match letter with
    | some c => ['-', c, ',', ' ']
    | none => Text.spaces 4
  let long := "--".toList ++ name.toList
  "  ".toList ++ short ++ long ++ Text.spaces (20 - long.length) ++ purpose.toList

/-- How the command is used. -/
def helpText : Text :=
  Text.joinWith ['\n'] (
    ["Convert Markdown to Gemini gemtext", "", "Usage: md2gmi [OPTIONS] [files]...", "",
      "Options:"].map String.toList ++
    switches.map fun (_, name, letter, purpose) => switchLine name letter purpose)

/-- Arguments as they are usually written. -/
def Reader.standard : Reader := fun arguments =>
  match Arguments.readAll .empty none arguments with
  | .ok a => .ok a
  | .error .version => .error ⟨0, versionText ++ ['\n'], []⟩
  | .error .help => .error ⟨0, helpText ++ ['\n'], []⟩
  | .error (.usage cause) => .error ⟨2, [], "error: ".toList ++ cause.message ++ ['\n']⟩

end Command

end Gemtext
