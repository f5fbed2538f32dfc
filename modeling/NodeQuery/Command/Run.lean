import NodeQuery.Command.Arguments
import NodeQuery.Command.Folder
import NodeQuery.Command.Root
import NodeQuery.Filter.Listener
import NodeQuery.Json.Printer
import NodeQuery.Selector.Reader

/-!
# Running commands

A command either prints a text or fails with a message. Files are read through a function,
so that what a command does is determined by its arguments and the files alone. The pattern
is read first, then the field names, then the stored paths; the first fault is reported.

Colours are control sequences of the terminal.
-/

namespace NodeQuery.Command

/-- Why a command failed. -/
inductive Failure where
  /-- The pattern is no selector. -/
  | invalidSelector (pattern : String) (error : ParseError)
  /-- The file with field names cannot be read. -/
  | unreadableConfig (name : String) (error : FileError)
  /-- The file holds no field names. -/
  | invalidConfig (name : String)
  /-- The stored path of a root is not given properly. -/
  | invalidRoot (error : RootError)
  /-- The selector has no filter document. -/
  | notCompiled (selector : String) (error : BuildError Filter.Failure)

/-- The message of a failure. -/
def Failure.message : Failure → String
  | invalidSelector pattern error =>
    "invalid selector \x60" ++ pattern ++ "\x60: " ++ error.message
  | unreadableConfig name error => "failed to read " ++ name ++ ": " ++ error.message
  | invalidConfig name => "invalid filter config " ++ name
  | invalidRoot error => error.message
  | notCompiled selector error =>
    "failed to compile \x60" ++ selector ++ "\x60: " ++ error.message Filter.Failure.message

/-- A text between two control sequences. -/
def styled (start stop : Nat) (text : String) : String :=
  "\x1b[" ++ toString start ++ "m" ++ text ++ "\x1b[" ++ toString stop ++ "m"

/-- Bold text. -/
def bold (text : String) : String := styled 1 0 text

/-- Dimmed text. -/
def dimmed (text : String) : String := styled 2 0 text

/-- Red text. -/
def red (text : String) : String := styled 31 39 text

/-- Yellow text. -/
def yellow (text : String) : String := styled 33 39 text

/-- Cyan text. -/
def cyan (text : String) : String := styled 36 39 text

/-- The line for a part of a selector: a sequence with its items and their kinds, or the
combinator towards the next sequence. -/
def linkLine : Selector.Link → String
  | .sequence sequence =>
    bold "sequence" ++
      String.join (sequence.items.map fun item =>
        " " ++ cyan item.text ++ " " ++ dimmed ("(" ++ item.kind.name ++ ")")) ++ "\n"
  | .combinator combinator =>
    "  " ++ yellow combinator.symbol.toString ++ " " ++ combinator.name ++ "\n"

/-- The lines for the parts of a selector. -/
def treeText (selector : Selector) : String := String.join (selector.links.map linkLine)

/-- Reads the pattern of a command. -/
def readSelector (pattern : String) : Except Failure Selector :=
  (Selector.parse pattern.toList).mapError (.invalidSelector pattern)

/-- Reads the field names from a file, if one is given. -/
def readConfig (files : Files) : Option String → Except Failure Filter.Config
  | none => .ok .usual
  | some name =>
    match files name with
    | .error error => .error (.unreadableConfig name error)
    | .ok text =>
      match Filter.Config.read? text with
      | some config => .ok config
      | none => .error (.invalidConfig name)

/-- The filter document of a pattern. -/
def compileText (files : Files) (pattern : String) (config : Option String)
    (roots : List String) : Except Failure String := do
  let selector ← readSelector pattern
  let fields ← readConfig files config
  let table ← (parseRoots .empty roots).mapError .invalidRoot
  let document ← ((Filter.Listener.new fields table.resolver 0).compile selector .null).mapError
    (.notCompiled selector.text)
  .ok (document.pretty ++ "\n")

/-- The text that a request prints. -/
def requestText (files : Files) : Request → Except Failure String
  | .parse pattern asJson => do
    let selector ← readSelector pattern
    .ok ((if asJson then selector.toJson.pretty else selector.text) ++ "\n")
  | .tree pattern => (readSelector pattern).map treeText
  | .compile pattern config roots => compileText files pattern config roots

/-- How a run of the program ends. -/
structure Outcome where
  /-- The exit code. -/
  code : Nat
  /-- What is printed. -/
  output : String
  /-- What is reported as an error. -/
  error : Option String
deriving DecidableEq, Repr

/-- The name and version of the program. -/
def versionText : String := "sift 0.1.0\n"

/-- A description of the arguments. -/
def usageText : String :=
  "Usage: sift [-v] COMMAND\n\n" ++
  "  parse PATTERN [--json]   print the canonical form of a selector, or its structure\n" ++
  "  tree PATTERN             print the sequences and combinators of a selector\n" ++
  "  compile PATTERN [-c FILE] [--root SELECTOR=PATH]...\n" ++
  "                           print the filter document of a selector\n"

/-- The line that reports an error. -/
def errorLine (message : String) : String := bold (red "error:") ++ " " ++ message ++ "\n"

/-- Runs the program on its arguments. -/
def run (files : Files) (arguments : List String) : Outcome :=
  match readInvocation arguments with
  | .version => ⟨0, versionText, none⟩
  | .help => ⟨0, usageText, none⟩
  | .refused => ⟨2, "", none⟩
  | .run request =>
    match requestText files request with
    | .ok text => ⟨0, text, none⟩
    | .error failure => ⟨1, "", some (errorLine failure.message)⟩

/-- The file that a run of the program reads. -/
def neededFile? (arguments : List String) : Option String :=
  match readInvocation arguments with
  | .run (.compile _ config _) => config
  | _ => none

end NodeQuery.Command
