/-!
# Command line arguments

The first argument that is no flag names a command, which takes one pattern and options of
its own. A long option has its value after an equals sign or in the next argument; a short
one also right after its letter, and short flags may share one dash. Two dashes end the
options, and a lone dash is a value. No flag or option with a single value may be given
twice to one command.

Arguments that say anything else are refused. Asking for help or the version wins over
whatever follows.
-/

namespace NodeQuery.Command

/-- What is to be done. -/
inductive Request where
  /-- Print a selector in canonical form, or its structure as JSON. -/
  | parse (pattern : String) (asJson : Bool)
  /-- Print the sequences and combinators of a selector. -/
  | tree (pattern : String)
  /-- Print the filter document of a selector, with field names from a file and stored paths
  of roots. -/
  | compile (pattern : String) (config : Option String) (roots : List String)
deriving DecidableEq, Repr

/-- What the arguments ask for. -/
inductive Invocation where
  /-- A request. -/
  | run (request : Request)
  /-- The version of the program. -/
  | version
  /-- A description of the arguments. -/
  | help
  /-- Nothing that is understood. -/
  | refused
deriving DecidableEq, Repr

/-- The name of a command. -/
inductive Action where
  /-- Print a selector. -/
  | parse
  /-- Print the parts of a selector. -/
  | tree
  /-- Print a filter document. -/
  | compile
deriving DecidableEq, Repr

/-- The command with a name. -/
def Action.ofName? (name : String) : Option Action :=
  [("parse", Action.parse), ("tree", .tree), ("compile", .compile)].lookup name

/-- The arguments of a command read so far. -/
structure Draft where
  /-- The command. -/
  action : Action
  /-- Whether more is to be logged. -/
  verbose : Bool
  /-- Whether JSON is to be printed. -/
  asJson : Bool
  /-- The file with field names. -/
  config : Option String
  /-- The stored paths of roots. -/
  roots : List String
  /-- The pattern. -/
  pattern : Option String
deriving DecidableEq, Repr

namespace Draft

/-- A command without arguments. -/
def start (action : Action) : Draft := ⟨action, false, false, none, [], none⟩

/-- Turns a flag on that is still off. -/
def raise (draft : Draft) (name : String) : Option Draft :=
  if name = "verbose" ∧ draft.verbose = false then some { draft with verbose := true }
  else if name = "json" ∧ draft.action = .parse ∧ draft.asJson = false then
    some { draft with asJson := true }
  else none

/-- Gives an option a value; a file needs a name and can be given once. -/
def assign (draft : Draft) (name value : String) : Option Draft :=
  if draft.action ≠ .compile then none
  else if name = "config" ∧ draft.config = none ∧ value ≠ "" then
    some { draft with config := some value }
  else if name = "root" then some { draft with roots := draft.roots ++ [value] }
  else none

/-- Takes the pattern, of which there is one. -/
def takePattern (draft : Draft) (value : String) : Option Draft :=
  if draft.pattern = none then some { draft with pattern := some value } else none

/-- The request of a command with all its arguments. -/
def finish (draft : Draft) : Invocation :=
  match draft.pattern with
  | none => .refused
  | some pattern =>
    match draft.action with
    | .parse => .run (.parse pattern draft.asJson)
    | .tree => .run (.tree pattern)
    | .compile => .run (.compile pattern draft.config draft.roots)

end Draft

/-- The form of an argument. -/
inductive Shape where
  /-- Two dashes. -/
  | endOfOptions
  /-- A long option with the value after its equals sign, if there is one. -/
  | long (name : String) (value : Option String)
  /-- The letters after a dash. -/
  | short (letters : List Char)
  /-- A value. -/
  | value
deriving DecidableEq, Repr

/-- The form of an argument. -/
def shapeOf (argument : String) : Shape :=
  match argument.toList with
  | ['-', '-'] => .endOfOptions
  | '-' :: '-' :: option =>
    let name := String.ofList (option.takeWhile (· ≠ '='))
    match option.dropWhile (· ≠ '=') with
    | [] => .long name none
    | _ :: value => .long name (some (String.ofList value))
  | '-' :: letter :: letters => .short (letter :: letters)
  | _ => .value

/-- Whether a long option takes a value. -/
def takesValue (name : String) : Bool := name == "config" || name == "root"

/-- The value of a short option that is written right after its letter. -/
def attachedValue : List Char → List Char
  | '=' :: value => value
  | value => value

/-- What the letters after one dash make of a command. -/
inductive Cluster where
  /-- The command with the flags turned on. -/
  | flags (draft : Draft)
  /-- The same, and the option of this name expects its value. -/
  | expects (draft : Draft) (name : String)
  /-- Help is asked for. -/
  | help
  /-- A letter is not understood. -/
  | refused

/-- Reads the letters after one dash. -/
def readLetters (draft : Draft) : List Char → Cluster
  | [] => .flags draft
  | 'v' :: rest =>
    match draft.raise "verbose" with
    | some raised => readLetters raised rest
    | none => .refused
  | 'h' :: _ => .help
  | ['c'] => if draft.action = .compile then .expects draft "config" else .refused
  | 'c' :: attached =>
    match draft.assign "config" (String.ofList (attachedValue attached)) with
    | some assigned => .flags assigned
    | none => .refused
  | _ => .refused

/-- Reads the values after the end of the options. -/
def readValues (draft : Draft) : List String → Invocation
  | [] => draft.finish
  | argument :: rest =>
    match draft.takePattern argument with
    | some taken => readValues taken rest
    | none => .refused

/-- Reads the arguments of a command. The option named by `expected` takes the next one. -/
def readArguments (draft : Draft) (expected : Option String) : List String → Invocation
  | [] => if expected.isSome then .refused else draft.finish
  | argument :: rest =>
    match shapeOf argument, expected with
    | .value, some name =>
      match draft.assign name argument with
      | some assigned => readArguments assigned none rest
      | none => .refused
    | _, some _ => .refused
    | .value, none =>
      match draft.takePattern argument with
      | some taken => readArguments taken none rest
      | none => .refused
    | .endOfOptions, none => readValues draft rest
    | .long name (some value), none =>
      match draft.assign name value with
      | some assigned => readArguments assigned none rest
      | none => .refused
    | .long name none, none =>
      if name = "help" then .help
      else if takesValue name then
        if draft.action = .compile then readArguments draft (some name) rest else .refused
      else
        match draft.raise name with
        | some raised => readArguments raised none rest
        | none => .refused
    | .short letters, none =>
      match readLetters draft letters with
      | .flags changed => readArguments changed none rest
      | .expects changed name => readArguments changed (some name) rest
      | .help => .help
      | .refused => .refused

/-- What the letters after one dash say before a command is named. -/
def readGlobalLetters (verbose : Bool) : List Char → Except Invocation Bool
  | [] => .ok verbose
  | 'v' :: rest => if verbose then .error .refused else readGlobalLetters true rest
  | 'V' :: _ => .error .version
  | 'h' :: _ => .error .help
  | _ => .error .refused

/-- Reads the arguments of the command that describes the others: at most the name of one. -/
def readTopic : List String → Invocation
  | [] => .help
  | [topic] => if topic = "help" ∨ (Action.ofName? topic).isSome then .help else .refused
  | _ => .refused

/-- Reads arguments up to the name of a command. -/
def readGlobal (verbose : Bool) : List String → Invocation
  | [] => .refused
  | argument :: rest =>
    match shapeOf argument with
    | .value =>
      match Action.ofName? argument with
      | some action => readArguments (.start action) none rest
      | none => if argument = "help" then readTopic rest else .refused
    | .long "verbose" none => if verbose then .refused else readGlobal true rest
    | .long "version" none => .version
    | .long "help" none => .help
    | .short letters =>
      match readGlobalLetters verbose letters with
      | .ok changed => readGlobal changed rest
      | .error invocation => invocation
    | _ => .refused

/-- Reads the arguments of the program. -/
def readInvocation (arguments : List String) : Invocation := readGlobal false arguments

end NodeQuery.Command
