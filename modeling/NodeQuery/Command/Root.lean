import NodeQuery.Filter.PathTable
import NodeQuery.Selector.Simple

/-!
# Stored paths on the command line

The stored path of a root is given as the root, an equals sign and the path, with spaces
allowed around both parts. The first equals sign separates them, so that the path may hold
others.
-/

namespace NodeQuery.Command

open Text

/-- Why an argument does not give the stored path of a root. -/
inductive RootError where
  /-- It has no equals sign. -/
  | malformed (argument : String)
  /-- What stands before the equals sign is no simple selector. -/
  | invalid (argument : String) (error : ParseError)
  /-- What stands before the equals sign cannot be a root. -/
  | unsuitable (selector : String)
deriving DecidableEq, Repr

/-- The message of a root error. -/
def RootError.message : RootError → String
  | malformed argument => "expected SELECTOR=PATH, got \x60" ++ argument ++ "\x60"
  | invalid argument error =>
    "invalid root selector in \x60" ++ argument ++ "\x60: " ++ error.message
  | unsuitable selector =>
    "path roots must be id or role selectors, got \x60" ++ selector ++ "\x60"

/-- Reads a root and its stored path. -/
def parseRoot (argument : String) : Except RootError (Root × String) :=
  let text := argument.toList
  match text.dropWhile (· ≠ '=') with
  | [] => .error (.malformed argument)
  | _ :: path =>
    match Simple.parse (trimSpaces (text.takeWhile (· ≠ '='))) with
    | .error error => .error (.invalid argument error)
    | .ok simple =>
      match simple.toRoot? with
      | none => .error (.unsuitable simple.text)
      | some root => .ok (root, String.ofList (trimSpaces path))

/-- Reads several stored paths into a table. -/
def parseRoots (table : Filter.PathTable) :
    List String → Except RootError Filter.PathTable
  | [] => .ok table
  | argument :: rest =>
    match parseRoot argument with
    | .error error => .error error
    | .ok (root, path) => parseRoots (table.insert root.toSimple path).2 rest

end NodeQuery.Command
