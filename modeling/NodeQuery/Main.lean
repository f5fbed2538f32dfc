import NodeQuery.Command.Run

/-!
# The program

Reads the one file that the arguments name, runs the command and prints what it says.
-/

open NodeQuery Command

/-- The error that the system reports for a file. A directory is noticed only once it is read,
with a code of its own, and the bytes of a file are examined without the system. -/
def fileError : IO.Error → FileError
  | .noFileOrDirectory _ _ _ => .notFound
  | .inappropriateType _ 21 _ => .isDirectory
  | .inappropriateType _ _ _ => .notDirectory
  | .invalidArgument _ _ _ => .nameTooLong
  | .userError _ => .notText
  | error => .other (toString error)

/-- The files a run can read: the one that was read beforehand. -/
def onlyFile (content : Except FileError String) : Files := fun _ => content

/-- Reads the needed file, if there is one. -/
def readNeeded (name : Option String) : IO Files := do
  match name with
  | none => pure (onlyFile (.error .notFound))
  | some name =>
    try
      let content ← IO.FS.readFile name
      pure (onlyFile (.ok content))
    catch error => pure (onlyFile (.error (fileError error)))

/-- Runs the program. -/
def main (arguments : List String) : IO UInt32 := do
  let files ← readNeeded (neededFile? arguments)
  let outcome := run files arguments
  IO.print outcome.output
  match outcome.error with
  | some error => IO.eprint error
  | none => if outcome.code = 2 then IO.eprint usageText
  pure outcome.code.toUInt32
