import NodeQuery.Text.Blank

/-!
# Files in folders

A folder holds files and further folders by name. A path is walked from a place in the tree of
folders, one name after the other: a dot stays, two dots go up, any other name goes down. Only
from a folder can a walk go on, so that a path which has a file anywhere but at its end is
refused, whatever follows. A path that starts with a slash is walked from the root of the tree,
and one that ends with a slash stands for a folder.
-/

namespace NodeQuery.Command

/-- Why a file could not be read. -/
inductive FileError where
  /-- There is no such file. -/
  | notFound
  /-- There is a directory of that name. -/
  | isDirectory
  /-- A file stands where the path needs a directory. -/
  | notDirectory
  /-- The path or a name in it is too long. -/
  | nameTooLong
  /-- The bytes of the file are no text. -/
  | notText
  /-- The system gives another reason. -/
  | other (reason : String)
deriving DecidableEq, Repr

/-- The message of a file error. -/
def FileError.message : FileError → String
  | notFound => "No such file or directory (os error 2)"
  | isDirectory => "Is a directory (os error 21)"
  | notDirectory => "Not a directory (os error 20)"
  | nameTooLong => "File name too long (os error 36)"
  | notText => "stream did not contain valid UTF-8"
  | other reason => reason

/-- The contents of files by path. -/
def Files : Type := String → Except FileError String

/-- What a name stands for. -/
inductive Entry where
  /-- A file with a text. -/
  | file (content : String)
  /-- A folder with the names it holds. -/
  | folder (entries : List (String × Entry))

/-- A place in a tree of folders. -/
structure Place where
  /-- What is there. -/
  entry : Entry
  /-- The folders around it, the innermost first. -/
  above : List Entry

namespace Place

/-- The most bytes that a name may have. -/
def nameLimit : Nat := 255

/-- The most bytes that a path may have. -/
def pathLimit : Nat := 4095

/-- The place around a place; nothing is around the root. -/
def up (place : Place) : Place :=
  match place.above with
  | [] => place
  | outer :: others => ⟨outer, others⟩

/-- The root of the tree. -/
def root (place : Place) : Place := ⟨place.above.getLast?.getD place.entry, []⟩

/-- The place that one name leads to. -/
def step (place : Place) (name : String) : Except FileError Place :=
  match place.entry with
  | .file _ => .error .notDirectory
  | .folder entries =>
    if name = "." then .ok place
    else if name = ".." then .ok place.up
    else if nameLimit < name.utf8ByteSize then .error .nameTooLong
    else
      match entries.lookup name with
      | none => .error .notFound
      | some entry => .ok ⟨entry, place.entry :: place.above⟩

/-- The place that names lead to. -/
def walk (place : Place) : List String → Except FileError Place
  | [] => .ok place
  | name :: names =>
    match place.step name with
    | .error error => .error error
    | .ok next => next.walk names

/-- The names in a path; a dot is added after a last slash. -/
def namesOf (path : String) : List String :=
  (Text.wordsBy (· == '/') path.toList).map String.ofList ++
    if path.toList.getLast? = some '/' then ["."] else []

/-- The text of the file at a place. -/
def content (place : Place) : Except FileError String :=
  match place.entry with
  | .file text => .ok text
  | .folder _ => .error .isDirectory

/-- Reads the file that a path leads to. -/
def read (place : Place) (path : String) : Except FileError String :=
  if path = "" then .error .notFound
  else if pathLimit < path.utf8ByteSize then .error .nameTooLong
  else do
    let start := if path.toList.head? = some '/' then place.root else place
    (← start.walk (namesOf path)).content

/-- The files that are read from a place. -/
def files (place : Place) : Files := place.read

end Place

end NodeQuery.Command
