/-
# Directories in memory

A directory of text files that commands can run on.  A file may lie in a directory
further down; such directories exist as far as files lie in them.
-/
import SchemaDdl.Command.Run

namespace SchemaDdl.Command

/-! ## Paths -/

/-- The place of a file below a directory, as the names on the way to it. -/
abbrev Place := List String

/-- The files of a directory with their texts. -/
abbrev Directory := List (Place × String)

/-- The names on a path from first to last. -/
def pathNames (path : String) : List String :=
  (path.toList.splitOn '/').map String.ofList

/-- Whether there is a directory at the given place. -/
def Directory.isDirectory (files : Directory) (place : Place) : Bool :=
  place.isEmpty || files.any fun f => place.isPrefixOf f.1 && place.length < f.1.length

/-- Where names lead from a place, of which `place` holds the names last first.  Every
place on the way must be a directory, and nothing lies above the first. -/
def Directory.resolve (files : Directory) (place : Place) : List String → Option Place
  | [] => some place.reverse
  | name :: rest =>
    if !files.isDirectory place.reverse then none
    else if name = "" ∨ name = "." then files.resolve place rest
    else if name = ".." then
      match place with
      | [] => none
      | _ :: above => files.resolve above rest
    else files.resolve (name :: place) rest

/-- The place of a file by its path, if the path can lead to a file. -/
def Directory.place? (files : Directory) (path : String) : Option Place :=
  if Text.beginsWith path "/" then none
  else (files.resolve [] (pathNames path)).filter (!files.isDirectory ·)

/-! ## Reading and writing -/

/-- The directory with the given files. -/
def Directory.ofFiles (files : List (String × String)) : Directory :=
  files.map fun (path, text) => (pathNames path, text)

/-- The text of a file. -/
def Directory.read (files : Directory) (path : String) : Option String :=
  (files.place? path).bind fun place => List.lookup place files

/-- The directory after a file is written. -/
def Directory.write (files : Directory) (path text : String) : Option Directory :=
  (files.place? path).map fun place => (place, text) :: files.filter (·.1 != place)

/-- Access to the files of a directory in memory. -/
def directoryAccess : FileAccess (StateM Directory) where
  read path := return (← get).read path
  write path text := do
    match (← get).write path text with
    | some files =>
      set files
      return true
    | none => return false

/-- Runs the program in a directory. -/
def runInDirectory (files : Directory) (arguments : List String)
    (environment : Option String) : Outcome × Directory :=
  (runArguments directoryAccess arguments environment).run files

end SchemaDdl.Command
