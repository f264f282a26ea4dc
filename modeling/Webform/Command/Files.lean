/-!
# Files

The files of a working directory as a command sees them: what there is to read under a path, and whether the path can be written.
Several paths may lead to one file. `Files.write` changes one file or nothing.
-/

namespace Webform.Command

/-- Why a path cannot be read or written. -/
inductive FileFault where
  | noSuchFile
  | notDirectory
  | isDirectory
  | other (message : String)
deriving DecidableEq, Repr

def FileFault.message : FileFault → String
  | noSuchFile => "No such file or directory (os error 2)"
  | notDirectory => "Not a directory (os error 20)"
  | isDirectory => "Is a directory (os error 21)"
  | other message => message

/-- The files that paths lead to: what can be read there, and why a file cannot be written, if it cannot. -/
structure Files where
  /-- The way that a path stands for; paths that stand for one way lead to one file. -/
  way : String → List String
  content : List String → Except FileFault String
  refusal? : List String → Option FileFault

namespace Files

/-- What can be read under a path. -/
def read (fs : Files) (path : String) : Except FileFault String := fs.content (fs.way path)

/-- Stores a text under a path that can be written. -/
def write (fs : Files) (path text : String) : Except FileFault Files :=
  match fs.refusal? (fs.way path) with
  | some fault => .error fault
  | none => .ok { fs with content := fun way => if way = fs.way path then .ok text else fs.content way }

/-- Files of which some have been read. -/
def ofReads (reads : List (String × Except FileFault String)) : Files where
  way path := [path]
  content way := (reads.findSome? fun r => if [r.1] = way then some r.2 else none).getD (.error .noSuchFile)
  refusal? _ := none

/-! ## A directory of known contents -/

/-- The names that a path is made of, after `/` when it starts at the root; empty ones and those of the directory itself are left
out. -/
def names (path : String) : List String :=
  (if path.toList.head? = some '/' then ["/"] else []) ++
    ((path.toList.splitOn '/').map .ofList).filter fun n => n ≠ "" ∧ n ≠ "."

/-- What a list of names leads to in a directory that holds the given files. -/
inductive Place where
  | file (text : String)
  | directory
  /-- Nothing is there, in a directory that exists. -/
  | vacant
  /-- The way there ends early. -/
  | nowhere (fault : FileFault)

/-- What a list of names leads to; nothing is known outside the directory. -/
def place (entries : List (List String × String)) (way : List String) : Place :=
  if "/" ∈ way ∨ ".." ∈ way then .nowhere .noSuchFile
  else
    match entries.find? fun e => e.1 = way with
    | some e => .file e.2
    | none =>
      if way = [] ∨ entries.any (fun e => way.isPrefixOf e.1) then .directory
      else if entries.any (fun e => e.1.isPrefixOf way) then .nowhere .notDirectory
      else if way.length = 1 ∨ entries.any (fun e => way.dropLast.isPrefixOf e.1) then .vacant
      else .nowhere .noSuchFile

/-- The files of a directory that holds the given files. -/
def ofList (entries : List (String × String)) : Files :=
  let entries := entries.map fun e => (names e.1, e.2)
  { way := names
    content := fun way =>
      match place entries way with
      | .file text => .ok text
      | .directory => .error .isDirectory
      | .vacant => .error .noSuchFile
      | .nowhere fault => .error fault
    refusal? := fun way =>
      match place entries way with
      | .file _ | .vacant => none
      | .directory => some .isDirectory
      | .nowhere fault => some fault }

end Files

end Webform.Command
