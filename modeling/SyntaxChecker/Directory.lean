import SyntaxChecker.SourceText

/-!
# Directories

A directory holds files and directories under names. A path leads from the
directory through names that are separated by strokes, where an empty name and
a single point stay in place and two points go back. On the way, whatever has a
name after it must be a directory.

A path may leave the directory, by going back from it or by beginning with a
stroke. Nothing is known of what is outside, except that a path which only goes
back leads to a directory; no name is found there.
-/

namespace SyntaxChecker

/-- A directory with all that is below it. The directories that lead to a file
or to another directory are there without being listed. -/
structure Directory where
  files : List (String × List UInt8)
  dirs : List String

namespace Directory

/-- A path, by the names along it. -/
abbrev Path := List String

/-- The names along a path that say something. -/
def namesOf (path : String) : Path := (path.splitOn "/").filter fun n => n != "" && n != "."

/-- What is found at the end of a path. -/
inductive Entry where
  | file (bytes : List UInt8)
  | directory
  deriving DecidableEq, Repr

/-- What has a place in the directory. -/
def entryAt (d : Directory) (place : Path) : Option Entry :=
  match d.files.find? (fun f => namesOf f.1 == place) with
  | some f => some (.file f.2)
  | none =>
    if place.isEmpty || d.dirs.any (fun n => place.isPrefixOf (namesOf n))
        || d.files.any (fun f => place.isPrefixOf (namesOf f.1)) then
      some .directory
    else none

/-- Where a path has led. -/
inductive Place where
  /-- Below the directory, along the given names. -/
  | within (names : Path)
  | outside
  deriving DecidableEq, Repr

/-- The place to which two points lead back. -/
def Place.back : Place → Place
  | within [] => outside
  | within names => within names.dropLast
  | outside => outside

/-- What is found at a place. -/
def entryOf (d : Directory) : Place → Option Entry
  | .within names => d.entryAt names
  | .outside => some .directory

/-- Go on from a place to what has the given name there, if it may be there. -/
def Place.enter (name : String) : Place → Option Place
  | within names => some (within (names ++ [name]))
  | outside => none

/-- Go along the names of a path, from the place that was reached. -/
def walk (d : Directory) (place : Place) : Path → Except OpenFault Place
  | [] => .ok place
  | name :: rest =>
    match d.entryOf place with
    | none => .error .missing
    | some (.file _) => .error .notDirectory
    | some .directory =>
      if name == "" || name == "." then d.walk place rest
      else if name == ".." then d.walk place.back rest
      else
        match place.enter name with
        | none => .error .missing
        | some next => d.walk next rest

/-- The bytes of the file that a path leads to. The empty path leads nowhere. -/
def read (d : Directory) : SourceText.Reader := fun path =>
  if path == "" then .error .missing
  else
    match d.walk (if path.startsWith "/" then .outside else .within []) (path.splitOn "/") with
    | .error f => .error f
    | .ok place =>
      match d.entryOf place with
      | none => .error .missing
      | some .directory => .error .directory
      | some (.file bytes) => .ok bytes

end Directory

end SyntaxChecker
