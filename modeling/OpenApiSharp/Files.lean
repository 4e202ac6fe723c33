import OpenApiSharp.Keyed
import OpenApiSharp.Text.Printable
import OpenApiSharp.Text.Search

/-!
# Trees of files

A path is a text whose parts are separated by slashes.  A tree holds files with
their contents, of any type: those below the current directory, or all that there
are.  A path is followed part by part, so a step upwards counts only where there
is a directory to leave.
-/

namespace OpenApiSharp.Files

open Text

def parts (path : String) : List String :=
  ((pieces '/' path.toList).map String.ofList).filter fun part => part != "" && part != "."

/-- What a path begins with if it does not lead on from the current directory. -/
def rootMark (path : String) : String :=
  match path.toList.takeWhile (· == '/') with
  | [] => ""
  | [_, _] => "//"
  | _ => "/"

/-- The path without the parts that say nothing. -/
def normalize (path : String) : String :=
  let shown := rootMark path ++ "/".intercalate (parts path)
  if shown.isEmpty then "." else shown

/-- The path of something below a directory.  No text stands for the current
directory. -/
def join (directory path : String) : String :=
  normalize (if directory.isEmpty then path else directory ++ "/" ++ path)

def parent (path : String) : String :=
  normalize (rootMark path ++ "/".intercalate (parts path).dropLast)

/-- The end of the last part of a path from its last point on.  A point at either
end of the part begins no suffix. -/
def suffix (path : String) : String :=
  let name := ((parts path).getLast?.getD "").toList
  let ending := name.reverse.takeWhile (· != '.')
  if ending.isEmpty || name.length ≤ ending.length + 1 then ""
  else String.ofList ('.' :: ending.reverse)

/-- What a path leads to. -/
inductive Kind where
  | missing
  | file
  | directory
  deriving DecidableEq, Repr

/-- Why a file cannot be written.  Each cause names the path at fault. -/
inductive WriteFault where
  /-- A directory that has to be made is there as a file. -/
  | fileExists (path : String)
  /-- A part of the path of a directory that has to be made is a file. -/
  | notDirectory (path : String)
  /-- The file itself is there as a directory. -/
  | isDirectory (path : String)
  deriving DecidableEq, Repr

def WriteFault.message : WriteFault → String
  | fileExists path => "[Errno 17] File exists: " ++ quoted path
  | notDirectory path => "[Errno 20] Not a directory: " ++ quoted path
  | isDirectory path => "[Errno 21] Is a directory: " ++ quoted path

/-- Files by the parts of their paths. -/
structure Tree (γ : Type := String) where
  files : List (List String × γ) := []
  /-- Directories that were made, beside those that files lie in. -/
  directories : List (List String) := []
  /-- The place of the current directory in a tree of all files.  A tree without
  one has the files below the current directory. -/
  current? : Option (List String) := none
  deriving DecidableEq, Repr

/-- Where a path leads. -/
inductive Walk where
  /-- To a place of the tree, be there something or not. -/
  | reached (location : List String)
  /-- Out of the tree. -/
  | outside
  /-- Through something that is missing. -/
  | missing
  /-- Through a file. -/
  | blocked
  deriving DecidableEq, Repr

namespace Tree

variable {γ : Type}

def content? (tree : Tree γ) (location : List String) : Option γ :=
  Keyed.find? (· == location) tree.files

def kindAt (tree : Tree γ) (location : List String) : Kind :=
  if (tree.content? location).isSome then .file
  else if location.isEmpty || tree.directories.contains location ||
      (tree.files.any fun file => location.isPrefixOf file.1) ||
      tree.current?.any fun current => location.isPrefixOf current then .directory
  else .missing

def step (tree : Tree γ) (walk : Walk) (part : String) : Walk :=
  match walk with
  | .reached location =>
      match tree.kindAt location with
      | .missing => .missing
      | .file => .blocked
      | .directory =>
          if part != ".." then .reached (location ++ [part])
          else if location.isEmpty && tree.current?.isNone then .outside
          else .reached location.dropLast
  | ended => ended

def start (tree : Tree γ) (mark : String) : Walk :=
  match tree.current? with
  | some current => .reached (if mark.isEmpty then current else [])
  | none => if mark.isEmpty then .reached [] else .outside

def walk (tree : Tree γ) (mark : String) (parts : List String) : Walk :=
  parts.foldl tree.step (tree.start mark)

def follow (tree : Tree γ) (path : String) : Walk :=
  tree.walk (rootMark path) (parts path)

/-- What a path leads to.  Behind a slash only a directory can be, and outside of the
tree there is nothing but the directories around it. -/
def kind (tree : Tree γ) (path : String) : Kind :=
  match tree.follow path with
  | .reached location =>
      match tree.kindAt location with
      | .file => if path.endsWith "/" || path.endsWith "/." then .missing else .file
      | other => if path.isEmpty then .missing else other
  | .outside => if (parts path).all (· == "..") then .directory else .missing
  | .missing | .blocked => .missing

def read? (tree : Tree γ) (path : String) : Option γ :=
  match tree.follow path with
  | .reached location => tree.content? location
  | .outside | .missing | .blocked => none

/-- Make the directory that a path leads to, unless it is there. -/
def makeDirectory (tree : Tree γ) (mark : String) (parts : List String) :
    Except WriteFault (Tree γ) :=
  let path := mark ++ "/".intercalate parts
  match tree.walk mark parts with
  | .reached location =>
      match tree.kindAt location with
      | .missing => .ok { tree with directories := location :: tree.directories }
      | .directory => .ok tree
      | .file => .error (.fileExists path)
  | .blocked => .error (.notDirectory path)
  | .outside | .missing => .ok tree

/-- Make a directory, with those that the way to it lacks.  The parts of the path are
given from the last one on. -/
def makeDirectories (tree : Tree γ) (mark : String) :
    List String → Except WriteFault (Tree γ)
  | [] => .ok tree
  | part :: outer => do
      let parts := (part :: outer).reverse
      match tree.walk mark parts with
      | .missing => (← tree.makeDirectories mark outer).makeDirectory mark parts
      | _ => tree.makeDirectory mark parts

/-- Write a file, with the directories that it needs.  What lies outside of the
tree is not written. -/
def write (tree : Tree γ) (path : String) (content : γ) :
    Except WriteFault (Tree γ) := do
  let made ← tree.makeDirectories (rootMark path) (parts path).dropLast.reverse
  match made.follow path with
  | .reached location =>
      if made.kindAt location = .directory then .error (.isDirectory path)
      else .ok { made with files := Keyed.put (· == ·) location content made.files }
  | .outside | .missing | .blocked => .ok made

/-- Write files one after the other, until one cannot be written. -/
def writeAll (tree : Tree γ) : List (String × γ) → Tree γ × Option WriteFault
  | [] => (tree, none)
  | (path, content) :: rest =>
      match tree.write path content with
      | .ok next => next.writeAll rest
      | .error fault => (tree, some fault)

def ofList (files : List (String × γ)) : Tree γ :=
  { files := Keyed.ofList (· == ·) (files.map fun (path, content) => (parts path, content)) }

end Tree

end OpenApiSharp.Files
