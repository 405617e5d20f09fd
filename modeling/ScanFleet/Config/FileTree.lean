import ScanFleet.Text.Blank

/-! The files that a program can read.  A path is walked name by name, and whatever a name is looked
for in has to be a directory: two dots lead up from a directory that is there, and a path that ends
in a slash leads to no text. -/

namespace ScanFleet

open Text

/-- The files below a directory, by path; a path without a text is a directory. -/
abbrev FileTree := List (String × Option String)

/-- What a path leads to. -/
inductive FileEntry where
  | text (s : String)
  | directory
  | absent
deriving DecidableEq, Repr

/-- A place as the names that lead to it from the directory, the last one first.  The root is a name
of its own, and two dots are one where they lead out of the directory. -/
abbrev Place := List String

namespace Place

/-- The place above another one; nothing is above the root. -/
def above : Place → Place
  | [] => [".."]
  | name :: below =>
    if name == "/" then name :: below
    else if name == ".." then ".." :: name :: below
    else below

/-- The place that a name leads to from another place. -/
def enter (place : Place) (name : String) : Place :=
  if name == "" || name == "." then place
  else if name == ".." then place.above
  else name :: place

/-- The place where a path starts. -/
def start (path : String) : Place := if path.startsWith "/" then ["/"] else []

/-- The names along a path. -/
def names (path : String) : List String := (split (· == '/') path.toList).map String.ofList

/-- The place that a path leads to if all on its way is there. -/
def ofPath (path : String) : Place := (names path).foldl enter (start path)

end Place

namespace FileTree

/-- What is found outside the directory. -/
def system : FileTree := [("/dev/null", some ""), ("/etc", none), ("/tmp", none)]

/-- What is at a place.  The way to a file is made of directories, and so is the way out. -/
def entryAt (files : FileTree) (place : Place) : FileEntry :=
  match files.find? fun file => Place.ofPath file.1 == place with
  | some (_, some text) => .text text
  | some (_, none) => .directory
  | none =>
    if place.all (fun name => name == ".." || name == "/") ||
        files.any fun file => place.isSuffixOf (Place.ofPath file.1) then .directory
    else .absent

/-- The place that some names lead to from another place. -/
def walk (files : FileTree) (place : Place) : List String → Option Place
  | [] => some place
  | name :: rest =>
    if files.entryAt place = .directory then files.walk (place.enter name) rest else none

/-- What a path leads to. -/
def find (files : FileTree) (path : String) : FileEntry :=
  let files := files ++ system
  if path.isEmpty then .absent
  else ((files.walk (.start path) (Place.names path)).map files.entryAt).getD .absent

end FileTree

end ScanFleet
