import Folio.Site.Path

/-!
# File trees

The files below a working directory.  A place is the list of the names that lead to it.  A directory
is there as soon as something is in it, or on its own.  Paths, and so the roots of collections, are
seen from the working directory: an absolute path leads out of the tree, and nothing is found there.
-/

namespace Folio.Site

/-- What is at a place. -/
inductive Item where
  | directory
  /-- A file with its text, if its bytes are text. -/
  | file (text : Option String)
  deriving DecidableEq, Repr, Inhabited

/-- The files and the empty directories below a working directory. -/
structure FileTree where
  entries : List (List String × Item) := []
  deriving DecidableEq, Repr, Inhabited

namespace FileTree

/-! ## Places -/

/-- Whether there is a directory at a place. -/
def isDirectory (tree : FileTree) (place : List String) : Bool :=
  place.isEmpty || tree.entries.any fun (other, item) =>
    place.isPrefixOf other && (place.length < other.length || item == .directory)

/-- The file at a place, as its text, if its bytes are text. -/
def file? (tree : FileTree) (place : List String) : Option (Option String) :=
  match tree.entries.find? (·.1 == place) with
  | some (_, .file text) => some text
  | _ => none

/-- The place of a segment from a directory. -/
def step (tree : FileTree) (place : List String) (segment : List Char) : Option (List String) :=
  if !tree.isDirectory place then none
  else if segment = [] ∨ segment = ['.'] then some place
  else if segment = ['.', '.'] then (if place.isEmpty then none else some place.dropLast)
  else some (place ++ [String.ofList segment])

/-- The place that a path leads to, whether or not there is anything.  Every step but the last has
to be a directory.  A path is seen from the working directory, and what lies around that is not
known: an absolute path, and one that leads out of the tree, has no place. -/
def place? (tree : FileTree) (path : String) : Option (List String) :=
  if path.isEmpty || isAbsolute path then none
  else (segments path.toList).foldlM tree.step []

/-- Whether a path leads to a directory. -/
def hasDirectory (tree : FileTree) (path : String) : Bool :=
  ((tree.place? path).map tree.isDirectory).getD false

/-- Whether a path leads to a file. -/
def hasFile (tree : FileTree) (path : String) : Bool :=
  ((tree.place? path).bind tree.file?).isSome

/-- The text of the file that a path leads to. -/
def read? (tree : FileTree) (path : String) : Option String :=
  ((tree.place? path).bind tree.file?).join

/-- The files below a directory, each by the names that lead to it from there. -/
def filesBelow (tree : FileTree) (place : List String) : List (List String) :=
  tree.entries.filterMap fun (other, item) =>
    if place.isPrefixOf other && item != .directory && place.length < other.length then
      some (other.drop place.length)
    else none

/-! ## Changes -/

/-- The names that a path leads along, without looking at the tree. -/
def names (path : String) : List String :=
  (components path).foldl (fun place component =>
    match component with
    | .name text => place ++ [text]
    | .parent => place.dropLast
    | _ => place) []

/-- The tree with an item at a path.  The directories on the way come with it. -/
def write (tree : FileTree) (path : String) (item : Item) : FileTree :=
  let place := names path
  ⟨tree.entries.filter (·.1 != place) ++ [(place, item)]⟩

/-- The tree without what is at a path and below.  The directory around it stays. -/
def remove (tree : FileTree) (path : String) : FileTree :=
  let place := names path
  ⟨tree.entries.filter (fun e => !place.isPrefixOf e.1) ++ [(place.dropLast, .directory)]⟩

end FileTree

end Folio.Site
