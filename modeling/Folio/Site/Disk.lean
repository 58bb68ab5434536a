import Folio.Site.FileTree

/-!
# Disks

What a loader asks of the place where files are kept.  A disk that nobody writes to gives the same
answer each time; its answers need not fit together, because a file may be listed and yet not be
there for the one who asks.  A file tree is a disk on which every directory can be listed.
-/

namespace Folio.Site

/-- The answers of a place where files are kept. -/
structure Disk where
  /-- Whether a path leads to a directory. -/
  hasDirectory : String → Bool
  /-- Whether a path leads to a file. -/
  hasFile : String → Bool
  /-- The text of the file that a path leads to, if it can be read and its bytes are text. -/
  read? : String → Option String
  /-- The files in the directory that a path leads to, and those in the directories below if `deep`,
  each by the names that lead to it; or the path of a directory that cannot be listed. -/
  list : (path : String) → (deep : Bool) → Except String (List (List String))

/-- The answers of a file tree. -/
def FileTree.disk (tree : FileTree) : Disk where
  hasDirectory := tree.hasDirectory
  hasFile := tree.hasFile
  read? := tree.read?
  list path deep :=
    match tree.place? path with
    | none => .ok []
    | some place => .ok ((tree.filesBelow place).filter fun names => deep || names.length == 1)

end Folio.Site
