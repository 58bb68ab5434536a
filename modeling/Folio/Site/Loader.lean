import Folio.Site.Config
import Folio.Site.Disk

/-!
# Loading documents

A loader finds the documents of one collection.  A document's id is its path below the root without
the extension; for pages an `index` file stands for its directory.
-/

namespace Folio.Site

/-- Where the documents of a collection are.  The root is seen from the working directory, as all
paths are. -/
structure Loader where
  root : String
  kind : Kind
  extensions : List String := ["md", "mdx"]
  deriving DecidableEq, Repr, Inhabited

/-- A document as it is read. -/
structure Source where
  path : String
  text : String
  deriving DecidableEq, Repr, Inhabited

namespace Loader

/-- The loader of a collection that a configuration describes. -/
def ofConfig (config : SiteConfig) (kind : Kind) : Loader where
  root := config.root kind
  kind
  extensions := config.extensions

/-! ## Ids -/

/-- Whether a file with a name is a document.  The case of the extension does not matter. -/
def isDocument (loader : Loader) (name : String) : Bool :=
  match (splitName name.toList).2 with
  | some ext =>
    loader.extensions.any fun known => known.toList.map Char.toLower == ext.map Char.toLower
  | none => false

/-- The path of a file below the root without its extension. -/
def stemPath (names : List String) : String :=
  let stem := match names.getLast? with
    | some name => [withoutExtension name.toList]
    | none => []
  String.ofList (['/'].intercalate (names.dropLast.map String.toList ++ stem))

/-- The parts without a last part `index` that is not the only one. -/
def dropIndex (parts : List String) : List String :=
  if 1 < parts.length && parts.getLast? == some "index" then parts.dropLast else parts

/-- The id of the file that the names lead to from the root. -/
def idOf (loader : Loader) (names : List String) : String :=
  let parts := (components (stemPath names)).map Component.text
  let parts := match loader.kind with
    | .docs => dropIndex parts
    | .posts => parts
  "/".intercalate parts

/-- The documents below the root, by the names that lead to them.  Posts are in the root itself. -/
def documents (loader : Loader) (tree : FileTree) : List (List String) :=
  match tree.place? loader.root with
  | none => []
  | some place =>
    (tree.filesBelow place).filter fun names =>
      (loader.kind == .docs || names.length == 1) &&
        ((names.getLast?.map loader.isDocument).getD false)

/-- The ids of all documents in increasing order.  A root that is not there has none. -/
def ids (loader : Loader) (tree : FileTree) : List String :=
  if tree.hasDirectory loader.root then
    ((Dict.ofList ((loader.documents tree).map fun names => (loader.idOf names, ()))).entries).map
      (·.1)
  else []

/-- Whether a file that the names lead to is a document by its name. -/
def isListed (loader : Loader) (names : List String) : Bool :=
  (names.getLast?.map loader.isDocument).getD false

/-- The ids of all documents on a disk in increasing order.  A root that is not there has none. -/
def listIds (loader : Loader) (disk : Disk) : Except LoadError (List String) :=
  if disk.hasDirectory loader.root then
    match disk.list loader.root (loader.kind == .docs) with
    | .ok files =>
      let entries := (files.filter loader.isListed).map fun names => (loader.idOf names, ())
      .ok ((Dict.ofList entries).entries.map (·.1))
    | .error path => .error (.unreadable path)
  else .ok []

/-! ## Loading -/

/-- Whether an id is a path that stays below the root, written with slashes. -/
def isSafeId (id : String) : Bool :=
  !id.isEmpty && !id.toList.contains '\\' && (components id).all fun component =>
    match component with
    | .name _ => true
    | _ => false

/-- Whether an id may belong to the collection. -/
def admits (loader : Loader) (id : String) : Bool :=
  isSafeId id && (loader.kind == .docs || !id.toList.contains '/')

/-- The paths that an id may stand for, best first. -/
def candidates (loader : Loader) (id : String) : List String :=
  let direct := loader.extensions.map fun ext => join loader.root (id ++ "." ++ ext)
  match loader.kind with
  | .docs =>
    direct ++ loader.extensions.map fun ext => join (join loader.root id) ("index." ++ ext)
  | .posts => direct

/-- Fetches the document with an id from a disk. -/
def fetch (loader : Loader) (disk : Disk) (id : String) : Except LoadError Source :=
  if !loader.admits id then .error (.missingDocument id)
  else
    match (loader.candidates id).find? disk.hasFile with
    | none => .error (.missingDocument id)
    | some path =>
      match disk.read? path with
      | some text => .ok { path, text }
      | none => .error (.unreadable path)

/-- Loads the document with an id. -/
def load (loader : Loader) (tree : FileTree) (id : String) : Except LoadError Source :=
  loader.fetch tree.disk id

/-- Loads all documents in the order of their ids.  The first failure ends the batch. -/
def loadAll (loader : Loader) (tree : FileTree) : Except LoadError (List (String × Source)) :=
  if tree.hasDirectory loader.root then
    (loader.ids tree).mapM fun id => do return (id, ← loader.load tree id)
  else .error (.missingRoot loader.root)

end Loader

end Folio.Site
