import Folio.Config
import Folio.Json.Source
import Folio.Site.Error
import Folio.Site.FileTree
import Folio.Yaml.Record

/-!
# Site configuration

Where the documents of a site are and how they are compiled.  A configuration is read from JSON or
YAML; what it says about extensions is brought into one form.
-/

namespace Folio.Site

open Record

/-- The two collections of a site. -/
inductive Kind where
  /-- Pages, in directories of any depth. -/
  | docs
  /-- Posts, all in one directory. -/
  | posts
  deriving DecidableEq, Repr, Inhabited

/-- The configuration of a site. -/
structure SiteConfig where
  docsDir : String := "content/docs"
  postsDir : String := "content/blog"
  /-- The extensions of documents, without a point in front. -/
  extensions : List String := ["md", "mdx"]
  /-- How many documents may be compiled at once. -/
  maxThreads : Option Nat := none
  /-- The components of the site; none stand for the built-in ones. -/
  components : List Binding := []
  compile : CompileOptions := {}
  deriving DecidableEq, Repr, Inhabited

namespace SiteConfig

/-- The directory of a collection. -/
def root (config : SiteConfig) : Kind → String
  | .docs => config.docsDir
  | .posts => config.postsDir

/-- The registry of the site's components. -/
def registry (config : SiteConfig) : Registry :=
  if config.components.isEmpty then Registry.docs else Registry.ofBindings config.components

/-! ## Reading -/

/-- An extension without the points in front, in ASCII lower case. -/
def normalExtension (extension : String) : String :=
  String.ofList ((extension.toList.dropWhile (· == '.')).map Char.toLower)

/-- The configuration with its extensions in normal form.  There has to be one, and a number of
threads cannot be zero. -/
def validate (config : SiteConfig) : Except LoadError SiteConfig :=
  let extensions := (config.extensions.map normalExtension).filter (!·.isEmpty)
  if extensions.isEmpty then .error (.config .noExtension)
  else if config.maxThreads = some 0 then .error (.config .noThread)
  else .ok { config with extensions }

/-- Reads the fields of a configuration. -/
def read? {δ : Type} [Readable δ] (document : δ) : Option SiteConfig := do
  let names := ["docsDir", "postsDir", "extensions", "maxThreads", "components", "compile"]
  let [docsDir, postsDir, extensions, maxThreads, components, compile] ←
    Readable.fields? names document | none
  let default : SiteConfig := {}
  return {
    docsDir := ← defaulted default.docsDir Readable.text? docsDir
    postsDir := ← defaulted default.postsDir Readable.text? postsDir
    extensions := ← defaulted default.extensions (list Readable.text?) extensions
    maxThreads := ← optional Readable.count? maxThreads
    components := ← defaulted [] (list Binding.read?) components
    compile := ← defaulted {} CompileOptions.read? compile }

/-- Reads a configuration from a document, if there is one. -/
def ofDocument {δ : Type} [Readable δ] (document : Option δ) : Except LoadError SiteConfig :=
  match document.bind read? with
  | some config => config.validate
  | none => .error (.config .unreadable)

/-- Reads a configuration from JSON. -/
def ofJson (text : String) : Except LoadError SiteConfig :=
  ofDocument (Json.Source.ofText? text)

/-- Reads a configuration from YAML. -/
def ofYaml (text : String) : Except LoadError SiteConfig :=
  ofDocument (Yaml.Document.ofText? text.toList)

/-- Reads a configuration from a file.  Its directories are seen from the directory of the file. -/
def ofPath (tree : FileTree) (path : String) : Except LoadError SiteConfig := do
  let some text := tree.read? path | throw (.unreadable path)
  let config ← if extension? path = some "json" then ofJson text else ofYaml text
  match parent? path with
  | some base =>
    return { config with
      docsDir := join base config.docsDir
      postsDir := join base config.postsDir }
  | none => return config

/-! ## Writing -/

/-- The configuration as JSON, every field written. -/
def toJson (config : SiteConfig) : Json :=
  .object [("docsDir", config.docsDir), ("postsDir", config.postsDir),
    ("extensions", .ofList Json.string config.extensions),
    ("maxThreads", .ofOption (fun n : Nat => (n : Json)) config.maxThreads),
    ("components", .ofList Binding.toJson config.components),
    ("compile", config.compile.toJson)]

end SiteConfig

end Folio.Site
