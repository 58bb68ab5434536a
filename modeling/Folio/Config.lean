import Folio.Component.Registry
import Folio.Json.Basic
import Folio.Options
import Folio.Record

/-!
# Reading and writing options

The options of a compilation and the bindings of components, as records of a document in any
format, and as JSON.
-/

namespace Folio

open Record

variable {δ : Type} [Readable δ]

/-! ## Names of alternatives -/

/-- The names of the places of a heading's link. -/
def SelfLink.names : List (String × SelfLink) :=
  [("wrap", .wrap), ("prepend", .prepend), ("append", .append), ("off", .off)]

/-- The name of a place of a heading's link. -/
def SelfLink.name : SelfLink → String
  | .wrap => "wrap"
  | .prepend => "prepend"
  | .append => "append"
  | .off => "off"

/-- The names of the sources of a table of contents. -/
def OutlineSource.names : List (String × OutlineSource) :=
  [("text", .text), ("tree", .tree)]

/-- The name of a source of a table of contents. -/
def OutlineSource.name : OutlineSource → String
  | .text => "text"
  | .tree => "tree"

/-! ## Reading -/

/-- Reads which markup bodies may use. -/
def ParseOptions.read? (document : δ) : Option ParseOptions := do
  let [gfm, jsx] ← Readable.fields? ["gfm", "jsx"] document | none
  return {
    gfm := ← defaulted true Readable.flag? gfm
    jsx := ← defaulted true Readable.flag? jsx }

/-- Reads the options of a compilation. -/
def CompileOptions.read? (document : δ) : Option CompileOptions := do
  let names := ["highlight", "theme", "autolink", "tocSource", "parse"]
  let [highlight, theme, autolink, tocSource, parse] ← Readable.fields? names document | none
  return {
    highlight := ← defaulted true Readable.flag? highlight
    theme := ← defaulted Theme.defaultName Readable.text? theme
    autolink := ← defaulted .wrap (oneOf SelfLink.names) autolink
    tocSource := ← defaulted .text (oneOf OutlineSource.names) tocSource
    parse := ← defaulted {} ParseOptions.read? parse }

/-- Reads the binding of a component. -/
def Binding.read? (document : δ) : Option Binding := do
  let names := ["name", "element", "modulePath"]
  let [name, element, modulePath] ← Readable.fields? names document | none
  return {
    name := ← required Readable.text? name
    element := ← required Readable.text? element
    modulePath := ← optional Readable.text? modulePath }

/-- Reads the bindings that a registry is made of. -/
def Registry.readBindings? (document : δ) : Option (List Binding) := do
  let [components] ← Readable.fields? ["components"] document | none
  required (list Binding.read?) components

/-! ## Writing -/

/-- The options as JSON, every field written. -/
def ParseOptions.toJson (options : ParseOptions) : Json :=
  .object [("gfm", options.gfm), ("jsx", options.jsx)]

/-- The options as JSON, every field written. -/
def CompileOptions.toJson (options : CompileOptions) : Json :=
  .object [("highlight", options.highlight), ("theme", options.theme),
    ("autolink", options.autolink.name), ("tocSource", options.tocSource.name),
    ("parse", options.parse.toJson)]

/-- The binding as JSON; a module that it does not have is left out. -/
def Binding.toJson (binding : Binding) : Json :=
  .object ([("name", .string binding.name), ("element", .string binding.element)] ++
    (binding.modulePath.map fun path => ("modulePath", Json.string path)).toList)

end Folio
