import Folio.Dict

/-!
# Component bindings

A component tag is bound to the HTML element that stands for it, and perhaps to the module that
brings it to life.  A registry holds the bindings that documents may use.
-/

namespace Folio

/-- What a component tag is bound to. -/
structure Binding where
  /-- The tag as documents write it. -/
  name : String
  /-- The element that is rendered for it. -/
  element : String
  /-- The module that provides the component. -/
  modulePath : Option String := none
  deriving DecidableEq, Repr, Inhabited

/-- A name in lower case, with a hyphen before each capital that starts no name and no word, and
for each point and low line.  `afterHyphen` holds at the start and after a hyphen. -/
def kebab (afterHyphen : Bool) : List Char → List Char
  | [] => []
  | c :: cs =>
    if c.isUpper then
      if afterHyphen then c.toLower :: kebab false cs else '-' :: c.toLower :: kebab false cs
    else if c = '.' ∨ c = '_' then
      '-' :: kebab true cs
    else
      c :: kebab (c == '-') cs

/-- The binding of a tag to the element made from its name. -/
def Binding.ofName (name : String) (modulePath : Option String := none) : Binding where
  name
  element := "x-" ++ String.ofList (kebab true name.toList)
  modulePath

/-- The bindings that documents may use, by tag. -/
abbrev Registry := Dict Binding

namespace Registry

/-- The registry of a list of bindings; of two for one tag the later one counts. -/
def ofBindings (bindings : List Binding) : Registry :=
  Dict.ofList (bindings.map fun binding => (binding.name, binding))

/-- The binding of a tag. -/
def resolve? (registry : Registry) (tag : String) : Option Binding :=
  registry.get? tag

/-- The tags of the built-in registry. -/
def docsTags : List String :=
  ["Callout", "Tabs", "TabItem", "Steps", "ComponentPreview", "ComponentSource"]

/-- The built-in registry, for the components that documentation pages use most. -/
def docs : Registry :=
  ofBindings (docsTags.map fun tag => Binding.ofName tag (some "@quill/docs-components"))

end Registry

end Folio
