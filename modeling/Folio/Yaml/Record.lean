import Folio.Record
import Folio.Yaml.Document

/-!
# Records in YAML documents

Where the type of a field is known it decides what a scalar stands for: any scalar is a text, also
one that would be a number, and an empty plain scalar is a collection without members.
-/

namespace Folio.Yaml.Document

/-- The part of a document at another node. -/
def withNode (d : Document) (node : Node) : Document := { d with node }

/-- Whether a scalar may be read as a truth value or a number: a plain one, or a literal block with
the tag of that type. -/
def isTyped (type : String) (properties : Properties) (style : Style) : Bool :=
  style == .plain || (style == .literal && properties.tag == some (coreTag type))

/-- Whether a node stands for no value. -/
def isAbsent (d : Document) : Bool :=
  match d.target d.node with
  | some (.scalar properties .plain text) =>
    match properties.tag with
    | some tag => tag == coreTag "null" && isNull text
    | none => text.isEmpty || isNull text
  | _ => false

/-- A truth value. -/
def flag? (d : Document) : Option Bool :=
  match d.target d.node with
  | some (.scalar properties style text) =>
    if isTyped "bool" properties style then bool? text else none
  | _ => none

/-- A number without a minus sign that fits a machine word. -/
def count? (d : Document) : Option Nat :=
  match d.target d.node with
  | some (.scalar properties style text) =>
    if isTyped "int" properties style then Yaml.count? Folio.Record.maxCount text.toList else none
  | _ => none

/-- The text of a scalar. -/
def text? (d : Document) : Option String :=
  match d.target d.node with
  | some (.scalar _ _ text) => some text
  | _ => none

/-- The name of an alternative: the text of a scalar, or the tag of one that stands for null. -/
def choice? (d : Document) : Option String :=
  match d.target d.node with
  | some (.scalar properties style text) =>
    match ownTag? properties.tag with
    | some name => if style = .plain && (text.isEmpty || isNull text) then some name else none
    | none => some text
  | _ => none

/-- The items of a sequence. -/
def items? (d : Document) : Option (List Document) :=
  match d.target d.node with
  | some (.sequence _ items) => some (items.map d.withNode)
  | some (.scalar _ .plain "") => some []
  | _ => none

/-- The named fields of a mapping, all of whose names have to be scalars. -/
def fields? (names : List String) (d : Document) : Option (List (Option Document)) :=
  match d.target d.node with
  | some (.mapping _ entries) => do
    let entries ← entries.mapM fun (name, value) => do
      return (← (d.withNode name).text?, d.withNode value)
    Folio.Record.pickAll? names entries
  | some (.scalar _ .plain "") => Folio.Record.pickAll? names []
  | _ => none

instance : Readable Document where
  isAbsent := isAbsent
  flag? := flag?
  count? := count?
  text? := text?
  choice? := choice?
  items? := items?
  fields? := fields?

end Folio.Yaml.Document
