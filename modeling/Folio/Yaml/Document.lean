import Folio.Json.Basic
import Folio.Yaml.Node
import Folio.Yaml.Schema

/-!
# YAML documents

A text with one YAML document, and the JSON value that a document stands for.  A tag of the
document's own turns its node into an object with the tag as the only name.  Names of an object may
be numbers and truth values; they count as their text.
-/

namespace Folio.Yaml

/-- A document, with the nodes that an alias may stand for. -/
structure Document where
  node : Node
  /-- The nodes with an anchor, in the order in which they start. -/
  anchored : List (Nat × Node) := []
  deriving Inhabited

/-! ## Reading documents -/

/-- The handles of tags that need no directive. -/
def standardHandles : List (String × String) :=
  [("!", "!"), ("!!", "tag:yaml.org,2002:")]

/-- The explanations of handles in directives.  A handle is explained once, and there is at most one
version. -/
def handles? (directives : List Directive) : Option (List (String × String)) :=
  let versions := directives.filterMap fun
    | .version major minor => some (major, minor)
    | .tag .. => none
  let handles := directives.filterMap fun
    | .tag handle start => some (handle, start)
    | .version .. => none
  if versions.length ≤ 1 && versions.all (fun v => v == (1, 1) || v == (1, 2)) &&
      (handles.map (·.1)).eraseDups.length == handles.length then
    some handles
  else none

/-- The directive that a token is. -/
def Token.directive? : Token → Option Directive
  | .directive line => some line
  | _ => none

/-- Whether a token can only be between documents. -/
def Token.isBetween : Token → Bool
  | .directive _ => true
  | .documentStart => true
  | .documentEnd => true
  | _ => false

/-- The node of a document and the tokens after it. -/
def Node.ofTokens? (handles : List (String × String)) (tokens : List Token) :
    Option (Node × Reading) :=
  (Reader.node (handles ++ standardHandles) (4 * tokens.length + 4) true false).run { tokens }

/-- The node of the only document among tokens.  A start that is written may be followed by
nothing. -/
def Node.ofStream? (tokens : List Token) : Option Node := do
  let (node, rest) ←
    match tokens with
    | [] => pure (Node.empty, [])
    | first :: _ =>
      if first.isBetween then
        let directives := (tokens.takeWhile fun t => t.directive?.isSome).filterMap Token.directive?
        let handles ← handles? directives
        match tokens.drop directives.length with
        | .documentStart :: rest =>
          if (rest.head?.map Token.isBetween).getD true then pure (Node.empty, rest)
          else do
            let (node, reading) ← Node.ofTokens? handles rest
            pure (node, reading.tokens)
        | _ => none
      else do
        let (node, reading) ← Node.ofTokens? [] tokens
        pure (node, reading.tokens)
  if rest.all (· == .documentEnd) then return node else none

/-- The only document of a text. -/
def Document.ofText? (text : List Char) : Option Document := do
  let node ← Node.ofStream? (← Token.ofText? text)
  return { node, anchored := node.anchored }

/-! ## Aliases and tags -/

/-- The name of a tag of the document's own. -/
def ownTag? (tag : Option String) : Option String :=
  match tag.map String.toList with
  | some ['!'] => some "!"
  | some ('!' :: name) => some (String.ofList name)
  | _ => none

/-- A tag of the document's own as it is shown. -/
def tagLabel (name : String) : String :=
  if name.startsWith "!" && name != "!" then name else "!" ++ name

/-- The full text of a tag that every document has. -/
def coreTag (name : String) : String :=
  "tag:yaml.org,2002:" ++ name

/-- The node that a node stands for: of those with the number of an alias, the last one. -/
def Document.target (d : Document) (node : Node) : Option Node :=
  match node with
  | .alias number => (d.anchored.reverse.find? (·.1 == number)).map (·.2)
  | node => some node

/-! ## Values -/

/-- The value of a scalar whose tag is not one of the document's own. -/
def Value.ofScalar? (tag : Option String) (style : Style) (text : String) : Option Value :=
  match tag with
  | none => some (if style = .plain then .ofPlain text else .text text)
  | some tag =>
    if tag = coreTag "bool" then (bool? text).map .bool
    else if tag = coreTag "int" then (integer? text.toList).map .integer
    else if tag = coreTag "float" then Value.ofFraction? text
    else if tag = coreTag "null" then (if isNull text then some .null else none)
    else some (.text text)

/-- Whether an integer fits a machine word, with or without a sign. -/
def fitsWord (n : Int) : Bool :=
  -(Nat.pow 2 63 : Int) ≤ n && n < (Nat.pow 2 64 : Int)

/-- The JSON value of a scalar; what is no finite number is null. -/
def Value.toJson? : Value → Option Json
  | .null => some .null
  | .bool value => some (.bool value)
  | .integer value => if fitsWord value then some (.integer value) else none
  | .fraction value => some (.fraction value)
  | .unbounded => some .null
  | .text value => some (.string value)

/-- The name that a scalar is. -/
def Value.name? : Value → Option String
  | .null => none
  | .bool value => some (if value then "true" else "false")
  | .integer value => if fitsWord value then some (toString value) else none
  | .fraction value => some value.text
  | .unbounded => none
  | .text value => some value

/-- The value without the sign of zero, which does not tell names apart. -/
def Value.withoutZeroSign : Value → Value
  | .fraction value =>
    .fraction (if value.digits = 0 then { value with negative := false } else value)
  | value => value

namespace Document

/-- How deep collections may be nested. -/
def maxDepth : Nat := 128

/-- How many aliases may be followed for each part of a document. -/
def aliasesPerPart : Nat := 100

/-- A computation that may follow so many aliases. -/
abbrev Expansion := StateT Nat Option

/-- The node that a node stands for. -/
def follow (d : Document) (node : Node) : Expansion Node := do
  if let .alias _ := node then
    let aliases ← get
    if aliases = 0 then failure
    set (aliases - 1)
  d.target node

/-- The value of a scalar that is a name. -/
def nameValue (d : Document) (node : Node) : Expansion Value := do
  match ← d.follow node with
  | .scalar properties style text =>
    if (ownTag? properties.tag).isSome then failure else Value.ofScalar? properties.tag style text
  | _ => failure

/-- The object of entries; no name may occur twice, but different names may have one text. -/
def objectOf? (entries : List (Value × Json)) : Option Json := do
  let names := entries.map (·.1.withoutZeroSign)
  if names.eraseDups.length != names.length then none
  let entries ← entries.mapM fun (name, value) => do return (← name.name?, value)
  return .ofDict (Dict.ofList entries)

/-- The JSON value of a node; collections may be nested as deep as `depth`. -/
def json (d : Document) : (depth : Nat) → Node → Expansion Json
  | depth, node => do
    let node ← d.follow node
    let own := ownTag? node.properties.tag
    let value ←
      match node, depth with
      | .scalar properties style text, _ =>
        let tag := if own.isSome then none else properties.tag
        (Value.ofScalar? tag style text).bind Value.toJson?
      | .sequence _ items, depth + 1 => do
        return .array (← items.mapM (d.json depth))
      | .mapping _ entries, depth + 1 => do
        let entries ← entries.mapM fun (name, value) => do
          return (← d.nameValue name, ← d.json depth value)
        objectOf? entries
      | _, _ => failure
    return match own with
      | some name => .object [(tagLabel name, value)]
      | none => value

/-- The JSON value of a document. -/
def toJson? (d : Document) : Option Json :=
  (d.json maxDepth d.node).run' (aliasesPerPart * d.node.size)

end Document

end Folio.Yaml
