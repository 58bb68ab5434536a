import Folio.Yaml.Token

/-!
# Nodes of YAML documents

The tree of a document.  An anchor is kept as a number, and so is an alias, so that what an alias
stands for is found in the finished tree.
-/

namespace Folio.Yaml

/-- What may be written in front of a node. -/
structure Properties where
  /-- The number of the node's anchor. -/
  anchor : Option Nat := none
  tag : Option String := none
  deriving DecidableEq, Repr, Inhabited

/-- A part of a document. -/
inductive Node where
  /-- Stands for the node whose anchor has the number. -/
  | alias (number : Nat)
  | scalar (properties : Properties) (style : Style) (text : String)
  | sequence (properties : Properties) (items : List Node)
  | mapping (properties : Properties) (entries : List (Node × Node))
  deriving Repr, Inhabited

namespace Node

/-- A node that nothing is written for. -/
def empty : Node := .scalar {} .plain ""

/-- The properties of a node; an alias has none. -/
def properties : Node → Properties
  | .alias _ => {}
  | .scalar properties .. => properties
  | .sequence properties _ => properties
  | .mapping properties _ => properties

mutual

/-- The nodes with an anchor, each before the ones inside it. -/
def anchored : Node → List (Nat × Node)
  | .alias _ => []
  | .scalar properties style text =>
    (properties.anchor.map fun n => (n, .scalar properties style text)).toList
  | .sequence properties items =>
    (properties.anchor.map fun n => (n, .sequence properties items)).toList ++ anchoredItems items
  | .mapping properties entries =>
    (properties.anchor.map fun n => (n, .mapping properties entries)).toList ++
      anchoredEntries entries

/-- The nodes with an anchor among items. -/
def anchoredItems : List Node → List (Nat × Node)
  | [] => []
  | item :: items => anchored item ++ anchoredItems items

/-- The nodes with an anchor among entries. -/
def anchoredEntries : List (Node × Node) → List (Nat × Node)
  | [] => []
  | (key, value) :: entries => anchored key ++ anchored value ++ anchoredEntries entries

end

mutual

/-- The number of parts that are written for a node: a scalar and an alias have one, a collection
has a start and an end around its own. -/
def size : Node → Nat
  | .alias _ => 1
  | .scalar .. => 1
  | .sequence _ items => sizeItems items + 2
  | .mapping _ entries => sizeEntries entries + 2

/-- The number of parts that are written for items. -/
def sizeItems : List Node → Nat
  | [] => 0
  | item :: items => size item + sizeItems items

/-- The number of parts that are written for entries. -/
def sizeEntries : List (Node × Node) → Nat
  | [] => 0
  | (key, value) :: entries => size key + size value + sizeEntries entries

end

end Node

/-! ## Reading nodes -/

/-- The tokens that are left, and the names of anchors so far with the number of the node that each
stands for. -/
structure Reading where
  tokens : List Token
  anchors : List (String × Nat) := []

/-- A computation on the tokens that are left. -/
abbrev Reader := StateT Reading Option

namespace Reader

/-- The next token. -/
def peek : Reader (Option Token) := do
  return (← get).tokens.head?

/-- Leaves the next token behind. -/
def skip : Reader Unit :=
  modify fun r => { r with tokens := r.tokens.tail }

/-- Whether the next token is one of some tokens; at the end there is none. -/
def isAt (tokens : List Token) : Reader Bool := do
  return ((← peek).map tokens.contains).getD false

/-- Leaves the next token behind, which has to be the given one. -/
def expect (token : Token) : Reader Unit := do
  if ← isAt [token] then skip else failure

/-- Gives a node's anchor its number, which is how many names there were before. -/
def nameAnchor (name : String) : Reader Nat := do
  let known := (← get).anchors
  let number := known.length
  modify fun r => { r with anchors := (name, number) :: known.filter (·.1 != name) }
  return number

/-- The number of the anchor with a name, which has to be known. -/
def findAnchor (name : String) : Reader Nat := do
  match (← get).anchors.find? (·.1 == name) with
  | some (_, number) => return number
  | none => failure

/-- The full text of a tag, whose handle has to be known. -/
def fullTag (handles : List (String × String)) (tag : TagText) : Reader String :=
  if tag.handle.isEmpty then return tag.suffix
  else
    match handles.find? (·.1 == tag.handle) with
    | some (_, start) => return start ++ tag.suffix
    | none => failure

/-- Reads an anchor, if there is one. -/
def anchor : Reader (Option Nat) := do
  match ← peek with
  | some (.anchor name) => skip; return some (← nameAnchor name)
  | _ => return none

/-- Reads a tag, if there is one. -/
def tag (handles : List (String × String)) : Reader (Option String) := do
  match ← peek with
  | some (.tag tag) => skip; return some (← fullTag handles tag)
  | _ => return none

/-- Reads an anchor and a tag in either order. -/
def properties (handles : List (String × String)) : Reader Properties := do
  match ← anchor with
  | some number => return ⟨number, ← tag handles⟩
  | none =>
    let tag ← tag handles
    return ⟨← anchor, tag⟩

/-- The tag of a scalar that an exclamation mark alone does not give one. -/
def scalarTag (tag : Option String) : Option String :=
  if tag = some "!" then none else tag

mutual

/-- Reads a node.  Block collections are allowed outside flow collections, and items without an
indentation of their own are allowed right inside entries. -/
def node (handles : List (String × String)) : Nat → Bool → Bool → Reader Node
  | 0, _, _ => failure
  | fuel + 1, inBlock, inEntries => do
    match ← peek with
    | some (.alias name) =>
      skip
      return .alias (← findAnchor name)
    | _ =>
      let properties ← properties handles
      match ← peek, inBlock, inEntries with
      | some (.scalar style text), _, _ =>
        skip
        return .scalar { properties with tag := scalarTag properties.tag } style text
      | some .item, _, true => return .sequence properties (← looseItems handles fuel)
      | some .openItems, _, _ => skip; return .sequence properties (← flowItems handles fuel true)
      | some .openEntries, _, _ =>
        skip; return .mapping properties (← flowEntries handles fuel true)
      | some .startItems, true, _ => skip; return .sequence properties (← blockItems handles fuel)
      | some .startEntries, true, _ =>
        skip; return .mapping properties (← blockEntries handles fuel)
      | _, _, _ =>
        if properties = {} then failure
        else return .scalar properties .plain ""

/-- Reads a node, or none in front of one of some tokens. -/
def nodeBefore (handles : List (String × String)) : Nat → Bool → Bool → List Token → Reader Node
  | 0, _, _, _ => failure
  | fuel + 1, inBlock, inEntries, tokens => do
    if ← isAt tokens then return .empty else node handles fuel inBlock inEntries

/-- Reads items up to the end of their block. -/
def blockItems (handles : List (String × String)) : Nat → Reader (List Node)
  | 0 => failure
  | fuel + 1 => do
    if ← isAt [.item] then
      skip
      let item ← nodeBefore handles fuel true false [.item, .endBlock]
      return item :: (← blockItems handles fuel)
    else
      expect .endBlock
      return []

/-- Reads items that have no indentation of their own. -/
def looseItems (handles : List (String × String)) : Nat → Reader (List Node)
  | 0 => failure
  | fuel + 1 => do
    if ← isAt [.item] then
      skip
      let item ← nodeBefore handles fuel true false [.item, .key, .value, .endBlock]
      return item :: (← looseItems handles fuel)
    else
      return []

/-- Reads entries up to the end of their block. -/
def blockEntries (handles : List (String × String)) : Nat → Reader (List (Node × Node))
  | 0 => failure
  | fuel + 1 => do
    if ← isAt [.key] then
      skip
      let key ← nodeBefore handles fuel true true [.key, .value, .endBlock]
      let value ←
        if ← isAt [.value] then
          skip
          nodeBefore handles fuel true true [.key, .value, .endBlock]
        else pure .empty
      return (key, value) :: (← blockEntries handles fuel)
    else
      expect .endBlock
      return []

/-- Reads the value of an entry between brackets or braces, up to a comma or the closing mark. -/
def flowValue (handles : List (String × String)) : Nat → Token → Reader Node
  | 0, _ => failure
  | fuel + 1, close => do
    if ← isAt [.value] then
      skip
      nodeBefore handles fuel false false [.comma, close]
    else
      return .empty

/-- Reads items up to the closing bracket.  An item may be a single entry. -/
def flowItems (handles : List (String × String)) : Nat → Bool → Reader (List Node)
  | 0, _ => failure
  | fuel + 1, isFirst => do
    if ← isAt [.closeItems] then skip; return []
    if !isFirst then expect .comma
    if ← isAt [.closeItems] then skip; return []
    if ← isAt [.key] then
      skip
      let ends ← isAt [.value, .comma, .closeItems]
      if ends then skip
      let key ← if ends then pure Node.empty else node handles fuel false false
      let value ← flowValue handles fuel .closeItems
      return .mapping {} [(key, value)] :: (← flowItems handles fuel false)
    else
      let item ← node handles fuel false false
      return item :: (← flowItems handles fuel false)

/-- Reads entries up to the closing brace.  A node without a colon is a key without a value. -/
def flowEntries (handles : List (String × String)) : Nat → Bool → Reader (List (Node × Node))
  | 0, _ => failure
  | fuel + 1, isFirst => do
    if ← isAt [.closeEntries] then skip; return []
    if !isFirst then expect .comma
    if ← isAt [.closeEntries] then skip; return []
    if ← isAt [.key] then
      skip
      let key ← nodeBefore handles fuel false false [.value, .comma, .closeEntries]
      let value ← flowValue handles fuel .closeEntries
      return (key, value) :: (← flowEntries handles fuel false)
    else
      let key ← node handles fuel false false
      return (key, .empty) :: (← flowEntries handles fuel false)

end

end Reader

end Folio.Yaml
