import Folio.Proofs.Tree.Induction

/-!
# Trees that grew

What a stage added to a tree is told by one tree with two kinds of elements: those that were there
and those that were added.  Without the added elements, each replaced by its own children, it is the
tree as it was; with them it is the tree as it became.  In document order the nodes of the first are
those of the second without the added ones, whatever was added and wherever it stands.
-/

namespace Folio

/-- A node of a tree that grew. -/
inductive Growth where
  | element (head : ElementHead) (children : List Growth)
  | component (tag : ComponentHead) (children : List Growth)
  | text (value : String)
  /-- An element that was added, around the nodes it holds. -/
  | added (head : ElementHead) (children : List Growth)
  deriving Repr, Inhabited

/-- Induction on a tree that grew, by its first node. -/
@[elab_as_elim]
theorem growth_induction {P : List Growth → Prop} (growth : List Growth) (nil : P [])
    (element : ∀ head children rest, P children → P rest → P (.element head children :: rest))
    (component : ∀ tag children rest, P children → P rest → P (.component tag children :: rest))
    (text : ∀ value rest, P rest → P (.text value :: rest))
    (added : ∀ head children rest, P children → P rest → P (.added head children :: rest)) :
    P growth :=
  @Growth.rec_1 (fun node => ∀ rest, P rest → P (node :: rest)) P
    (fun head children hc rest hr => element head children rest hc hr)
    (fun tag children hc rest hr => component tag children rest hc hr)
    (fun value rest hr => text value rest hr)
    (fun head children hc rest hr => added head children rest hc hr)
    nil (fun _ rest hn hr => hn rest hr) growth

/-! ## Before and after -/

mutual

/-- What was there of a node: nothing but its content if it was added. -/
def Growth.original : Growth → List Node
  | .element head children => [.element head (original children)]
  | .component tag children => [.component tag (original children)]
  | .text value => [.text value]
  | .added _ children => original children

/-- The tree before it grew. -/
def original : List Growth → Tree
  | [] => []
  | node :: rest => node.original ++ original rest

end

mutual

/-- The node that is there now. -/
def Growth.grown : Growth → Node
  | .element head children => .element head (grown children)
  | .component tag children => .component tag (grown children)
  | .text value => .text value
  | .added head children => .element head (grown children)

/-- The tree after it grew. -/
def grown : List Growth → Tree
  | [] => []
  | node :: rest => node.grown :: grown rest

end

/-- All of a node but its children. -/
def Node.surface : Node → Node
  | .element head _ => .element head []
  | .component tag _ => .component tag []
  | .text value => .text value

/-- The nodes of a tree in document order, each without its children. -/
def surfaces (t : Tree) : List Node :=
  (nodes t).map Node.surface

mutual

/-- A node and everything under it in document order, each with whether it was added. -/
def Growth.listing : Growth → List (Node × Bool)
  | .element head children => (.element head [], false) :: listing children
  | .component tag children => (.component tag [], false) :: listing children
  | .text value => [(.text value, false)]
  | .added head children => (.element head [], true) :: listing children

/-- The nodes of a tree that grew in document order, each with whether it was added. -/
def listing : List Growth → List (Node × Bool)
  | [] => []
  | node :: rest => node.listing ++ listing rest

end

/-- The nodes that were added, in document order. -/
def additions (growth : List Growth) : List Node :=
  ((listing growth).filter fun entry => entry.2).map Prod.fst

section

variable (head : ElementHead) (tag : ComponentHead) (value : String) (children rest : List Growth)

@[simp] theorem original_nil : original [] = [] := rfl

@[simp] theorem original_element : original (.element head children :: rest) =
    .element head (original children) :: original rest := rfl

@[simp] theorem original_component : original (.component tag children :: rest) =
    .component tag (original children) :: original rest := rfl

@[simp] theorem original_text :
    original (.text value :: rest) = .text value :: original rest := rfl

@[simp] theorem original_added :
    original (.added head children :: rest) = original children ++ original rest := rfl

@[simp] theorem grown_nil : grown [] = [] := rfl

@[simp] theorem grown_element : grown (.element head children :: rest) =
    .element head (grown children) :: grown rest := rfl

@[simp] theorem grown_component : grown (.component tag children :: rest) =
    .component tag (grown children) :: grown rest := rfl

@[simp] theorem grown_text : grown (.text value :: rest) = .text value :: grown rest := rfl

@[simp] theorem grown_added : grown (.added head children :: rest) =
    .element head (grown children) :: grown rest := rfl

@[simp] theorem listing_nil : listing [] = [] := rfl

@[simp] theorem listing_element : listing (.element head children :: rest) =
    (.element head [], false) :: (listing children ++ listing rest) := rfl

@[simp] theorem listing_component : listing (.component tag children :: rest) =
    (.component tag [], false) :: (listing children ++ listing rest) := rfl

@[simp] theorem listing_text :
    listing (.text value :: rest) = (.text value, false) :: listing rest := rfl

@[simp] theorem listing_added : listing (.added head children :: rest) =
    (.element head [], true) :: (listing children ++ listing rest) := rfl

@[simp] theorem additions_nil : additions [] = [] := rfl

@[simp] theorem additions_element :
    additions (.element head children :: rest) = additions children ++ additions rest := by
  simp [additions]

@[simp] theorem additions_component :
    additions (.component tag children :: rest) = additions children ++ additions rest := by
  simp [additions]

@[simp] theorem additions_text : additions (.text value :: rest) = additions rest := rfl

@[simp] theorem additions_added : additions (.added head children :: rest) =
    .element head [] :: (additions children ++ additions rest) := by
  simp [additions]

end

section

variable (head : ElementHead) (tag : ComponentHead) (value : String) (children rest : List Node)

@[simp] theorem surfaces_nil : surfaces [] = [] := rfl

@[simp] theorem surfaces_element : surfaces (.element head children :: rest) =
    .element head [] :: (surfaces children ++ surfaces rest) := by
  show ((Node.element head children :: nodes children) ++ nodes rest).map Node.surface = _
  rw [List.map_append]
  rfl

@[simp] theorem surfaces_component : surfaces (.component tag children :: rest) =
    .component tag [] :: (surfaces children ++ surfaces rest) := by
  show ((Node.component tag children :: nodes children) ++ nodes rest).map Node.surface = _
  rw [List.map_append]
  rfl

@[simp] theorem surfaces_text : surfaces (.text value :: rest) = .text value :: surfaces rest := rfl

end

theorem surfaces_append (t u : Tree) : surfaces (t ++ u) = surfaces t ++ surfaces u := by
  induction t with
  | nil => rfl
  | cons node t ih => cases node <;> simp [ih]

section

variable (g h : List Growth)

theorem original_append : original (g ++ h) = original g ++ original h := by
  induction g with
  | nil => rfl
  | cons node g ih => cases node <;> simp [ih]

theorem grown_append : grown (g ++ h) = grown g ++ grown h := by
  induction g with
  | nil => rfl
  | cons node g ih => cases node <;> simp [ih]

theorem additions_append : additions (g ++ h) = additions g ++ additions h := by
  induction g with
  | nil => rfl
  | cons node g ih => cases node <;> simp [ih]

end

/-! ## What stays in its order -/

/-- All nodes of a tree that grew are there now. -/
theorem surfaces_grown (g : List Growth) : surfaces (grown g) = (listing g).map Prod.fst := by
  induction g using growth_induction with
  | nil => rfl
  | element head children rest ihc ihr => simp [ihc, ihr]
  | component tag children rest ihc ihr => simp [ihc, ihr]
  | text value rest ih => simp [ih]
  | added head children rest ihc ihr => simp [ihc, ihr]

/-- The nodes that were there before are those that were not added, in the same order: an added
element was not there, but stands in front of what it holds. -/
theorem surfaces_original (g : List Growth) :
    surfaces (original g) = ((listing g).filter fun entry => !entry.2).map Prod.fst := by
  induction g using growth_induction with
  | nil => rfl
  | element head children rest ihc ihr => simp [ihc, ihr]
  | component tag children rest ihc ihr => simp [ihc, ihr]
  | text value rest ih => simp [ih]
  | added head children rest ihc ihr => simp [surfaces_append, ihc, ihr]

end Folio
