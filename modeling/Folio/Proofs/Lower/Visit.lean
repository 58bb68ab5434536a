import Folio.Lower.Document

/-!
# What lowering comes across

On its way through a markup tree lowering comes across leaves and the boxes of task lists; all else
is elements and components around what these give.  The list of these visits says in which order
they are reached and in which container; the relation `Woven` says that the nodes which lowering
gives are made of what it makes of the visits, one after the other, and that nothing else changes
what it carries on.
-/

namespace Folio.Lower

open Folio.Markdown

/-! ## Induction on markup -/

/-- Induction on a list of markup trees by its first one, with hypotheses for the parts of that tree
and for the rest of the list. -/
@[elab_as_elim]
theorem markup_induction {P : List Markup → Prop} (nodes : List Markup) (nil : P [])
    (leaf : ∀ content span rest, P rest → P (.leaf content span :: rest))
    (branch : ∀ role span parts rest, P parts → P rest → P (.branch role span parts :: rest)) :
    P nodes :=
  @Markup.rec_1 (fun node => ∀ rest, P rest → P (node :: rest)) P
    (fun content span rest hr => leaf content span rest hr)
    (fun role span parts hp rest hr => branch role span parts rest hp hr)
    nil (fun _ rest hn hr => hn rest hr) nodes

/-! ## Visits -/

/-- What lowering comes across: a leaf, in a container of some width, or the box of a task. -/
inductive Visit where
  | leaf (width : Nat) (content : Leaf) (span : Option Span)
  | box (checked : Bool)
  deriving DecidableEq, Repr

/-- The box of an item, if it is that of a task. -/
def boxes : Option Bool → List Visit
  | some checked => [.box checked]
  | none => []

mutual

/-- What lowering comes across in a markup tree, inside a container of the given width. -/
def visitsOf (source : List Char) (width : Nat) (node : Markup) : List Visit :=
  match node with
  | .leaf content span => [.leaf width content span]
  | .branch role span parts =>
    match role with
    | .quote => visits source ((quoteWidth? source span).getD width) parts
    | .item checked _ => boxes checked ++ visits source ((itemWidth? source span).getD width) parts
    | .table _ => rowVisits source width parts
    | .row | .cell | .footnoteDefinition .. => []
    | _ => visits source width parts

/-- What lowering comes across in a list of markup trees. -/
def visits (source : List Char) (width : Nat) (nodes : List Markup) : List Visit :=
  match nodes with
  | [] => []
  | node :: rest => visitsOf source width node ++ visits source width rest

/-- What lowering comes across in the rows of a table. -/
def rowVisits (source : List Char) (width : Nat) (nodes : List Markup) : List Visit :=
  match nodes with
  | [] => []
  | .branch .row _ parts :: rest => cellVisits source width parts ++ rowVisits source width rest
  | _ :: rest => rowVisits source width rest

/-- What lowering comes across in the cells of a row. -/
def cellVisits (source : List Char) (width : Nat) (nodes : List Markup) : List Visit :=
  match nodes with
  | [] => []
  | .branch .cell _ parts :: rest => visits source width parts ++ cellVisits source width rest
  | _ :: rest => cellVisits source width rest

end

/-! ## Woven nodes -/

/-- Nodes made of what lowering makes of some visits, and what it carries on before and after
them. -/
inductive Woven (ctx : Context) : List Visit → State → List Node → State → Prop
  | nil {s : State} : Woven ctx [] s [] s
  | leaf {width : Nat} {content : Leaf} {span : Option Span} {s t : State} {nodes : List Node} :
      lowerLeaf ctx width content span s = (nodes, t) →
      Woven ctx [.leaf width content span] s nodes t
  | box {checked : Bool} {s : State} : Woven ctx [.box checked] s (taskBox checked) s
  | append {first second : List Visit} {s t u : State} {nodes others : List Node} :
      Woven ctx first s nodes t → Woven ctx second t others u →
      Woven ctx (first ++ second) s (nodes ++ others) u
  | element {head : ElementHead} {visits : List Visit} {s t : State} {children : List Node} :
      Woven ctx visits s children t → Woven ctx visits s [.element head children] t
  | component {head : ComponentHead} {visits : List Visit} {s t : State} {children : List Node} :
      Woven ctx visits s children t → Woven ctx visits s [.component head children] t

namespace Woven

variable {ctx : Context} {seen : List Visit} {s t : State} {children : List Node}

theorem of_boxes (checked : Option Bool) (s : State) :
    Woven ctx (boxes checked) s (checked.elim [] taskBox) s := by
  cases checked with
  | none => exact .nil
  | some checked => exact .box

/-- A tagged element wraps what it holds, or only groups it. -/
theorem tagged (h : Woven ctx seen s children t) (name : Option String)
    (attributes : List Attribute) (position : Option Location) :
    Woven ctx seen s (taggedNodes name attributes position children) t := by
  cases name with
  | none => exact h
  | some name =>
      by_cases hcomponent : isComponentName name
      · simp only [taggedNodes, if_pos hcomponent]
        exact h.component
      · simp only [taggedNodes, if_neg hcomponent]
        exact h.element

end Woven

/-- Woven rows, of which the first one can be told from the others. -/
inductive WovenRows (ctx : Context) : List Visit → State → List Node → State → Prop
  | nil {s : State} : WovenRows ctx [] s [] s
  | cons {first second : List Visit} {s t u : State} {row : Node} {rows : List Node} :
      Woven ctx first s [row] t → Woven ctx second t rows u →
      WovenRows ctx (first ++ second) s (row :: rows) u

theorem WovenRows.woven {ctx : Context} {seen : List Visit} {s t : State} {rows : List Node}
    (h : WovenRows ctx seen s rows t) : Woven ctx seen s rows t := by
  cases h with
  | nil => exact .nil
  | cons hrow hrows => exact hrow.append hrows

/-- A table has its first row in a head, and the others in a body. -/
theorem WovenRows.table {ctx : Context} {seen : List Visit} {s t : State} {rows : List Node}
    (h : WovenRows ctx seen s rows t) :
    Woven ctx seen s [plain "table"
      ((if (rows.take 1).isEmpty then [] else [plain "thead" (rows.take 1)]) ++
        (if (rows.drop 1).isEmpty then [] else [plain "tbody" (rows.drop 1)]))] t := by
  cases h with
  | nil => exact .element .nil
  | @cons first second _ _ _ row rows hrow hrows =>
      refine .element (.append (.element hrow) ?_)
      cases rows with
      | nil => exact hrows
      | cons other rows => exact hrows.element

/-! ## The walk -/

/-- What the walk through a list of markup trees gives, in each of the places where the list may
be. -/
structure Walked (ctx : Context) (nodes : List Markup) : Prop where
  all : ∀ {width s children t}, lowerAll ctx width nodes s = (children, t) →
    Woven ctx (visits ctx.source width nodes) s children t
  blocks : ∀ {width loose s children t}, lowerBlocks ctx width loose nodes s = (children, t) →
    Woven ctx (visits ctx.source width nodes) s children t
  items : ∀ {width loose s children t}, lowerItems ctx width loose nodes s = (children, t) →
    Woven ctx (visits ctx.source width nodes) s children t
  rows : ∀ {width columns head s children t},
    lowerRows ctx width columns head nodes s = (children, t) →
    WovenRows ctx (rowVisits ctx.source width nodes) s children t
  cells : ∀ {width columns tag s children t},
    lowerCells ctx width columns tag nodes s = (children, t) →
    Woven ctx (cellVisits ctx.source width nodes) s children t

theorem walked_nil (ctx : Context) : Walked ctx [] where
  all h := by
    rw [lowerAll] at h
    cases h
    exact .nil
  blocks h := by
    rw [lowerBlocks] at h
    cases h
    exact .nil
  items h := by
    rw [lowerItems] at h
    cases h
    exact .nil
  rows h := by
    rw [lowerRows] at h
    cases h
    exact .nil
  cells h := by
    rw [lowerCells] at h
    cases h
    exact .nil

/-- A branch gives what its parts give, in an element or a component or as they are. -/
theorem Walked.branch {ctx : Context} {parts : List Markup} (h : Walked ctx parts) {role : Branch}
    {span : Option Span} {width : Nat} {s t : State} {nodes : List Node}
    (hnode : lowerNode ctx width (.branch role span parts) s = (nodes, t)) :
    Woven ctx (visitsOf ctx.source width (.branch role span parts)) s nodes t := by
  rcases hall : lowerAll ctx width parts s with ⟨children, u⟩
  cases role with
  | root => exact h.all hnode
  | paragraph | heading _ | strong | emphasis | delete | link _ _ =>
      simp only [lowerNode, hall] at hnode
      cases hnode
      exact (h.all hall).element
  | quote =>
      rcases hquote : lowerAll ctx ((quoteWidth? ctx.source span).getD width) parts s with
        ⟨quoted, v⟩
      simp only [lowerNode, hquote] at hnode
      cases hnode
      exact (h.all hquote).element
  | list ordered start spread =>
      rcases hitems : lowerItems ctx width (spread || hasSpreadItem parts) parts s with ⟨items, v⟩
      simp only [lowerNode, hitems] at hnode
      cases hnode
      exact (h.items hitems).element
  | item checked spread =>
      rcases hblocks : lowerBlocks ctx ((itemWidth? ctx.source span).getD width) true parts s with
        ⟨blocks, v⟩
      simp only [lowerNode, hblocks] at hnode
      cases hnode
      exact ((Woven.of_boxes checked s).append (h.blocks hblocks)).element
  | table columns =>
      rcases hrows : lowerRows ctx width columns true parts s with ⟨rows, v⟩
      simp only [lowerNode, hrows] at hnode
      cases hnode
      exact (h.rows hrows).table
  | row | cell | footnoteDefinition _ _ =>
      simp only [lowerNode] at hnode
      cases hnode
      exact .nil
  | linkReference identifier label form =>
      cases htarget : ctx.target? identifier with
      | none =>
          simp only [lowerNode, hall, htarget] at hnode
          cases hnode
          exact h.all hall
      | some target =>
          simp only [lowerNode, hall, htarget] at hnode
          cases hnode
          exact (h.all hall).element
  | tagged flow name attributes =>
      simp only [lowerNode, hall] at hnode
      cases hnode
      exact (h.all hall).tagged name attributes (placeOf span)

section

variable {ctx : Context} {rest : List Markup} {node : Markup} (h : Walked ctx rest)
  (hnode : ∀ {width s nodes t}, lowerNode ctx width node s = (nodes, t) →
    Woven ctx (visitsOf ctx.source width node) s nodes t)
include h hnode

/-- The walk goes on behind a node. -/
theorem Walked.cons_all {width : Nat} {s t : State} {children : List Node}
    (heq : lowerAll ctx width (node :: rest) s = (children, t)) :
    Woven ctx (visits ctx.source width (node :: rest)) s children t := by
  rcases hfirst : lowerNode ctx width node s with ⟨first, u⟩
  rcases hothers : lowerAll ctx width rest u with ⟨others, v⟩
  simp only [lowerAll, hfirst, hothers] at heq
  cases heq
  exact (hnode hfirst).append (h.all hothers)

/-- In an item it goes on behind a node that is no paragraph. -/
theorem Walked.cons_blocks (hother : ∀ span parts, node ≠ .branch .paragraph span parts)
    {width : Nat} {loose : Bool} {s t : State} {children : List Node}
    (heq : lowerBlocks ctx width loose (node :: rest) s = (children, t)) :
    Woven ctx (visits ctx.source width (node :: rest)) s children t := by
  rcases hfirst : lowerNode ctx width node s with ⟨first, u⟩
  rcases hothers : lowerBlocks ctx width loose rest u with ⟨others, v⟩
  rw [lowerBlocks, hfirst] at heq
  · simp only [hothers] at heq
    cases heq
    exact (hnode hfirst).append (h.blocks hothers)
  · exact hother

/-- In a list it goes on behind a node that is no item. -/
theorem Walked.cons_items
    (hother : ∀ checked spread span parts, node ≠ .branch (.item checked spread) span parts)
    {width : Nat} {loose : Bool} {s t : State} {children : List Node}
    (heq : lowerItems ctx width loose (node :: rest) s = (children, t)) :
    Woven ctx (visits ctx.source width (node :: rest)) s children t := by
  rcases hfirst : lowerNode ctx width node s with ⟨first, u⟩
  rcases hothers : lowerItems ctx width loose rest u with ⟨others, v⟩
  rw [lowerItems, hfirst] at heq
  · simp only [hothers] at heq
    cases heq
    exact (hnode hfirst).element.append (h.items hothers)
  · exact hother

end

/-- The walk goes on behind a leaf. -/
theorem Walked.cons_leaf {ctx : Context} {rest : List Markup} (h : Walked ctx rest) (content : Leaf)
    (span : Option Span) : Walked ctx (.leaf content span :: rest) := by
  have hnode : ∀ {width s nodes t}, lowerNode ctx width (.leaf content span) s = (nodes, t) →
      Woven ctx (visitsOf ctx.source width (.leaf content span)) s nodes t :=
    fun hleaf => .leaf hleaf
  constructor
  case all => exact h.cons_all hnode
  case blocks => exact h.cons_blocks hnode fun _ _ hne => by cases hne
  case items => exact h.cons_items hnode fun _ _ _ _ hne => by cases hne
  case rows =>
    intro width columns head s children t heq
    exact h.rows heq
  case cells =>
    intro width columns tag s children t heq
    rcases hothers : lowerCells ctx width columns.tail tag rest s with ⟨others, v⟩
    simp only [lowerCells, hothers] at heq
    cases heq
    exact (Woven.element .nil).append (h.cells hothers)

/-- The walk goes on behind a branch. -/
theorem Walked.cons_branch {ctx : Context} {parts rest : List Markup} (hparts : Walked ctx parts)
    (h : Walked ctx rest) (role : Branch) (span : Option Span) :
    Walked ctx (.branch role span parts :: rest) := by
  have hnode : ∀ {width s nodes t}, lowerNode ctx width (.branch role span parts) s = (nodes, t) →
      Woven ctx (visitsOf ctx.source width (.branch role span parts)) s nodes t := hparts.branch
  constructor
  case all => exact h.cons_all hnode
  case blocks =>
    intro width loose s children t heq
    by_cases hrole : role = .paragraph
    · subst hrole
      rcases hinner : lowerAll ctx width parts s with ⟨inner, u⟩
      rcases hothers : lowerBlocks ctx width loose rest u with ⟨others, v⟩
      cases loose with
      | true =>
          simp only [lowerBlocks, hinner, if_true, hothers] at heq
          cases heq
          exact (hparts.all hinner).element.append (h.blocks hothers)
      | false =>
          simp only [lowerBlocks, hinner, Bool.false_eq_true, if_false, hothers] at heq
          cases heq
          exact (hparts.all hinner).append (h.blocks hothers)
    · refine h.cons_blocks hnode (fun other others hne => ?_) heq
      injection hne with hparagraph
      exact hrole hparagraph
  case items =>
    intro width loose s children t heq
    cases role with
    | item checked spread =>
        rcases hinner : lowerBlocks ctx ((itemWidth? ctx.source span).getD width) loose parts s with
          ⟨inner, u⟩
        rcases hothers : lowerItems ctx width loose rest u with ⟨others, v⟩
        simp only [lowerItems, hinner, hothers] at heq
        cases heq
        have hitem := (Woven.of_boxes checked s).append (hparts.blocks hinner)
        exact hitem.element.append (h.items hothers)
    | _ => exact h.cons_items hnode (fun _ _ _ _ hne => by cases hne) heq
  case rows =>
    intro width columns head s children t heq
    cases role with
    | row =>
        rcases hcells : lowerCells ctx width columns (if head then "th" else "td") parts s with
          ⟨cells, u⟩
        rcases hothers : lowerRows ctx width columns false rest u with ⟨others, v⟩
        simp only [lowerRows, hcells, hothers] at heq
        cases heq
        exact .cons (hparts.cells hcells).element (h.rows hothers).woven
    | _ => exact h.rows heq
  case cells =>
    intro width columns tag s children t heq
    cases role with
    | cell =>
        rcases hinner : lowerAll ctx width parts s with ⟨inner, u⟩
        rcases hothers : lowerCells ctx width columns.tail tag rest u with ⟨others, v⟩
        simp only [lowerCells, hinner, hothers] at heq
        cases heq
        exact (hparts.all hinner).element.append (h.cells hothers)
    | _ =>
        rcases hothers : lowerCells ctx width columns.tail tag rest s with ⟨others, v⟩
        simp only [lowerCells, hothers] at heq
        cases heq
        exact (Woven.element .nil).append (h.cells hothers)

/-- Every list of markup trees is walked through like that. -/
theorem walked (ctx : Context) (nodes : List Markup) : Walked ctx nodes := by
  induction nodes using markup_induction with
  | nil => exact walked_nil ctx
  | leaf content span rest ih => exact ih.cons_leaf content span
  | branch role span parts rest ihparts ihrest => exact ihparts.cons_branch ihrest role span

/-- The nodes that lowering a markup tree gives are made of what it comes across, in this order. -/
theorem woven_lowerNode (ctx : Context) (width : Nat) (node : Markup) (s : State) :
    Woven ctx (visitsOf ctx.source width node) s (lowerNode ctx width node s).1
      (lowerNode ctx width node s).2 := by
  cases node with
  | leaf content span => exact .leaf rfl
  | branch role span parts => exact (walked ctx parts).branch rfl

/-! ## Visits are of nodes -/

theorem allOf_leaf (content : Leaf) (span : Option Span) (rest : List Markup) :
    allOf (.leaf content span :: rest) = .leaf content span :: allOf rest := rfl

theorem allOf_branch (role : Branch) (span : Option Span) (parts rest : List Markup) :
    allOf (.branch role span parts :: rest) =
      .branch role span parts :: (allOf parts ++ allOf rest) := rfl

/-- What lowering comes across is in the tree, whichever way it goes. -/
theorem leaf_mem_allOf (source : List Char) (nodes : List Markup) {width inner : Nat}
    {content : Leaf} {span : Option Span}
    (h : .leaf inner content span ∈ visits source width nodes ∨
      .leaf inner content span ∈ rowVisits source width nodes ∨
      .leaf inner content span ∈ cellVisits source width nodes) :
    .leaf content span ∈ allOf nodes := by
  induction nodes using markup_induction generalizing width with
  | nil =>
      rcases h with h | h | h
      · cases h
      · cases h
      · cases h
  | leaf other place rest ih =>
      rw [allOf_leaf]
      rcases h with h | h | h
      · rcases List.mem_append.1 h with hfirst | hrest
        · rw [visitsOf, List.mem_singleton, Visit.leaf.injEq] at hfirst
          rw [hfirst.2.1, hfirst.2.2]
          exact List.mem_cons_self
        · exact List.mem_cons_of_mem _ (ih (Or.inl hrest))
      · exact List.mem_cons_of_mem _ (ih (Or.inr (Or.inl h)))
      · exact List.mem_cons_of_mem _ (ih (Or.inr (Or.inr h)))
  | branch role place parts rest ihparts ihrest =>
      rw [allOf_branch]
      have hinner : ∀ {width}, (.leaf inner content span ∈ visits source width parts ∨
          .leaf inner content span ∈ rowVisits source width parts ∨
          .leaf inner content span ∈ cellVisits source width parts) →
            .leaf content span ∈ .branch role place parts :: (allOf parts ++ allOf rest) :=
        fun hparts => List.mem_cons_of_mem _ (List.mem_append_left _ (ihparts hparts))
      have houter : (.leaf inner content span ∈ visits source width rest ∨
          .leaf inner content span ∈ rowVisits source width rest ∨
          .leaf inner content span ∈ cellVisits source width rest) →
            .leaf content span ∈ .branch role place parts :: (allOf parts ++ allOf rest) :=
        fun hrest => List.mem_cons_of_mem _ (List.mem_append_right _ (ihrest hrest))
      rcases h with h | h | h
      · rcases List.mem_append.1 h with hfirst | hrest
        · cases role with
          | table columns => exact hinner (Or.inr (Or.inl hfirst))
          | row | cell | footnoteDefinition _ _ => cases hfirst
          | item checked spread =>
              rcases List.mem_append.1 hfirst with hbox | hfirst
              · cases checked with
                | none => cases hbox
                | some checked => simp [boxes] at hbox
              · exact hinner (Or.inl hfirst)
          | _ => exact hinner (Or.inl hfirst)
        · exact houter (Or.inl hrest)
      · cases role with
        | row =>
            rcases List.mem_append.1 h with hfirst | hrest
            · exact hinner (Or.inr (Or.inr hfirst))
            · exact houter (Or.inr (Or.inl hrest))
        | _ => exact houter (Or.inr (Or.inl h))
      · cases role with
        | cell =>
            rcases List.mem_append.1 h with hfirst | hrest
            · exact hinner (Or.inl hfirst)
            · exact houter (Or.inr (Or.inr hrest))
        | _ => exact houter (Or.inr (Or.inr h))

/-- The nodes under a branch of a tree are in the tree. -/
theorem allOf_subset (nodes : List Markup) {role : Branch} {span : Option Span}
    {parts : List Markup} (h : .branch role span parts ∈ allOf nodes) :
    allOf parts ⊆ allOf nodes := by
  induction nodes using markup_induction with
  | nil => cases h
  | leaf content place rest ih =>
      rw [allOf_leaf, List.mem_cons] at h
      rcases h with h | h
      · cases h
      · exact List.subset_cons_of_subset _ (ih h)
  | branch other place others rest ihparts ihrest =>
      rw [allOf_branch, List.mem_cons, List.mem_append] at h
      rw [allOf_branch]
      rcases h with h | h | h
      · cases h
        exact List.subset_cons_of_subset _ (List.subset_append_left _ _)
      · exact List.subset_cons_of_subset _ (List.subset_append_of_subset_left _ (ihparts h))
      · exact List.subset_cons_of_subset _ (List.subset_append_of_subset_right _ (ihrest h))

end Folio.Lower
