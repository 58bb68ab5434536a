import Folio.Proofs.Lower.Unclosed

/-!
# What encloses a node

A block in a quote or a list item is cut out of the source by the content width of the innermost
such container.  Lowering hands this width down as it goes, so in the body it is always the one that
the tree says.  The parts of a footnote are lowered later, and from outside of what their definition
stands in: there the containers within the definition count, and those around it do not.
-/

namespace Folio.Lower

open Folio.Markdown

/-! ## Places -/

/-- A branch around a node, without its parts. -/
structure Frame where
  role : Branch
  span : Option Span
  deriving DecidableEq, Repr

/-- A leaf of a tree, with the branches around it from the outermost to the innermost one. -/
structure Place where
  chain : List Frame
  content : Leaf
  span : Option Span
  deriving DecidableEq, Repr

/-- The place with more branches around it. -/
def Place.inside (outer : List Frame) (place : Place) : Place :=
  { place with chain := outer ++ place.chain }

mutual

/-- The places of a markup tree, in document order. -/
def placesOf : Markup → List Place
  | .leaf content span => [⟨[], content, span⟩]
  | .branch role span parts => (places parts).map (Place.inside [⟨role, span⟩])

/-- The places of a list of markup trees, in document order. -/
def places : List Markup → List Place
  | [] => []
  | node :: rest => placesOf node ++ places rest

end

/-- The width that a branch takes from each line of its content, if it is a block quote or a list
item that can be measured. -/
def Frame.width? (source : List Char) (frame : Frame) : Option Nat :=
  match frame.role with
  | .quote => quoteWidth? source frame.span
  | .item .. => itemWidth? source frame.span
  | _ => none

/-- The width of the innermost container of a chain; one that cannot be measured does not count. -/
def innermost? (source : List Char) (chain : List Frame) : Option Nat :=
  chain.reverse.findSome? (Frame.width? source)

/-- The width of the innermost container of a chain, or zero if there is none. -/
def contentWidth (source : List Char) (chain : List Frame) : Nat :=
  (innermost? source chain).getD 0

/-- What lowering comes across at a place, if it hands down the width of what encloses it.  `width`
is that of what encloses the whole tree. -/
def Place.visit (source : List Char) (width : Nat) (place : Place) : Visit :=
  .leaf ((innermost? source place.chain).getD width) place.content place.span

section

variable {source : List Char}

theorem innermost?_append (outer inner : List Frame) :
    innermost? source (outer ++ inner) =
      (innermost? source inner).or (innermost? source outer) := by
  rw [innermost?, List.reverse_append, List.findSome?_append]
  rfl

theorem innermost?_singleton (frame : Frame) : innermost? source [frame] = frame.width? source := by
  rw [innermost?, List.reverse_singleton, List.findSome?_cons]
  cases frame.width? source <;> rfl

/-- A frame hands down its width to the places in it, or the one around it. -/
theorem visit_inside (frame : Frame) (width : Nat) (place : Place) :
    (place.inside [frame]).visit source width =
      place.visit source ((frame.width? source).getD width) := by
  unfold Place.visit Place.inside
  rw [innermost?_append, innermost?_singleton]
  cases innermost? source place.chain <;> rfl

end

/-! ## Where lowering goes -/

/-- Where the walk is: among blocks and texts, among the rows of a table, or among the cells of a
row. -/
inductive Region where
  | flow
  | rows
  | cells
  deriving DecidableEq, Repr

namespace Region

/-- Where the walk is inside a branch.  It does not enter footnote definitions, nor rows and cells
in the wrong place, nor anything else in a table. -/
def enter? : Region → Branch → Option Region
  | flow, .table _ => some rows
  | flow, .row => none
  | flow, .cell => none
  | flow, .footnoteDefinition .. => none
  | flow, _ => some flow
  | rows, .row => some cells
  | rows, _ => none
  | cells, .cell => some flow
  | cells, _ => none

/-- Whether the walk comes to a leaf through a chain of branches. -/
def reaches : Region → List Frame → Bool
  | flow, [] => true
  | _, [] => false
  | region, frame :: chain =>
    match region.enter? frame.role with
    | some next => next.reaches chain
    | none => false

/-- What lowering comes across in a region. -/
def visits (source : List Char) (width : Nat) : Region → List Markup → List Visit
  | flow => Lower.visits source width
  | rows => rowVisits source width
  | cells => cellVisits source width

end Region

/-- What lowering comes across before the parts of a branch: the box of a task. -/
def lead : Branch → List Visit
  | .item checked _ => boxes checked
  | _ => []

/-- Whether lowering comes across a leaf, and not the box of a task. -/
def Visit.isLeaf : Visit → Bool
  | .leaf .. => true
  | .box _ => false

/-- The places that lowering comes to: all but those in footnote definitions and misplaced parts of
tables. -/
def flow (nodes : List Markup) : List Place :=
  (places nodes).filter fun place => Region.flow.reaches place.chain

section

variable {source : List Char}

theorem filter_isLeaf_lead (role : Branch) : (lead role).filter Visit.isLeaf = [] := by
  cases role with
  | item checked spread => cases checked <;> rfl
  | _ => rfl

/-- A branch is walked through with the width that it hands down, or passed over. -/
theorem visits_branch (region : Region) (width : Nat) (role : Branch) (span : Option Span)
    (parts rest : List Markup) :
    region.visits source width (.branch role span parts :: rest) =
      ((region.enter? role).elim [] fun next => lead role ++
        next.visits source (((Frame.mk role span).width? source).getD width) parts) ++
      region.visits source width rest := by
  cases region with
  | flow => cases role <;> rfl
  | rows => cases role <;> rfl
  | cells => cases role <;> rfl

/-- Of the visits of a branch those of leaves are those of the leaves in it. -/
theorem leaves_branch (region : Region) (width : Nat) (role : Branch) (span : Option Span)
    (parts rest : List Markup) :
    (region.visits source width (.branch role span parts :: rest)).filter Visit.isLeaf =
      ((region.enter? role).elim [] fun next => (next.visits source
        (((Frame.mk role span).width? source).getD width) parts).filter Visit.isLeaf) ++
      (region.visits source width rest).filter Visit.isLeaf := by
  rw [visits_branch, List.filter_append]
  cases region.enter? role with
  | none => rfl
  | some next =>
      simp only [Option.elim_some]
      rw [List.filter_append, filter_isLeaf_lead]
      rfl

/-- Of the places in a branch those are reached that are reached in what the branch leads to. -/
theorem filter_reaches_inside (region : Region) (frame : Frame) (found : List Place) :
    (found.map (Place.inside [frame])).filter (fun place => region.reaches place.chain) =
      (region.enter? frame.role).elim [] fun next =>
        (found.filter fun place => next.reaches place.chain).map (Place.inside [frame]) := by
  have hreaches : ∀ place : Place, region.reaches (place.inside [frame]).chain =
      (region.enter? frame.role).elim false fun next => next.reaches place.chain := by
    intro place
    show region.reaches (frame :: place.chain) = _
    cases region <;> simp only [Region.reaches] <;> cases Region.enter? _ frame.role <;> rfl
  rw [List.filter_map]
  cases henter : region.enter? frame.role with
  | none =>
      simp only [henter, Option.elim_none] at hreaches
      simp [Function.comp_def, hreaches]
  | some next =>
      simp only [henter, Option.elim_some] at hreaches
      simp [Function.comp_def, hreaches]

/-- The leaves that lowering comes across are those of the places it reaches, in document order, and
each in the width of its innermost container. -/
theorem leaves_visits (region : Region) (width : Nat) (nodes : List Markup) :
    (region.visits source width nodes).filter Visit.isLeaf =
      ((places nodes).filter fun place => region.reaches place.chain).map
        (Place.visit source width) := by
  induction nodes using markup_induction generalizing region width with
  | nil => cases region <;> rfl
  | leaf content span rest ih =>
      have ih := ih region width
      rw [places, placesOf, List.filter_append, List.map_append, ← ih]
      cases region <;> rfl
  | branch role span parts rest ihparts ihrest =>
      rw [leaves_branch, places, placesOf, List.filter_append, List.map_append, ← ihrest,
        filter_reaches_inside]
      cases region.enter? role with
      | none => rfl
      | some next =>
          simp only [Option.elim_some, List.map_map]
          rw [ihparts]
          congr 2
          funext place
          exact (visit_inside ⟨role, span⟩ width place).symm

theorem leaves_flow (width : Nat) (nodes : List Markup) :
    (visits source width nodes).filter Visit.isLeaf =
      (flow nodes).map (Place.visit source width) :=
  leaves_visits .flow width nodes

end

/-- What is in a branch of a tree has a place in the tree, with the branch and all that is around it
in its chain. -/
theorem exists_outer {nodes parts : List Markup} {role : Branch} {span : Option Span}
    (h : .branch role span parts ∈ allOf nodes) :
    ∃ outer, ∀ place ∈ places parts, place.inside (outer ++ [⟨role, span⟩]) ∈ places nodes := by
  induction nodes using markup_induction with
  | nil => cases h
  | leaf content other rest ih =>
      rw [allOf_leaf, List.mem_cons] at h
      rcases h with h | h
      · cases h
      · obtain ⟨outer, houter⟩ := ih h
        exact ⟨outer, fun place hm => List.mem_append_right _ (houter place hm)⟩
  | branch other place parts' rest ihparts ihrest =>
      rw [allOf_branch, List.mem_cons, List.mem_append] at h
      rcases h with h | h | h
      · cases h
        exact ⟨[], fun place hm => List.mem_append_left _ (List.mem_map_of_mem hm)⟩
      · obtain ⟨outer, houter⟩ := ihparts h
        refine ⟨⟨other, place⟩ :: outer, fun inner hm => List.mem_append_left _ ?_⟩
        exact List.mem_map_of_mem (houter inner hm)
      · obtain ⟨outer, houter⟩ := ihrest h
        exact ⟨outer, fun place hm => List.mem_append_right _ (houter place hm)⟩

/-! ## Widths of chains -/

/-- Lowering some nodes is lowering the leaves of the places it reaches, one after the other, and
each in the width of the innermost container of its chain. -/
structure FollowsChains (ctx : Context) (nodes : List Markup) : Prop where
  woven : ∀ s, Woven ctx (visits ctx.source 0 nodes) s (lowerAll ctx 0 nodes s).1
    (lowerAll ctx 0 nodes s).2
  leaves : (visits ctx.source 0 nodes).filter Visit.isLeaf =
    (flow nodes).map fun place =>
      .leaf (contentWidth ctx.source place.chain) place.content place.span

theorem followsChains (ctx : Context) (nodes : List Markup) : FollowsChains ctx nodes where
  woven _ := (walked ctx nodes).all rfl
  leaves := leaves_flow 0 nodes

/-- A place in a footnote whose definition stands in a container, while no container within the
definition encloses the place. -/
def Place.Stranded (source : List Char) (place : Place) : Prop :=
  ∃ outer inner identifier label span,
    place.chain = outer ++ ⟨.footnoteDefinition identifier label, span⟩ :: inner ∧
    innermost? source inner = none ∧ contentWidth source outer ≠ 0

section

variable {source : List Char}

/-- From within a footnote definition a place has the width of its whole chain exactly if there is a
container within the definition or none around it. -/
theorem contentWidth_eq_whole_iff (place : Place) (outer : List Frame) (identifier : String)
    (label : Option String) (span : Option Span) :
    let whole := place.inside (outer ++ [⟨.footnoteDefinition identifier label, span⟩])
    contentWidth source place.chain = contentWidth source whole.chain ↔
      (innermost? source place.chain).isSome ∨ contentWidth source outer = 0 := by
  intro whole
  have hdefinition : (Frame.mk (.footnoteDefinition identifier label) span).width? source = none :=
    rfl
  have hwhole : innermost? source whole.chain =
      (innermost? source place.chain).or (innermost? source outer) := by
    show innermost? source (outer ++ [_] ++ place.chain) = _
    rw [innermost?_append, innermost?_append, innermost?_singleton, hdefinition, Option.none_or]
  unfold contentWidth
  rw [hwhole]
  cases innermost? source place.chain with
  | none => simp [eq_comm]
  | some width => simp

/-- A leaf that lowering comes across has a place that lowering comes to. -/
theorem exists_place_of_visit {nodes : List Markup} {width : Nat} {content : Leaf}
    {span : Option Span} (h : .leaf width content span ∈ visits source 0 nodes) :
    ∃ place ∈ flow nodes, contentWidth source place.chain = width ∧
      place.content = content ∧ place.span = span := by
  have hleaf := List.mem_filter.2 ⟨h, (rfl : Visit.isLeaf (.leaf width content span) = true)⟩
  rw [leaves_flow] at hleaf
  obtain ⟨place, hflow, heq⟩ := List.mem_map.1 hleaf
  obtain ⟨hwidth, hcontent, hspan⟩ := Visit.leaf.inj heq
  exact ⟨place, hflow, hwidth, hcontent, hspan⟩

end

/-! ## Footnotes -/

section

variable {root : Markup} {source identifier : String} {parts : List Markup}

/-- What is in a footnote is in the definition of it, and that is somewhere in the tree. -/
theorem exists_outer_of_footnote? (h : (contextOf root source).footnote? identifier = some parts) :
    ∃ outer label span, ∀ place ∈ flow parts,
      place.inside (outer ++ [⟨.footnoteDefinition identifier label, span⟩]) ∈ places [root] := by
  obtain ⟨label, span, hnode⟩ := exists_definition_of_footnote? h
  rw [← allOf_singleton] at hnode
  obtain ⟨outer, houter⟩ := exists_outer hnode
  exact ⟨outer, label, span, fun place hm => houter place (List.mem_filter.1 hm).1⟩

/-- From within its definition, a place has the width of the whole chain or is stranded. -/
theorem contentWidth_or_stranded {source : List Char} (place : Place) (outer : List Frame)
    (label : Option String) (span : Option Span) :
    let whole := place.inside (outer ++ [⟨.footnoteDefinition identifier label, span⟩])
    contentWidth source place.chain = contentWidth source whole.chain ∨
      whole.Stranded source ∧ contentWidth source place.chain = 0 := by
  intro whole
  by_cases hagree : (innermost? source place.chain).isSome ∨ contentWidth source outer = 0
  · exact Or.inl ((contentWidth_eq_whole_iff ..).2 hagree)
  · obtain ⟨hnone, houter⟩ := not_or.1 hagree
    rw [Option.not_isSome_iff_eq_none] at hnone
    have hchain : whole.chain =
        outer ++ ⟨.footnoteDefinition identifier label, span⟩ :: place.chain :=
      (List.append_cons ..).symm
    refine Or.inr ⟨⟨outer, place.chain, identifier, label, span, hchain, hnone, houter⟩, ?_⟩
    rw [contentWidth, hnone]
    rfl

/-- What lowering comes across in a footnote has a place in the tree, and is visited in the width of
the place unless it is stranded. -/
theorem exists_place_of_noteVisit {width : Nat} {content : Leaf} {span : Option Span}
    (h : .leaf width content span ∈ (contextOf root source).noteVisits identifier) :
    ∃ place ∈ places [root], place.content = content ∧ place.span = span ∧
      (contentWidth source.toList place.chain = width ∨
        place.Stranded source.toList ∧ width = 0) := by
  cases hdefined : (contextOf root source).footnote? identifier with
  | none =>
      rw [Context.noteVisits, hdefined] at h
      cases h
  | some parts =>
      rw [Context.noteVisits, hdefined] at h
      obtain ⟨place, hflow, rfl, hcontent, hspan⟩ := exists_place_of_visit h
      obtain ⟨outer, label, outerSpan, houter⟩ := exists_outer_of_footnote? hdefined
      refine ⟨_, houter place hflow, hcontent, hspan, ?_⟩
      exact (contentWidth_or_stranded place outer label outerSpan).imp_left Eq.symm

end

/-! ## Failing -/

/-- In the body, and in each footnote by itself, code is cut by its innermost container.  For a
place in a footnote this is the innermost container of its whole chain exactly if there is a
container within the definition or none around it.  Lowering fails for the first fence that is not
closed when it is cut like that, and for nothing else; so a block that is closed in the width of its
innermost container never makes it fail, unless it is stranded in a footnote and not closed in the
width zero. -/
theorem lower_follows_chains (root : Markup) (source : String) :
    let ctx := contextOf root source
    (∀ nodes, FollowsChains ctx nodes) ∧
    (∀ identifier parts, ctx.footnote? identifier = some parts →
      ∃ outer label span, ∀ place ∈ flow parts,
        let whole := place.inside (outer ++ [⟨.footnoteDefinition identifier label, span⟩])
        whole ∈ places [root] ∧
        (contentWidth ctx.source place.chain = contentWidth ctx.source whole.chain ↔
          (innermost? ctx.source place.chain).isSome ∨ contentWidth ctx.source outer = 0)) ∧
    ∃ order tree, Complete ctx (bodyReferences root source) order ∧
      lower root source = (firstFault? ctx.source
        (visits ctx.source 0 [root] ++ order.flatMap ctx.noteVisits)).elim (.ok tree) .error ∧
      ∀ error, lower root source = .error error →
        ∃ place ∈ places [root], ∃ value language note marker start,
          place.content = .code value language note ∧
          error = .block (.unclosedFence marker) { line := start.line, column := start.column } ∧
          (cut ctx.source (contentWidth ctx.source place.chain) place.span =
            .unclosed marker start ∨
            place.Stranded ctx.source ∧ cut ctx.source 0 place.span = .unclosed marker start) := by
  intro ctx
  have hnotes : ∀ identifier parts, ctx.footnote? identifier = some parts →
      ∃ outer label span, ∀ place ∈ flow parts,
        let whole := place.inside (outer ++ [⟨.footnoteDefinition identifier label, span⟩])
        whole ∈ places [root] ∧
        (contentWidth ctx.source place.chain = contentWidth ctx.source whole.chain ↔
          (innermost? ctx.source place.chain).isSome ∨ contentWidth ctx.source outer = 0) := by
    intro identifier parts hdefined
    obtain ⟨outer, label, span, houter⟩ := exists_outer_of_footnote? hdefined
    exact ⟨outer, label, span, fun place hm => ⟨houter place hm, contentWidth_eq_whole_iff ..⟩⟩
  obtain ⟨order, tree, hcomplete, hlower⟩ := exists_lower_eq_elim root source
  refine ⟨followsChains ctx, hnotes, order, tree, hcomplete, hlower, fun error herror => ?_⟩
  rw [hlower] at herror
  cases hfault : firstFault? ctx.source
      (visits ctx.source 0 [root] ++ order.flatMap ctx.noteVisits) with
  | none =>
      rw [hfault] at herror
      cases herror
  | some found =>
      rw [hfault] at herror
      cases herror
      obtain ⟨visit, hvisit, hfound⟩ := List.exists_of_findSome?_eq_some hfault
      obtain ⟨width, value, language, note, span, marker, start, rfl, hcut, rfl⟩ :=
        exists_of_fault?_eq_some hfound
      -- Only a visit in a footnote can have another width than its place.
      rcases List.mem_append.1 hvisit with hbody | hnote
      · obtain ⟨place, hflow, rfl, hcontent, rfl⟩ := exists_place_of_visit hbody
        exact ⟨place, (List.mem_filter.1 hflow).1, value, language, note, marker, start, hcontent,
          rfl, Or.inl hcut⟩
      · obtain ⟨identifier, -, hnote⟩ := List.mem_flatMap.1 hnote
        obtain ⟨place, hm, hcontent, rfl, hwidth⟩ := exists_place_of_noteVisit hnote
        refine ⟨place, hm, value, language, note, marker, start, hcontent, rfl, ?_⟩
        rcases hwidth with rfl | ⟨hstranded, rfl⟩
        · exact Or.inl hcut
        · exact Or.inr ⟨hstranded, hcut⟩

/-- A footnote in a block quote, with a code block that is closed in the quote. -/
def quotedNoteText : String :=
  "a[^1]\n\n> [^1]: x\n>\n>     \x60\x60\x60\n>     y\n>     \x60\x60\x60\n"

/-- The chain of the parts of the footnote in `quotedNoteText`. -/
def quotedNoteChain : List Frame :=
  [⟨.root, some ⟨⟨1, 1, 0⟩, ⟨8, 1, 47⟩⟩⟩, ⟨.quote, some ⟨⟨3, 1, 7⟩, ⟨7, 10, 46⟩⟩⟩,
    ⟨.footnoteDefinition "1" (some "1"), some ⟨⟨3, 3, 9⟩, ⟨7, 10, 46⟩⟩⟩]

/-- The markup of `quotedNoteText`. -/
def quotedNote : Markup :=
  .branch .root (some ⟨⟨1, 1, 0⟩, ⟨8, 1, 47⟩⟩)
    [.branch .paragraph (some ⟨⟨1, 1, 0⟩, ⟨1, 6, 5⟩⟩)
      [.leaf (.text "a") (some ⟨⟨1, 1, 0⟩, ⟨1, 2, 1⟩⟩),
        .leaf (.footnoteReference "1" (some "1")) (some ⟨⟨1, 2, 1⟩, ⟨1, 6, 5⟩⟩)],
      .branch .quote (some ⟨⟨3, 1, 7⟩, ⟨7, 10, 46⟩⟩)
        [.branch (.footnoteDefinition "1" (some "1")) (some ⟨⟨3, 3, 9⟩, ⟨7, 10, 46⟩⟩)
          [.branch .paragraph (some ⟨⟨3, 9, 15⟩, ⟨3, 10, 16⟩⟩)
            [.leaf (.text "x") (some ⟨⟨3, 9, 15⟩, ⟨3, 10, 16⟩⟩)],
            .leaf (.code "y" none none) (some ⟨⟨5, 7, 25⟩, ⟨7, 10, 46⟩⟩)]]]

/-- The code in the footnote is in a quote of width two, and closed when it is cut in that width;
but it is cut in the width zero, and lowering fails for it. -/
theorem not_lower_follows_quotedNote :
    ∃ place ∈ places [quotedNote],
      place.content = .code "y" none none ∧
      contentWidth quotedNoteText.toList place.chain = 2 ∧
      cut quotedNoteText.toList 2 place.span = .interior "    y\n" ∧
      .leaf 0 place.content place.span ∈ (contextOf quotedNote quotedNoteText).noteVisits "1" ∧
      lower quotedNote quotedNoteText =
        .error (.block (.unclosedFence '\x60') { line := 5, column := 7 }) :=
  ⟨⟨quotedNoteChain, .code "y" none none, some ⟨⟨5, 7, 25⟩, ⟨7, 10, 46⟩⟩⟩, by decide +kernel, rfl,
    by decide +kernel, rfl, by decide +kernel, rfl⟩

end Folio.Lower
