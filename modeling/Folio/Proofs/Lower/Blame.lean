import Folio.Proofs.Lower.Enclosure

/-!
# Which fence is to blame

Lowering goes through the body, and then through the definitions of the footnotes in the order of
the section.  It fails exactly if one of the code blocks it comes to is not closed, and the first
one of those is to blame.

The width that a block is cut in can also be kept in one register for the whole way: a container
that can be measured sets it, and each container puts back what it found.  Whatever is lowered
leaves the register as it was, so that code is cut in the width of its innermost container.
-/

namespace Folio.Lower

open Folio.Text Folio.Markdown

/-! ## The register -/

/-- Whether a branch puts the register back behind its parts. -/
def Frame.isContainer (frame : Frame) : Bool :=
  match frame.role with
  | .quote | .item .. => true
  | _ => false

mutual

/-- The way through a markup tree with the width in a register: what is come across, and what is
left in the register. -/
def sweepOf (source : List Char) (region : Region) (register : Nat) : Markup → List Visit × Nat
  | .leaf content span => (if region = .flow then [.leaf register content span] else [], register)
  | .branch role span parts =>
    match region.enter? role with
    | none => ([], register)
    | some next =>
      let frame : Frame := ⟨role, span⟩
      let (inner, left) := sweep source next ((frame.width? source).getD register) parts
      (lead role ++ inner, if frame.isContainer then register else left)

/-- The way through a list of markup trees with the width in a register. -/
def sweep (source : List Char) (region : Region) (register : Nat) : List Markup → List Visit × Nat
  | [] => ([], register)
  | node :: rest =>
    let (first, register) := sweepOf source region register node
    let (others, register) := sweep source region register rest
    (first ++ others, register)

end

section

variable {source : List Char}

/-- A branch that does not put the register back does not set it either. -/
theorem width?_eq_none {frame : Frame} (h : frame.isContainer = false) :
    frame.width? source = none := by
  obtain ⟨role, span⟩ := frame
  cases role with
  | quote | item checked spread => cases h
  | _ => rfl

theorem sweep_cons {region : Region} {register left : Nat} {node : Markup} {first : List Visit}
    (h : sweepOf source region register node = (first, left)) (rest : List Markup) :
    sweep source region register (node :: rest) =
      (first ++ (sweep source region left rest).1, (sweep source region left rest).2) := by
  rw [sweep, h]

theorem sweepOf_passed {region : Region} {role : Branch} (henter : region.enter? role = none)
    (register : Nat) (span : Option Span) (parts : List Markup) :
    sweepOf source region register (.branch role span parts) = ([], register) := by
  rw [sweepOf, henter]

/-- If the parts of a branch leave the register as it was, then so does the branch. -/
theorem sweepOf_entered {region next : Region} {role : Branch}
    (henter : region.enter? role = some next) {parts : List Markup}
    (hparts : ∀ register, sweep source next register parts =
      (next.visits source register parts, register)) (register : Nat) (span : Option Span) :
    sweepOf source region register (.branch role span parts) = (lead role ++
      next.visits source (((Frame.mk role span).width? source).getD register) parts, register) := by
  simp only [sweepOf, henter, hparts]
  cases hcontainer : (Frame.mk role span).isContainer with
  | true => rfl
  | false => rw [width?_eq_none hcontainer, Option.getD_none, if_neg Bool.false_ne_true]

/-- The way with the register comes across the same as the one with the widths handed down, and
leaves the register as it was. -/
theorem sweep_eq (region : Region) (register : Nat) (nodes : List Markup) :
    sweep source region register nodes = (region.visits source register nodes, register) := by
  -- The parts of a container start from another register, so it is free in the induction.
  induction nodes using markup_induction generalizing region register with
  | nil => cases region <;> rfl
  | leaf content span rest ih =>
      rw [sweep_cons rfl, ih]
      cases region <;> rfl
  | branch role span parts rest ihparts ihrest =>
      rw [visits_branch]
      cases henter : region.enter? role with
      | none =>
          rw [sweep_cons (sweepOf_passed henter register span parts), ihrest]
          rfl
      | some next =>
          rw [sweep_cons (sweepOf_entered henter (ihparts next) register span), ihrest]
          rfl

/-- Whatever is lowered, the register holds what it held before, and the nodes are made of what is
come across with the register. -/
theorem woven_sweep (ctx : Context) (register : Nat) (node : Markup) (s : State) :
    let way := sweep ctx.source .flow register [node]
    Woven ctx way.1 s (lowerNode ctx register node s).1 (lowerNode ctx register node s).2 ∧
      way.2 = register := by
  intro way
  have hway : way = (visits ctx.source register [node], register) := sweep_eq ..
  rw [hway, visits, visits, List.append_nil]
  exact ⟨woven_lowerNode ctx register node s, rfl⟩

end

/-! ## Code on the way -/

/-- Whether a place is that of a code block. -/
def Place.isCode (place : Place) : Bool :=
  match place.content with
  | .code .. => true
  | _ => false

/-- A place stands in a stretch of the source that, cut in the width of the place, is not closed. -/
structure Place.Unclosed (source : List Char) (place : Place) (span : Span) (block : List Char) :
    Prop where
  span_eq : place.span = some span
  slice : slice? source span.start.offset span.stop.offset = some block
  interior : Fence.interior? block (contentWidth source place.chain) = none

/-- A place has no stretch of the source, or one that is closed. -/
def Place.Closed (source : List Char) (place : Place) : Prop :=
  ∀ span block, ¬ place.Unclosed source span block

/-- The error for a stretch of the source that is not closed. -/
def unclosedAt (span : Span) (block : List Char) : CompileError :=
  .block (.unclosedFence (block.head?.getD '\x60'))
    { line := span.start.line, column := span.start.column }

/-- What lowering goes through: the body, and the definitions of the footnotes in the order of the
section. -/
def agenda (root : Markup) (source : String) : List Markup :=
  root :: (footnoteOrder root source).flatMap fun identifier =>
    ((contextOf root source).footnote? identifier).getD []

/-- The code blocks that lowering comes to, in order. -/
def codePlaces (root : Markup) (source : String) : List Place :=
  (flow (agenda root source)).filter Place.isCode

section

variable {source : List Char}

theorem visits_eq_flatMap (width : Nat) (nodes : List Markup) :
    visits source width nodes = nodes.flatMap (visitsOf source width) := by
  induction nodes with
  | nil => rfl
  | cons node rest ih => rw [visits, ih, List.flatMap_cons]

theorem visits_agenda (root : Markup) (source : String) :
    visits source.toList 0 (agenda root source) = visits source.toList 0 [root] ++
      (footnoteOrder root source).flatMap (contextOf root source).noteVisits := by
  rw [agenda, visits_eq_flatMap, List.flatMap_cons, List.flatMap_assoc, visits_eq_flatMap,
    List.flatMap_singleton]
  congr 2
  funext identifier
  exact (visits_eq_flatMap ..).symm

/-- Cutting the stretch of a place gives an error exactly if the place is not closed. -/
theorem cut_eq_unclosed_iff {place : Place} {marker : Char} {start : Point} :
    cut source (contentWidth source place.chain) place.span = .unclosed marker start ↔
      ∃ span block, place.Unclosed source span block ∧ marker = block.head?.getD '\x60' ∧
        start = span.start := by
  constructor
  · intro h
    unfold cut at h
    split at h
    · cases h
    · rename_i span hspan
      split at h
      · cases h
      · rename_i block hslice
        split at h
        · cases h
        · rename_i hinterior
          cases h
          exact ⟨span, block, ⟨hspan, hslice, hinterior⟩, rfl, rfl⟩
  · rintro ⟨span, block, ⟨hspan, hslice, hinterior⟩, rfl, rfl⟩
    simp only [cut, hspan, hslice, hinterior]

/-- Visits of code at places that are not closed are at fault, and no others. -/
theorem fault?_visit_eq_some_iff {place : Place} {error : CompileError} :
    (place.visit source 0).fault? source = some error ↔ place.isCode ∧
      ∃ span block, place.Unclosed source span block ∧ error = unclosedAt span block := by
  constructor
  · intro h
    obtain ⟨width, value, language, note, span, marker, start, hvisit, hcut, rfl⟩ :=
      exists_of_fault?_eq_some h
    obtain ⟨rfl, hcontent, rfl⟩ := Visit.leaf.inj hvisit
    obtain ⟨span, block, hunclosed, rfl, rfl⟩ := cut_eq_unclosed_iff.1 hcut
    refine ⟨?_, span, block, hunclosed, rfl⟩
    rw [Place.isCode, hcontent]
  · rintro ⟨hcode, span, block, hunclosed, rfl⟩
    have hcut := cut_eq_unclosed_iff.2 ⟨span, block, hunclosed, rfl, rfl⟩
    obtain ⟨chain, content, place⟩ := place
    cases content with
    | code value language note =>
        have hcut : cut source ((innermost? source chain).getD 0) place = .unclosed _ _ := hcut
        simp only [Place.visit, Visit.fault?, hcut]
        rfl
    | _ => cases hcode

theorem Place.fault?_visit_eq_none_iff {place : Place} (hcode : place.isCode) :
    (place.visit source 0).fault? source = none ↔ place.Closed source := by
  rw [Option.eq_none_iff_forall_ne_some]
  constructor
  · intro hnone span block hunclosed
    exact hnone _ (fault?_visit_eq_some_iff.2 ⟨hcode, span, block, hunclosed, rfl⟩)
  · intro hclosed error hfault
    obtain ⟨-, span, block, hunclosed, -⟩ := fault?_visit_eq_some_iff.1 hfault
    exact hclosed span block hunclosed

/-- What has no value may be left out of a search. -/
theorem findSome?_filter {α β : Type} {p : α → Bool} {f : α → Option β} (l : List α)
    (h : ∀ a, p a = false → f a = none) : (l.filter p).findSome? f = l.findSome? f := by
  induction l with
  | nil => rfl
  | cons a rest ih =>
      rw [List.findSome?_cons, List.filter_cons]
      cases hp : p a with
      | true => rw [if_pos rfl, List.findSome?_cons, ih]
      | false => rw [if_neg Bool.false_ne_true, h a hp, ih]

/-- The first fault is that of the first code block with one. -/
theorem firstFault?_agenda (root : Markup) (source : String) :
    firstFault? source.toList (visits source.toList 0 (agenda root source)) =
      (codePlaces root source).findSome? fun place =>
        (place.visit source.toList 0).fault? source.toList := by
  -- Boxes are never at fault, nor are leaves other than code: the search may pass over them.
  have hleaves : firstFault? source.toList (visits source.toList 0 (agenda root source)) =
      firstFault? source.toList
        ((visits source.toList 0 (agenda root source)).filter Visit.isLeaf) := by
    refine (findSome?_filter _ fun visit hother => ?_).symm
    cases visit with
    | leaf width content span => cases hother
    | box checked => rfl
  have hcode : ∀ place : Place, place.isCode = false →
      (place.visit source.toList 0).fault? source.toList = none := by
    intro place hother
    rw [Option.eq_none_iff_forall_ne_some]
    intro error hfault
    obtain ⟨hcode, -⟩ := fault?_visit_eq_some_iff.1 hfault
    rw [hother] at hcode
    cases hcode
  rw [hleaves, leaves_flow, firstFault?, List.findSome?_map, codePlaces, findSome?_filter _ hcode]
  rfl

/-- An error is that of the first code block that is not closed: those before it are. -/
def FirstUnclosed (root : Markup) (source : String) (error : CompileError) : Prop :=
  ∃ before place after span block, codePlaces root source = before ++ place :: after ∧
    (∀ other ∈ before, other.Closed source.toList) ∧
    place.Unclosed source.toList span block ∧ error = unclosedAt span block

theorem isCode_of_mem_codePlaces {root : Markup} {text : String} {place : Place}
    (hm : place ∈ codePlaces root text) : place.isCode :=
  (List.mem_filter.1 hm).2

theorem firstFault?_agenda_eq_some_iff {root : Markup} {text : String} {error : CompileError} :
    firstFault? text.toList (visits text.toList 0 (agenda root text)) = some error ↔
      FirstUnclosed root text error := by
  rw [firstFault?_agenda, List.findSome?_eq_some_iff]
  constructor
  · rintro ⟨before, place, after, hlist, hfault, hbefore⟩
    obtain ⟨-, span, block, hunclosed, rfl⟩ := fault?_visit_eq_some_iff.1 hfault
    refine ⟨before, place, after, span, block, hlist, fun other hm => ?_, hunclosed, rfl⟩
    have hcode := isCode_of_mem_codePlaces (hlist ▸ List.mem_append_left _ hm)
    exact (Place.fault?_visit_eq_none_iff hcode).1 (hbefore other hm)
  · rintro ⟨before, place, after, span, block, hlist, hbefore, hunclosed, rfl⟩
    have hcode := isCode_of_mem_codePlaces (hlist ▸ List.mem_append_right _ List.mem_cons_self)
    refine ⟨before, place, after, hlist,
      fault?_visit_eq_some_iff.2 ⟨hcode, span, block, hunclosed, rfl⟩, fun other hm => ?_⟩
    have hother := isCode_of_mem_codePlaces (hlist ▸ List.mem_append_left _ hm)
    exact (Place.fault?_visit_eq_none_iff hother).2 (hbefore other hm)

theorem firstFault?_agenda_eq_none_iff {root : Markup} {text : String} :
    firstFault? text.toList (visits text.toList 0 (agenda root text)) = none ↔
      ∀ place ∈ codePlaces root text, place.Closed text.toList := by
  rw [firstFault?_agenda, List.findSome?_eq_none_iff]
  exact forall₂_congr fun place hm => Place.fault?_visit_eq_none_iff (isCode_of_mem_codePlaces hm)

end

end Lower

open Lower Markdown in
/-- Lowering fails exactly if a code block that it comes to, in the body or in a footnote that the
section works through, stands in a stretch of the source that is not closed in the width of the
innermost container; the error is then that of the first such block, and otherwise there is a tree.
The width is the one that the register holds on the whole way, and whatever is lowered leaves the
register as it was. -/
theorem lower_blames_first (root : Markup) (source : String) :
    let ctx := contextOf root source
    let way := sweep source.toList .flow 0 (agenda root source)
    Complete ctx (bodyReferences root source) (footnoteOrder root source) ∧
    ((∃ error, lower root source = .error error) ↔
      ∃ place ∈ codePlaces root source, ¬ place.Closed source.toList) ∧
    ((∃ tree, lower root source = .ok tree) ↔
      ∀ place ∈ codePlaces root source, place.Closed source.toList) ∧
    (∀ error, lower root source = .error error ↔ FirstUnclosed root source error) ∧
    way.1.filter Visit.isLeaf = (flow (agenda root source)).map (fun place =>
      .leaf (contentWidth source.toList place.chain) place.content place.span) ∧ way.2 = 0 ∧
    ∀ register node s,
      let part := sweep source.toList .flow register [node]
      Woven ctx part.1 s (lowerNode ctx register node s).1 (lowerNode ctx register node s).2 ∧
        part.2 = register := by
  intro ctx way
  obtain ⟨hcomplete, tree, hlower⟩ := lower_eq_elim_firstFault? root source
  have hlower : lower root source =
      (firstFault? source.toList (visits source.toList 0 (agenda root source))).elim (.ok tree)
        .error := by
    rw [visits_agenda]
    exact hlower
  generalize hfault : firstFault? source.toList (visits source.toList 0 (agenda root source)) =
    fault
    at hlower
  have herror : ∀ error, lower root source = .error error ↔ FirstUnclosed root source error := by
    intro error
    rw [← firstFault?_agenda_eq_some_iff, hfault, hlower]
    cases fault <;> simp
  have hok : (∃ tree, lower root source = .ok tree) ↔
      ∀ place ∈ codePlaces root source, place.Closed source.toList := by
    rw [← firstFault?_agenda_eq_none_iff, hfault, hlower]
    cases fault <;> simp
  have hfails : (∃ error, lower root source = .error error) ↔
      ∃ place ∈ codePlaces root source, ¬ place.Closed source.toList := by
    have hor : (∃ error, lower root source = .error error) ↔
        ¬ ∃ tree, lower root source = .ok tree := by
      cases lower root source <;> simp
    rw [hor, hok]
    simp only [not_forall, exists_prop]
  have hway : way = (visits source.toList 0 (agenda root source), 0) := sweep_eq ..
  rw [hway]
  exact ⟨hcomplete, hfails, hok, herror, leaves_flow 0 _, rfl, woven_sweep ctx⟩

end Folio
