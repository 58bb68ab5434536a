import Folio.Proofs.Lower.Footnote

/-!
# Fences that nothing closes

Lowering fails for the first fence it comes across that is not closed, and for nothing else.  First
means first among the visits: those of the body, and then those of the footnotes in the order in
which they are worked through.
-/

namespace Folio.Lower

open Folio.Markdown

/-! ## Faults -/

/-- The error for what lowering comes across, if that is a block whose fence nothing closes. -/
def Visit.fault? (source : List Char) : Visit → Option CompileError
  | .leaf width (.code ..) span =>
    match cut source width span with
    | .unclosed marker start =>
      some (.block (.unclosedFence marker) { line := start.line, column := start.column })
    | _ => none
  | _ => none

/-- The first error among some visits. -/
def firstFault? (source : List Char) (seen : List Visit) : Option CompileError :=
  seen.findSome? (Visit.fault? source)

theorem firstFault?_append (source : List Char) (first second : List Visit) :
    firstFault? source (first ++ second) =
      (firstFault? source first).or (firstFault? source second) :=
  List.findSome?_append

theorem firstFault?_singleton (source : List Char) (visit : Visit) :
    firstFault? source [visit] = visit.fault? source := by
  rw [firstFault?, List.findSome?_cons]
  cases visit.fault? source <;> rfl

/-- Faults are errors of fences that stay open. -/
theorem exists_of_fault?_eq_some {source : List Char} {visit : Visit} {error : CompileError}
    (h : visit.fault? source = some error) :
    ∃ width value language note span marker start,
      visit = .leaf width (.code value language note) span ∧
      cut source width span = .unclosed marker start ∧
      error = .block (.unclosedFence marker) { line := start.line, column := start.column } := by
  unfold Visit.fault? at h
  split at h
  · split at h
    · rename_i hcut
      cases h
      exact ⟨_, _, _, _, _, _, _, rfl, hcut, rfl⟩
    · cases h
  · cases h

/-! ## What is carried -/

theorem State.unclosed_noteUnclosed (s : State) (marker : Char) (start : Point) :
    (s.noteUnclosed marker start).unclosed = s.unclosed.or
      (some (.block (.unclosedFence marker) { line := start.line, column := start.column })) := by
  cases h : s.unclosed with
  | none => simp [State.noteUnclosed, h]
  | some error => simp [State.noteUnclosed, h]

theorem State.unclosed_refer (s : State) (identifier : String) :
    (s.refer identifier).2.unclosed = s.unclosed := by
  unfold State.refer
  split <;> rfl

section

variable {ctx : Context} {s t : State} {nodes : List Node}

/-- A leaf adds its fault, unless there was one before. -/
theorem unclosed_lowerLeaf {width : Nat} {content : Leaf} {span : Option Span}
    (h : lowerLeaf ctx width content span s = (nodes, t)) :
    t.unclosed = s.unclosed.or (Visit.fault? ctx.source (.leaf width content span)) := by
  have hsame : s.unclosed = s.unclosed.or none := Option.or_none.symm
  cases content with
  | code value language note =>
      cases hcut : cut ctx.source width span with
      | absent =>
          simp only [lowerLeaf, Visit.fault?, hcut] at h ⊢
          cases h
          exact hsame
      | interior text =>
          simp only [lowerLeaf, Visit.fault?, hcut] at h ⊢
          cases h
          exact hsame
      | unclosed marker start =>
          simp only [lowerLeaf, Visit.fault?, hcut] at h ⊢
          cases h
          exact s.unclosed_noteUnclosed marker start
  | footnoteReference identifier label =>
      simp only [lowerLeaf] at h
      cases h
      exact (s.unclosed_refer identifier).trans hsame
  | imageReference identifier label alt form =>
      simp only [lowerLeaf] at h
      split at h
      · cases h
        exact hsame
      · cases h
        exact hsame
  | _ =>
      simp only [lowerLeaf] at h
      cases h
      exact hsame

/-- What is carried over some visits is the first of their faults, unless there was one before. -/
theorem Woven.unclosed_eq {seen : List Visit} (h : Woven ctx seen s nodes t) :
    t.unclosed = s.unclosed.or (firstFault? ctx.source seen) := by
  induction h with
  | nil => exact Option.or_none.symm
  | leaf hleaf =>
      rw [firstFault?_singleton]
      exact unclosed_lowerLeaf hleaf
  | box => exact Option.or_none.symm
  | append _ _ ih ih' => rw [ih', ih, firstFault?_append, Option.or_assoc]
  | element _ ih => exact ih
  | component _ ih => exact ih

/-- What lowering comes across in a footnote. -/
def Context.noteVisits (ctx : Context) (identifier : String) : List Visit :=
  visits ctx.source 0 ((ctx.footnote? identifier).getD [])

/-- The work on the footnotes from an index on adds the first of their faults. -/
theorem Collects.unclosed_eq {references : List String} {index : Nat} {items : List Node}
    (h : Collects ctx index s items t) (hprogress : Progress ctx references index s) :
    t.unclosed = s.unclosed.or
      (firstFault? ctx.source ((t.order.drop index).flatMap ctx.noteVisits)) := by
  induction h with
  | done hdone =>
      rw [List.drop_eq_nil_of_le (List.getElem?_eq_none_iff.1 hdone)]
      exact Option.or_none.symm
  | skip hindex hundefined hrest ih =>
      have hnext := hprogress.skip hindex hundefined
      have hstart := (hrest.complete hnext).1
      rw [ih hnext, drop_eq_cons (getElem?_of_isPrefix hstart hindex), List.flatMap_cons,
        Context.noteVisits, hundefined]
      rfl
  | item hindex hdefined hlower hrest ih =>
      obtain ⟨hadded, hnext⟩ := hprogress.item hindex hdefined hlower
      have hstart := hadded.trans (hrest.complete hnext).1
      have hwoven := (walked _ _).all hlower
      rw [ih hnext, hwoven.unclosed_eq, drop_eq_cons (getElem?_of_isPrefix hstart hindex),
        List.flatMap_cons, firstFault?_append, Context.noteVisits, hdefined, Option.or_assoc]
      rfl

end

/-! ## Failing -/

/-- The identifiers of the footnotes in the order in which the section works them through. -/
def footnoteOrder (root : Markup) (source : String) : List String :=
  let ctx := contextOf root source
  (footnoteItems ctx (footnoteReferences root).length 0 (lowerNode ctx 0 root {}).2).2.order

/-- Lowering fails for the first fault among the visits of the body and of the footnotes that the
section works through, and otherwise gives a tree. -/
theorem lower_eq_elim_firstFault? (root : Markup) (source : String) :
    let ctx := contextOf root source
    Complete ctx (bodyReferences root source) (footnoteOrder root source) ∧
      ∃ tree, lower root source = (firstFault? ctx.source (visits ctx.source 0 [root] ++
        (footnoteOrder root source).flatMap ctx.noteVisits)).elim (.ok tree) .error := by
  intro ctx
  have hwoven : Woven ctx (visits ctx.source 0 [root]) {} (lowerNode ctx 0 root {}).1
      (lowerNode ctx 0 root {}).2 := woven_body root source
  have hknown : ({} : State).order = ([] : List String).eraseDups := rfl
  have hstart : (lowerNode ctx 0 root {}).2.order = (bodyReferences root source).eraseDups :=
    hwoven.order_eq hknown
  have hprogress : Progress ctx (bodyReferences root source) 0 (lowerNode ctx 0 root {}).2 :=
    .initial hstart
  have hsteps : (footnoteReferences root).length ≤ 0 + (footnoteReferences root).length :=
    Nat.le_add_left _ _
  have hcollects := collects_footnoteItems (fun _ => mem_footnoteReferences_of_reached)
    hprogress hsteps
  rcases hrun : footnoteItems ctx (footnoteReferences root).length 0
    (lowerNode ctx 0 root {}).2 with
    ⟨items, final⟩
  rw [hrun] at hcollects
  have horder : footnoteOrder root source = final.order := by
    show (footnoteItems ctx _ 0 _).2.order = final.order
    rw [hrun]
  obtain ⟨-, hcomplete, -⟩ := hcollects.complete hprogress
  have hfault : final.unclosed = firstFault? ctx.source
      (visits ctx.source 0 [root] ++ final.order.flatMap ctx.noteVisits) := by
    rw [hcollects.unclosed_eq hprogress, hwoven.unclosed_eq, List.drop_zero, Option.or_assoc,
      ← firstFault?_append]
    rfl
  have hlower := lower_eq_elim hrun hstart
  rw [hfault] at hlower
  rw [horder]
  exact ⟨hcomplete, _, hlower⟩

/-- What makes lowering fail is a fault on the way through the body and the footnotes that are
reached from it. -/
theorem exists_lower_eq_elim (root : Markup) (source : String) :
    let ctx := contextOf root source
    ∃ order tree, Complete ctx (bodyReferences root source) order ∧
      lower root source = (firstFault? ctx.source
        (visits ctx.source 0 [root] ++ order.flatMap ctx.noteVisits)).elim (.ok tree) .error := by
  obtain ⟨hcomplete, tree, hlower⟩ := lower_eq_elim_firstFault? root source
  exact ⟨footnoteOrder root source, tree, hcomplete, hlower⟩

end Folio.Lower
