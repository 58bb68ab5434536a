import Folio.Lower.Document
import Folio.Proofs.Lower.Container
import Folio.Proofs.Tree.Block

/-!
# The source of nested fences

A fenced block in any chain of quotes and items is lowered to a `pre` that holds the interior of the
fence as the author wrote it, without the prefixes of the containers.

The induction is on the chain.  Behind the containers that are already open, the width handed down
is the length of what opened them, so that at the fence it is the length of the front of its lines.
-/

namespace Folio.Lower

open Folio.Text Folio.Markdown

/-! ## Chains of containers -/

/-- What opens a chain of containers on the first line of its content. -/
def openings (chain : List Container) : List Char :=
  chain.flatMap Container.opening

/-- What stands in front of the other lines of the content. -/
def continuations (chain : List Container) : List Char :=
  chain.flatMap Container.continuation

/-- A fenced block in a chain of containers, as it is written. -/
def written (chain : List Container) (block : Fence.Block) : List Char :=
  openings chain ++ block.written (continuations chain)

theorem openings_cons (container : Container) (chain : List Container) :
    openings (container :: chain) = container.opening ++ openings chain := rfl

theorem isFront_continuations (chain : List Container) : Fence.IsFront (continuations chain) := by
  intro c hc
  obtain ⟨container, -, hc⟩ := List.mem_flatMap.1 hc
  exact container.isFront_continuation c hc

theorem length_continuations (chain : List Container) :
    (continuations chain).length = (openings chain).length := by
  induction chain with
  | nil => rfl
  | cons container chain ih =>
      simp only [continuations, openings, List.flatMap_cons, List.length_append,
        container.length_continuation] at ih ⊢
      rw [ih]

/-- What a container holds starts with a character that is visible. -/
theorem exists_written (chain : List Container) (block : Fence.Block) (front : List Char) :
    ∃ c rest, openings chain ++ block.written front = c :: rest ∧
      c ≠ ' ' ∧ c ≠ '\n' ∧ c ≠ '\r' := by
  cases chain with
  | nil =>
      obtain ⟨rest, hrest⟩ := block.exists_opener
      exact ⟨block.marker, _, by rw [openings, List.flatMap_nil, List.nil_append,
        Fence.Block.written, hrest, List.cons_append],
          Fence.visible_of_isMarker block.marker_isMarker⟩
  | cons container chain =>
      obtain ⟨c, rest, hrest, hc⟩ := container.exists_opening
      exact ⟨c, _, by rw [openings, List.flatMap_cons, hrest, List.cons_append, List.cons_append],
        hc⟩

/-- The markup of a fenced block in a chain of containers.  `size` is the number of bytes of the
block from its fence on, and `offset` the place where the chain starts. -/
inductive Nested (size : Nat) : (offset : Nat) → List Container → Markup → Prop
  | fence {offset : Nat} {value : String} {language note : Option String} {span : Span}
      (hstart : span.start.offset = offset) (hstop : span.stop.offset = offset + size) :
      Nested size offset [] (.leaf (.code value language note) (some span))
  | quote {offset : Nat} {chain : List Container} {inner : Markup} {span : Span}
      (hstart : span.start.offset = offset)
      (hinner : Nested size (offset + Container.quote.opening.length) chain inner) :
      Nested size offset (.quote :: chain) (.branch .quote (some span) [inner])
  | item {offset : Nat} {marker : ItemMarker} {chain : List Container} {inner : Markup}
    {span : Span}
      {ordered spread : Bool} {number : Option Nat} {listSpan : Option Span} {checked : Option Bool}
      {loose : Bool} (hstart : span.start.offset = offset)
      (hinner : Nested size (offset + (Container.item marker).opening.length) chain inner) :
      Nested size offset (.item marker :: chain)
        (.branch (.list ordered number spread) listSpan
          [.branch (.item checked loose) (some span) [inner]])

/-! ## Lowering -/

/-- The nodes hold one code block, and that keeps the text of its fence. -/
def HoldsFence (text : List Char) (nodes : List Node) : Prop :=
  ∃ pre, blocks nodes = [pre] ∧ pre.head.tag = "pre" ∧
    pre.head.data.fenceSource = some (String.ofList text)

theorem HoldsFence.element {text : List Char} {nodes : List Node} (h : HoldsFence text nodes)
    {head : ElementHead} (htag : head.tag ≠ "pre") : HoldsFence text [.element head nodes] := by
  obtain ⟨pre, hpre, htext⟩ := h
  refine ⟨pre, ?_, htext⟩
  rw [blocks_element, isCodeBlock_eq_false htag, hpre]
  rfl

theorem HoldsFence.append_left {text : List Char} {nodes others : List Node}
    (h : HoldsFence text nodes) (hothers : blocks others = []) :
    HoldsFence text (others ++ nodes) := by
  obtain ⟨pre, hpre, htext⟩ := h
  exact ⟨pre, by rw [blocks_append, hothers, hpre]; rfl, htext⟩

theorem holdsFence_of_pre {text : List Char} {pre code : ElementHead} {children : List Node}
    (hpre : pre.tag = "pre") (hcode : code.tag = "code")
    (hsource : pre.data.fenceSource = some (String.ofList text))
    (hchildren : blocks children = []) :
    HoldsFence text [.element pre [.element code children]] := by
  refine ⟨⟨pre, [.element code children]⟩, ?_, hpre, hsource⟩
  have hblock : isCodeBlock pre [.element code children] = true := by
    simp [isCodeBlock, codeChild?_element, hpre, hcode]
  have hother : isCodeBlock code children = false := isCodeBlock_eq_false (by simp [hcode]) children
  simp [hblock, hother, hchildren]

theorem holdsFence_codeBlock (text : List Char) (value : String) (language note : Option String)
    (position : Option Location) :
    HoldsFence text [codeBlock value language note (some (String.ofList text)) position] := by
  refine holdsFence_of_pre (by simp) (by simp [ElementHead.ofTag]) (by simp) ?_
  split <;> rfl

theorem blocks_taskBox (checked : Option Bool) : blocks (checked.elim [] taskBox) = [] := by
  rcases checked with _ | _ | _ <;> rfl

theorem tag_listHead (ordered : Bool) (start : Option Nat) (position : Option Location) :
    (listHead ordered start position).tag = if ordered then "ol" else "ul" := by
  cases start with
  | none => rfl
  | some n => by_cases h : (ordered && n != 1) = true <;> simp [listHead, h]

theorem tag_listHead_ne_pre (ordered : Bool) (start : Option Nat) (position : Option Location) :
    (listHead ordered start position).tag ≠ "pre" := by
  rw [tag_listHead]
  cases ordered <;> decide

theorem tag_itemHead_ne_pre (checked : Option Bool) (position : Option Location) :
    (itemHead checked position).tag ≠ "pre" := by
  have htag : "li" ≠ "pre" := by decide
  unfold itemHead
  split
  · exact htag
  · exact htag

/-- An item with one part, which is not a paragraph, is lowered to that part. -/
theorem lowerBlocks_singleton {ctx : Context} {width : Nat} {loose : Bool} {node : Markup}
    {state : State} (h : ∀ span parts, node ≠ .branch .paragraph span parts) :
    lowerBlocks ctx width loose [node] state = lowerNode ctx width node state := by
  rw [lowerBlocks]
  · simp [lowerBlocks]
  · exact h

theorem Nested.ne_paragraph {size offset : Nat} {chain : List Container} {markup : Markup}
    (h : Nested size offset chain markup) (span : Option Span) (parts : List Markup) :
    markup ≠ .branch .paragraph span parts := by
  rintro rfl
  cases h

/-! ## Behind open containers -/

theorem byteSize_opening (before opened : List Char) (container : Container) :
    byteSize (before ++ opened) + container.opening.length =
      byteSize (before ++ (opened ++ container.opening)) := by
  rw [← List.append_assoc, byteSize_append (before ++ opened), container.inline_opening.byteSize_eq]

/-- A source up to the content of the containers that are open: whole lines, what opened the
containers, and the rest of the chain with its block. -/
structure Behind (source : List Char) (block : Fence.Block) (front before opened : List Char)
    (chain : List Container) : Prop where
  wholeLines : WholeLines before
  inline : Inline opened
  source_eq : ∃ rest, source = before ++ opened ++ (openings chain ++ (block.written front ++ rest))
  length_eq : front.length = (opened ++ openings chain).length

section

variable {source : List Char} {block : Fence.Block} {front before opened : List Char}
  {chain : List Container} {span : Span}

/-- Going into a container. -/
theorem Behind.step {container : Container}
    (h : Behind source block front before opened (container :: chain)) :
    Behind source block front before (opened ++ container.opening) chain := by
  obtain ⟨rest, hrest⟩ := h.source_eq
  refine ⟨h.wholeLines, h.inline.append container.inline_opening, ⟨rest, ?_⟩, ?_⟩
  · rw [hrest, openings_cons]
    simp only [List.append_assoc]
  · rw [h.length_eq, openings_cons, List.append_assoc]

theorem Behind.quoteWidth?_eq (h : Behind source block front before opened (.quote :: chain))
    (hspan : span.start.offset = byteSize (before ++ opened)) :
    quoteWidth? source (some span) = some (opened ++ Container.quote.opening).length := by
  obtain ⟨rest, hrest⟩ := h.source_eq
  rw [hrest, openings_cons, List.append_assoc Container.quote.opening, List.length_append]
  exact quoteWidth?_opening h.wholeLines h.inline hspan _

theorem Behind.itemWidth?_eq {marker : ItemMarker}
    (h : Behind source block front before opened (.item marker :: chain))
    (hspan : span.start.offset = byteSize (before ++ opened)) :
    itemWidth? source (some span) = some (opened ++ (Container.item marker).opening).length := by
  obtain ⟨rest, hrest⟩ := h.source_eq
  obtain ⟨c, content, hcontent, hspace, hline, hreturn⟩ := exists_written chain block front
  have hitem : source = before ++ opened ++ (marker.opening ++ c :: (content ++ rest)) := by
    rw [hrest, openings_cons, List.append_assoc (Container.item marker).opening,
      ← List.append_assoc (openings chain), hcontent]
    rfl
  rw [hitem, List.length_append]
  exact itemWidth?_opening h.wholeLines h.inline hspan marker hspace hline hreturn _

/-- Behind all containers of a chain the block is cut out of the source whole, and its interior out
of the block. -/
theorem Behind.cut_eq (h : Behind source block front before opened [])
    (hfront : Fence.IsFront front) (hstart : span.start.offset = byteSize (before ++ opened))
    (hstop : span.stop.offset = byteSize (before ++ opened) + byteSize (block.written front)) :
    cut source opened.length (some span) = .interior (String.ofList block.text) := by
  obtain ⟨rest, hrest⟩ := h.source_eq
  have hwidth : opened.length = front.length := by simpa [openings] using h.length_eq.symm
  have hcut : source = before ++ opened ++ (block.written front ++ rest) := hrest
  simp only [cut, hcut, hstart, hstop, slice?_append, hwidth, Fence.interior?_written block hfront]

end

/-! ## Lowering a chain -/

/-- Behind containers that are open, the rest of a chain is lowered to nodes that hold its fence. -/
theorem Nested.exists_lowerNode {block : Fence.Block} {front : List Char}
    (hfront : Fence.IsFront front) {offset : Nat} {chain : List Container} {markup : Markup}
    (h : Nested (byteSize (block.written front)) offset chain markup) {ctx : Context}
    {before opened : List Char} (hbehind : Behind ctx.source block front before opened chain)
    (hoffset : offset = byteSize (before ++ opened)) (state : State) :
    ∃ nodes, lowerNode ctx opened.length markup state = (nodes, state) ∧
      HoldsFence block.text nodes := by
  induction h generalizing opened with
  | @fence offset value language note span hstart hstop =>
      subst hoffset
      have hcut := hbehind.cut_eq hfront hstart hstop
      refine ⟨_, ?_, holdsFence_codeBlock block.text value language note (placeOf (some span))⟩
      simp only [lowerNode, lowerLeaf, hcut]
  | @quote offset chain inner span hstart hinner ih =>
      subst hoffset
      have hwidth := hbehind.quoteWidth?_eq hstart
      obtain ⟨nodes, hnodes, hholds⟩ := ih hbehind.step (byteSize_opening before opened _)
      refine ⟨[placed "blockquote" (some span) nodes], ?_, hholds.element (by simp)⟩
      simp only [lowerNode, hwidth, Option.getD_some, lowerAll, hnodes, List.append_nil]
  | @item offset marker chain inner span ordered spread number listSpan checked loose hstart hinner
      ih =>
      subst hoffset
      have hwidth := hbehind.itemWidth?_eq hstart
      obtain ⟨nodes, hnodes, hholds⟩ := ih hbehind.step (byteSize_opening before opened _)
      -- The box of a task stands before the content, and is no block.
      have hitem := (hholds.append_left (blocks_taskBox checked)).element
        (tag_itemHead_ne_pre checked (placeOf (some span)))
      refine ⟨_, ?_, hitem.element (tag_listHead_ne_pre ordered number (placeOf listSpan))⟩
      simp only [lowerNode, lowerItems, hwidth, Option.getD_some,
        lowerBlocks_singleton hinner.ne_paragraph, hnodes]

/-! ## Lowering a body -/

/-- Nothing is collected for footnotes that are never referenced. -/
theorem footnoteItems_nil (ctx : Context) (steps : Nat) :
    footnoteItems ctx steps 0 {} = ([], {}) := by
  cases steps <;> rfl

end Lower

/-- A fenced block that is written in a chain of containers, on whole lines of a body and with any
text after it, is lowered to one code block, which keeps the interior of the fence with its line
ends as it was before the prefixes of the containers were put in front of its lines. -/
theorem fenceSource_of_nested (chain : List Lower.Container) (block : Fence.Block)
    {before : List Char} (hbefore : Text.WholeLines before) (after : List Char)
    {markup : Markdown.Markup} {span : Option Markdown.Span}
    (hmarkup : Lower.Nested (Text.byteSize (block.written (Lower.continuations chain)))
      (Text.byteSize before) chain markup) :
    ∃ tree pre,
      lower (.branch .root span [markup])
        (String.ofList (before ++ Lower.written chain block ++ after)) = .ok tree ∧
      blocks tree = [pre] ∧ pre.head.tag = "pre" ∧
      pre.head.data.fenceSource =
        some (String.ofList (block.interior.flatMap Text.Line.written)) := by
  let ctx := Lower.contextOf (.branch .root span [markup])
    (String.ofList (before ++ Lower.written chain block ++ after))
  have hbehind : Lower.Behind ctx.source block (Lower.continuations chain) before [] chain := by
    refine ⟨hbefore, List.forall_mem_nil _, ⟨after, ?_⟩, Lower.length_continuations chain⟩
    simp [ctx, Lower.contextOf, Lower.written]
  obtain ⟨nodes, hnodes, pre, hpre, htag, hsource⟩ := hmarkup.exists_lowerNode
    (Lower.isFront_continuations chain) hbehind (by rw [List.append_nil]) {}
  refine ⟨nodes, pre, ?_, hpre, htag, hsource⟩
  -- No footnote was referenced and no fence left open, so the nodes are the whole tree.
  have hroot : Lower.lowerNode ctx 0 (.branch .root span [markup]) {} = (nodes, {}) := by
    have hnode : Lower.lowerNode ctx 0 markup {} = (nodes, {}) := hnodes
    simp only [Lower.lowerNode, Lower.lowerAll, hnode, List.append_nil]
  simp only [lower, hroot, ctx, Lower.footnoteItems_nil]
  rfl

/-- A quote in an item of a quote. -/
def quotedStep : List Lower.Container :=
  [.quote, .item ⟨['1', '0'], ')', 2, by simp, by decide, by decide⟩, .quote]

/-- A block of three lines: one ends in a carriage return, one starts like a quote, one is empty. -/
def quotedBlock : Fence.Block where
  marker := '~'
  length := 4
  info := ⟨[' ', 'c'], by decide⟩
  interior := [⟨[' ', 'a', '\r'], by decide⟩, ⟨['>', ' ', '~', '~', '~'], by decide⟩,
    ⟨[], by decide⟩]
  closeLength := 5
  closeTail := [' ']
  marker_isMarker := by decide
  three_le_length := by decide
  info_head := by decide
  length_le_closeLength := by decide
  closeTail_isIndent := List.forall_mem_singleton.2 rfl

/-- The markup of the block in the quotes and the item, on the second line of a body. -/
def quotedMarkup : Markdown.Markup :=
  .branch .quote (some ⟨⟨2, 1, 2⟩, ⟨6, 16, 71⟩⟩)
    [.branch (.list true (some 10) false) none
      [.branch (.item none false) (some ⟨⟨2, 3, 4⟩, ⟨6, 16, 71⟩⟩)
        [.branch .quote (some ⟨⟨2, 8, 9⟩, ⟨6, 16, 71⟩⟩)
          [.leaf (.code " a\n> ~~~\n" (some "c") none) (some ⟨⟨2, 10, 11⟩, ⟨6, 16, 71⟩⟩)]]]]

theorem fenceSource_of_quotedMarkup :
    Text.WholeLines ['a', '\n'] ∧
      Lower.Nested (Text.byteSize (quotedBlock.written (Lower.continuations quotedStep)))
        (Text.byteSize ['a', '\n']) quotedStep quotedMarkup ∧
      ∃ tree pre,
        lower (.branch .root none [quotedMarkup])
          (String.ofList (['a', '\n'] ++ Lower.written quotedStep quotedBlock ++ ['\n', 'b'])) =
            .ok tree ∧
        blocks tree = [pre] ∧ pre.head.tag = "pre" ∧
        pre.head.data.fenceSource = some (String.ofList
          [' ', 'a', '\r', '\n', '>', ' ', '~', '~', '~', '\n', '\n']) := by
  have hbefore := Text.wholeLines_concat ['a']
  have hmarkup : Lower.Nested (Text.byteSize (quotedBlock.written (Lower.continuations quotedStep)))
      (Text.byteSize ['a', '\n']) quotedStep quotedMarkup :=
    .quote rfl (.item rfl (.quote rfl (.fence rfl (by decide))))
  exact ⟨hbefore, hmarkup,
    fenceSource_of_nested quotedStep quotedBlock hbefore ['\n', 'b'] hmarkup⟩

example : String.ofList (Lower.written quotedStep quotedBlock) =
    "> 10)  > ~~~~ c\n>      >  a\r\n>      > > ~~~\n>      > \n>      > ~~~~~ " := by
  decide

end Folio
