import Folio.Proofs.Lower.Phrasing
import Folio.Proofs.Outline.PlainDocument
import Folio.Proofs.Pipeline.Outline

/-!
# Both outlines of a plain document

The outline that is read off the lines of a plain document is the one that is read off the tree it
is compiled to.  Both list its headings: an item of the document is lowered to nodes whose headings,
once they have ids, are what the item writes into the outline of the lines.
-/

namespace Folio

open Folio.Text Folio.Markdown

/-! ## Trees with a known outline -/

/-- Headings and code are apart, all components are known, and the outline is given once headings
have ids. -/
structure Outlined (entries : List Heading) (t : Tree) : Prop where
  apart : Apart t
  known : ∀ registry, unresolvedIn? registry t = none
  outline : treeOutline (headingIds t) = entries

namespace Outlined

theorem nil : Outlined [] [] where
  apart := apart_nil
  known _ := rfl
  outline := rfl

theorem append {first rest : List Heading} {t u : Tree} (ht : Outlined first t)
    (hu : Outlined rest u) : Outlined (first ++ rest) (t ++ u) where
  apart := apart_append.2 ⟨ht.apart, hu.apart⟩
  known registry := by rw [unresolvedIn?_append, ht.known, hu.known, Option.or_none]
  outline := by
    rw [headingIds, mapHeads_append, treeOutline_append]
    exact congrArg₂ (· ++ ·) ht.outline hu.outline

/-- Prose is not in the outline. -/
theorem of_prose {t : Tree} (h : Prose t) : Outlined [] t where
  apart := apart_of_headless h.headless h.codeFree
  known := h.known
  outline := ((revises_headingIds t).headless h.headless).treeOutline_eq_nil

/-- Neither is a block of prose. -/
theorem of_pre {head : ElementHead} (hpre : head.tag = "pre") {children : List Node}
    (h : Prose children) : Outlined [] [.element head children] := by
  have hplain : head.isHeading = false := isHeading_eq_false_of_tag (Or.inl hpre)
  have hheadless : Headless [.element head children] :=
    allHeads_element.2 ⟨hplain, h.headless, allHeads_nil⟩
  have hchildren : Apart children := apart_of_headless h.headless h.codeFree
  have happart : (head.isHeading → CodeFree children) ∧ (head.tag = "pre" → Headless children) :=
    ⟨fun _ => h.codeFree, fun _ => h.headless⟩
  refine ⟨apart_element.2 ⟨happart, hchildren, apart_nil⟩, fun registry => ?_, ?_⟩
  · rw [unresolvedIn?_element, h.known]
    rfl
  · exact ((revises_headingIds _).headless hheadless).treeOutline_eq_nil

/-- A text in a heading is what the heading is in the outline by. -/
theorem of_heading {head : ElementHead} {depth : Nat} (hlevel : head.headingLevel? = some depth)
    (hfresh : head.attributes.contains "id" = false) {text : List Char} (htrim : trim text = text) :
    Outlined (if 2 ≤ depth ∧ depth ≤ 4 then some (Heading.ofText depth (String.ofList text))
      else none).toList [.element head [.text (String.ofList text)]] := by
  have hheading : head.isHeading = true := by
    rw [ElementHead.isHeading, hlevel]
    rfl
  have hprose := Prose.text (String.ofList text)
  have htext : String.ofList (trim (content [.text (String.ofList text)]).toList) =
      String.ofList text := by
    simp [htrim]
  refine ⟨apart_element.2 ⟨⟨fun _ => hprose.codeFree, fun _ => hprose.headless⟩,
    apart_of_headless hprose.headless hprose.codeFree, apart_nil⟩, fun registry => rfl, ?_⟩
  have hid : giveId head [.text (String.ofList text)] =
      head.setAttribute "id" (slug (String.ofList text)) := by
    rw [giveId, hheading, hfresh, htext]
    rfl
  have hlevel' : (head.setAttribute "id" (slug (String.ofList text))).headingLevel? = some depth :=
    hlevel
  have hgiven : (head.setAttribute "id" (slug (String.ofList text))).attribute? "id" =
      some (slug (String.ofList text)) := by
    rw [ElementHead.attribute?_setAttribute, if_pos rfl]
  have hids : headingIds [.element head [.text (String.ofList text)]] =
      [.element (head.setAttribute "id" (slug (String.ofList text)))
        [.text (String.ofList text)]] := by
    rw [headingIds, mapHeads_element, hid]
    rfl
  rw [hids, treeOutline_element, heading?, hlevel', hgiven, htext]
  simp [Heading.ofText]

end Outlined

/-! ## The markup of a plain document -/

/-- The markup of an item that is written behind a text.  What a paragraph says is any markup of a
text. -/
inductive PlainItem.ReadAs (before : List Char) : PlainItem → Markup → Prop
  | heading {heading : PlainHeading} {span textSpan : Option Span} :
      ReadAs before (.heading heading)
        (.branch (.heading heading.depth) span
          [.leaf (.text (String.ofList heading.text)) textSpan])
  | paragraph {line : ParagraphLine} {span : Option Span} {parts : List Markup} :
      Phrasing parts → ReadAs before (.paragraph line) (.branch .paragraph span parts)
  | code {block : Fence.TopBlock} {value : String} {language note : Option String} {span : Span} :
      span.start.offset = byteSize before + block.indent →
      span.stop.offset = span.start.offset + byteSize (block.written []) →
      ReadAs before (.code block) (.leaf (.code value language note) (some span))

/-- The markup of the items of a document that is written behind a text. -/
inductive ReadAs : (before : List Char) → List PlainItem → List Markup → Prop
  | nil {before : List Char} : ReadAs before [] []
  | cons {before : List Char} {item : PlainItem} {items : List PlainItem} {node : Markup}
      {nodes : List Markup} : item.ReadAs before node →
      ReadAs (before ++ item.written ++ ['\n']) items nodes →
      ReadAs before (item :: items) (node :: nodes)

/-! ## Lowering -/

namespace Lower

/-- The tag of a heading says its depth. -/
theorem headingLevel?_placed {depth : Nat} (hone : 1 ≤ depth) (hsix : depth ≤ 6)
    (position : Option Location) :
    ({ tag := "h" ++ toString (max 1 (min 6 depth)), position } : ElementHead).headingLevel? =
      some depth := by
  obtain rfl | rfl | rfl | rfl | rfl | rfl :
      depth = 1 ∨ depth = 2 ∨ depth = 3 ∨ depth = 4 ∨ depth = 5 ∨ depth = 6 := by omega
  all_goals rfl

/-- A code block holds its text alone. -/
theorem outlined_codeBlock (value : String) (language note fenceSource : Option String)
    (position : Option Location) :
    Outlined [] [codeBlock value language note fenceSource position] := by
  have hbody : Prose (if value.isEmpty then [] else [.text (value ++ "\n")]) := by
    split
    · exact .nil
    · exact .text _
  have hcode {head : ElementHead} (htag : head.tag = "code") :
      Prose [.element head (if value.isEmpty then [] else [.text (value ++ "\n")])] :=
    prose_element "code" htag (by decide) (by decide) hbody
  exact .of_pre (by simp) (hcode (by simp [ElementHead.ofTag]))

/-- The whole of a block is cut out of the source, and its interior out of the block. -/
theorem cut_topBlock {source before : List Char} {block : Fence.TopBlock} {rest : List Char}
    (hsource : source = before ++ (block.source ++ rest)) {span : Span}
    (hstart : span.start.offset = byteSize before + block.indent)
    (hstop : span.stop.offset = span.start.offset + byteSize (block.written [])) :
    cut source 0 (some span) = .interior (String.ofList block.text) := by
  have hfront : byteSize (before ++ List.replicate block.indent ' ') =
      byteSize before + block.indent := by
    have hspaces : Inline (List.replicate block.indent ' ') := fun c hc => by
      rw [List.eq_of_mem_replicate hc]
      decide
    rw [byteSize_append, hspaces.byteSize_eq, List.length_replicate]
  have hcut : source = before ++ List.replicate block.indent ' ' ++
      (block.written [] ++ (['\n'] ++ rest)) := by
    rw [hsource, Fence.TopBlock.source]
    simp only [List.append_assoc]
  have hnil : Fence.IsFront [] := List.forall_mem_nil _
  have hinterior : Fence.interior? (block.written []) 0 = some block.text :=
    Fence.interior?_written block.toBlock hnil
  simp only [cut, hcut, hstop, hstart, ← hfront, slice?_append, hinterior]

/-- An item is lowered to nodes with its entry in the outline. -/
theorem exists_lowerNode_item {ctx : Context} {before rest : List Char} {item : PlainItem}
    {node : Markup} (h : item.ReadAs before node)
    (hsource : ctx.source = before ++ (item.written ++ rest)) (state : State) :
    ∃ nodes, lowerNode ctx 0 node state = (nodes, state) ∧ Outlined item.listed?.toList nodes := by
  cases h with
  | @heading heading span textSpan =>
      have hlevel := headingLevel?_placed heading.one_le_depth heading.depth_le_six (placeOf span)
      refine ⟨_, ?_, .of_heading hlevel rfl heading.trimmed⟩
      simp only [lowerNode, lowerAll, lowerLeaf, List.append_nil]
      rfl
  | @paragraph line span parts hparts =>
      obtain ⟨children, hchildren, hprose⟩ := exists_lowerAll_phrasing ctx 0 hparts state
      refine ⟨[placed "p" span children], ?_,
        .of_prose (prose_placed (by decide) (by decide) hprose span)⟩
      simp only [lowerNode, hchildren]
  | @code block value language note span hstart hstop =>
      have hcut := cut_topBlock hsource hstart hstop
      refine ⟨[codeBlock value language note (some (String.ofList block.text))
        (placeOf (some span))], ?_, outlined_codeBlock ..⟩
      simp only [lowerNode, lowerLeaf, hcut]

/-- The items of a document are lowered to nodes with its entries in the outline. -/
theorem exists_lowerAll_items {ctx : Context} {before : List Char} {items : List PlainItem}
    {nodes : List Markup} (h : ReadAs before items nodes)
    (hsource : items ≠ [] → ctx.source = before ++ document items) (state : State) :
    ∃ tree, lowerAll ctx 0 nodes state = (tree, state) ∧
      Outlined (items.filterMap PlainItem.listed?) tree := by
  induction h with
  | nil => exact ⟨[], by rw [lowerAll], .nil⟩
  | @cons before item items node nodes hitem _ ih =>
      have hsource := hsource (List.cons_ne_nil _ _)
      obtain ⟨rest, hrest⟩ := exists_document_cons item items
      obtain ⟨first, hfirst, houtlined⟩ := exists_lowerNode_item hitem (hrest ▸ hsource) state
      obtain ⟨others, hothers, hall⟩ := ih fun hne => by
        obtain ⟨next, items, rfl⟩ := List.exists_cons_of_ne_nil hne
        rw [hsource, document_cons_cons]
        simp only [List.append_assoc]
      refine ⟨first ++ others, ?_, ?_⟩
      · simp only [lowerAll, hfirst, hothers]
      · have hentries : (item :: items).filterMap PlainItem.listed? =
            item.listed?.toList ++ items.filterMap PlainItem.listed? := by
          rw [List.filterMap_cons]
          cases item.listed? <;> rfl
        rw [hentries]
        exact houtlined.append hall

end Lower

/-- A plain document is compiled by the standard stages, whatever link headings get and whether code
is highlighted, and the outline of the compiled tree is the outline of the lines: both list the
headings of the second to the fourth level. -/
theorem treeOutline_eq_textOutline_of_document {registry : Registry} {options : CompileOptions}
    {highlighter : Theme → Highlighter} {stages : List Stage}
    (hstages : Pipeline.standardStages registry options highlighter = .ok stages)
    (htotal : ∀ theme, Theme.find options.theme = .ok theme → (highlighter theme).Total)
    {items : List PlainItem} {nodes : List Markup} (hread : ReadAs [] items nodes)
    (span : Option Span) :
    ∃ tree result,
      lower (.branch .root span nodes) (String.ofList (document items)) = .ok tree ∧
      applyStages stages tree = .ok result ∧
      treeOutline result = textOutline (String.ofList (document items)) ∧
      textOutline (String.ofList (document items)) = items.filterMap PlainItem.listed? := by
  let ctx := Lower.contextOf (.branch .root span nodes) (String.ofList (document items))
  have hsource : ctx.source = document items := String.toList_ofList
  obtain ⟨tree, htree, houtlined⟩ := Lower.exists_lowerAll_items hread (fun _ => hsource) {}
  obtain ⟨result, hresult⟩ := exists_run_standardStages hstages htotal (houtlined.known registry)
  refine ⟨tree, result, ?_, hresult, ?_, textOutline_document items⟩
  · -- No footnote was referenced and no fence left open, so the nodes are the whole tree.
    have hroot : Lower.lowerNode ctx 0 (.branch .root span nodes) {} = (tree, {}) := by
      simp only [Lower.lowerNode, htree]
    simp only [lower, hroot, ctx, Lower.footnoteItems_nil]
    rfl
  · rw [treeOutline_of_standardStages hstages houtlined.apart hresult, houtlined.outline,
      textOutline_document]

/-- A block whose interior looks like a heading and like fences. -/
def quotedFences : Fence.TopBlock where
  marker := '~'
  length := 5
  info := ⟨['c'], by decide⟩
  interior := [⟨"## no".toList, by decide⟩, ⟨"~~~".toList, by decide⟩, ⟨"~~~~ c".toList, by decide⟩]
  closeLength := 6
  closeIndent := 2
  closeTail := [' ', '\t']
  marker_isMarker := Fence.isMarker_tilde
  three_le_length := by decide
  info_head := by decide
  length_le_closeLength := by decide
  closeTail_isIndent := by simp [Text.isIndent]
  indent := 1
  indent_le_three := by decide
  closeIndent_le_three := by decide
  opens := by decide
  staysOpen := by decide

/-- A heading, a paragraph, the block, and a heading of a level that outlines leave out. -/
def guideItems : List PlainItem :=
  [.heading ⟨3, "Größe #2".toList, by decide, by decide, by decide, by decide, by decide,
      by decide⟩,
    .paragraph ⟨⟨"See *it*.".toList, by decide⟩, by decide⟩,
    .code quotedFences,
    .heading ⟨6, ['A'], by decide, by decide, by decide, by decide, by decide, by decide⟩]

example : String.ofList (document guideItems) =
    "### Größe #2\n\nSee *it*.\n\n ~~~~~c\n## no\n~~~\n~~~~ c\n  ~~~~~~ \t\n\n###### A\n" := by
  decide

/-- The markup of these items. -/
def guideMarkup : List Markup :=
  [.branch (.heading 3) none [.leaf (.text "Größe #2") none],
    .branch .paragraph none
      [.leaf (.text "See ") none, .branch .emphasis none [.leaf (.text "it") none],
        .leaf (.text ".") none],
    .leaf (.code "## no\n~~~\n~~~~ c" (some "c") none) (some ⟨⟨5, 2, 28⟩, ⟨9, 11, 62⟩⟩),
    .branch (.heading 6) none [.leaf (.text "A") none]]

theorem treeOutline_guideItems :
    ∃ stages tree result,
      Pipeline.standardStages {} { highlight := true, autolink := .wrap } Highlighter.plain =
        .ok stages ∧
      (∀ theme, Theme.find Theme.defaultName = .ok theme → (Highlighter.plain theme).Total) ∧
      ReadAs [] guideItems guideMarkup ∧
      lower (.branch .root none guideMarkup) (String.ofList (document guideItems)) = .ok tree ∧
      applyStages stages tree = .ok result ∧
      treeOutline result = textOutline (String.ofList (document guideItems)) ∧
      textOutline (String.ofList (document guideItems)) =
        guideItems.filterMap PlainItem.listed? := by
  obtain ⟨stages, hstages⟩ : ∃ stages,
      Pipeline.standardStages {} { highlight := true, autolink := .wrap } Highlighter.plain =
        .ok stages := ⟨_, rfl⟩
  have htotal : ∀ theme, Theme.find Theme.defaultName = .ok theme →
      (Highlighter.plain theme).Total :=
    fun theme _ => Highlighter.total_plain theme
  have hread : ReadAs [] guideItems guideMarkup :=
    .cons .heading (.cons
      (.paragraph (.leaf rfl (.branch rfl (.leaf rfl .nil) (.leaf rfl .nil))))
      (.cons (.code (by decide) (by decide)) (.cons .heading .nil)))
  obtain ⟨tree, result, h⟩ := treeOutline_eq_textOutline_of_document hstages htotal hread none
  exact ⟨stages, tree, result, hstages, htotal, hread, h⟩

end Folio
