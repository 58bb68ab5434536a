import Folio.Proofs.Fence.Quoted
import Folio.Proofs.Lower.FenceSource

/-!
# The source of a fence in a quote

A fenced block in a quote whose lines each have a prefix of their own.  The width of the quote is
measured on its first line.  The block is lowered with the interior that its author wrote exactly if
this width fits all other lines; otherwise the interior is not what was written, or the line that
closes the block is not recognized and lowering fails.
-/

namespace Folio.Lower

open Folio.Text Folio.Markdown

/-! ## Places -/

/-- Where the markup of a quoted block may be in a source that has the block at an offset.  The
quote and the fence may start before or behind the blanks that indent them. -/
structure Spanned (quoted : Fence.QuotedBlock) (offset : Nat) (quoteSpan codeSpan : Span) :
    Prop where
  quote_start : ∃ k, k ≤ quoted.openFront.indent ∧ quoteSpan.start.offset = offset + k
  code_start : ∃ k, k ≤ quoted.openBlanks.length ∧
    codeSpan.start.offset = offset + quoted.openFront.text.length + k
  code_stop : codeSpan.stop.offset = offset + byteSize quoted.written

/-- The markup of a quote that holds a fenced block. -/
def quoteMarkup (quoteSpan codeSpan : Span) (value : String) (language note : Option String) :
    Markup :=
  .branch .quote (some quoteSpan) [.leaf (.code value language note) (some codeSpan)]

theorem inline_of_isIndent {blanks : List Char} (h : ∀ c ∈ blanks, isIndent c) : Inline blanks := by
  intro c hc
  rcases isIndent_iff.1 (h c hc) with rfl | rfl <;> decide

theorem inline_of_isFront {front : List Char} (h : Fence.IsFront front) : Inline front := by
  intro c hc
  rcases Bool.or_eq_true_iff.1 (h c hc) with hindent | hquote
  · exact inline_of_isIndent (List.forall_mem_singleton.2 hindent) c (List.mem_singleton_self c)
  · rw [beq_iff_eq.1 hquote]
    decide

section

variable (quoted : Fence.QuotedBlock) {before : List Char} (after : List Char)
  {quoteSpan codeSpan : Span}

/-- A blank follows the quote marker of the first line if a space belongs to its prefix, or the
fence is indented. -/
theorem isIndent_head_opened :
    (((quoted.openFront.space ++ (quoted.opened ++ after)).head?).map isIndent).getD false =
      (quoted.openFront.spaced || !quoted.openBlanks.isEmpty) := by
  cases hspaced : quoted.openFront.spaced with
  | true => simp [Fence.QuotePrefix.space, hspaced, isIndent]
  | false =>
      cases hblanks : quoted.openBlanks with
      | nil =>
          obtain ⟨rest, hrest⟩ := quoted.block.exists_opener
          simp [Fence.QuotePrefix.space, hspaced, Fence.QuotedBlock.opened, hblanks, hrest,
            Fence.isIndent_of_isMarker quoted.block.marker_isMarker]
      | cons c blanks =>
          have hc : isIndent c = true := quoted.openBlanks_isIndent c (by rw [hblanks]; simp)
          simp [Fence.QuotePrefix.space, hspaced, Fence.QuotedBlock.opened, hblanks, hc]

/-- The width that is measured where the quote starts. -/
theorem quoteWidth?_quoted (hbefore : WholeLines before)
    (hspans : Spanned quoted (byteSize before) quoteSpan codeSpan) :
    quoteWidth? (before ++ quoted.written ++ after) (some quoteSpan) = some quoted.width := by
  obtain ⟨k, hk, hstart⟩ := hspans.quote_start
  obtain ⟨n, hn⟩ : ∃ n, quoted.openFront.indent = k + n := ⟨quoted.openFront.indent - k, by omega⟩
  have hindent : Inline (List.replicate k ' ') :=
    inline_of_isIndent (Fence.isIndent_of_mem_replicate k)
  have hoffset : quoteSpan.start.offset = byteSize (before ++ List.replicate k ' ') := by
    rw [hstart, byteSize_append, hindent.byteSize_eq, List.length_replicate]
  have hsource : before ++ quoted.written ++ after = before ++ List.replicate k ' ' ++
      (List.replicate n ' ' ++ '>' :: (quoted.openFront.space ++ (quoted.opened ++ after))) := by
    rw [Fence.QuotedBlock.written, Fence.QuotePrefix.text, hn, List.replicate_add]
    simp only [List.append_assoc, List.cons_append]
  have hleading : leadingIndents (List.replicate n ' ' ++
      '>' :: (quoted.openFront.space ++ (quoted.opened ++ after))) = n := by
    rw [leadingIndents, takeWhile_front (Fence.isIndent_of_mem_replicate n) (by simp [isIndent]),
      List.length_replicate]
  have hdrop : (List.replicate n ' ' ++
      '>' :: (quoted.openFront.space ++ (quoted.opened ++ after))).drop n =
        '>' :: (quoted.openFront.space ++ (quoted.opened ++ after)) :=
    List.drop_left' List.length_replicate
  rw [hsource]
  simp only [quoteWidth?, Option.bind_eq_bind, Option.bind_some, hoffset, drop?_append, hleading,
    hdrop, columnOf_append hbefore hindent, isIndent_head_opened, List.length_replicate]
  rw [Fence.QuotedBlock.width, hn]
  rfl

/-- What is cut out of the source, at the width of the quote. -/
theorem cut_quoted (hspans : Spanned quoted (byteSize before) quoteSpan codeSpan) (width : Nat) :
    ∃ marker, cut (before ++ quoted.written ++ after) width (some codeSpan) =
      if quoted.closeFront.indent < width then
        .interior (String.ofList (quoted.lines.flatMap fun line => (line.stripped width).written))
      else .unclosed marker codeSpan.start := by
  obtain ⟨k, hk, hstart⟩ := hspans.code_start
  have hblanks : ∀ c ∈ quoted.openBlanks.drop k, isIndent c := fun c hc =>
    quoted.openBlanks_isIndent c (List.mem_of_mem_drop hc)
  have htaken : Inline (quoted.openBlanks.take k) := inline_of_isIndent fun c hc =>
    quoted.openBlanks_isIndent c (List.mem_of_mem_take hc)
  -- The source up to the place where the markup of the block starts, and the block from there on.
  have hopened : quoted.opened = quoted.openBlanks.take k ++
      (quoted.openBlanks.drop k ++ quoted.block.opener ++
        '\n' :: (quoted.inside ++ quoted.last)) := by
    rw [Fence.QuotedBlock.opened]
    simp only [← List.append_assoc, List.take_append_drop]
  generalize hcode : quoted.openBlanks.drop k ++ quoted.block.opener ++
    '\n' :: (quoted.inside ++ quoted.last) = code at hopened
  have hoffset : codeSpan.start.offset =
      byteSize (before ++ (quoted.openFront.text ++ quoted.openBlanks.take k)) := by
    rw [hstart, byteSize_append, byteSize_append,
      (inline_of_isFront quoted.openFront.isFront_text).byteSize_eq, htaken.byteSize_eq,
      List.length_take, Nat.min_eq_left hk, Nat.add_assoc]
  have hstop : codeSpan.stop.offset =
      byteSize (before ++ (quoted.openFront.text ++ quoted.openBlanks.take k)) + byteSize code := by
    rw [hspans.code_stop, Fence.QuotedBlock.written, hopened]
    simp only [byteSize_append, Nat.add_assoc]
  have hsource : before ++ quoted.written ++ after =
      before ++ (quoted.openFront.text ++ quoted.openBlanks.take k) ++ (code ++ after) := by
    rw [Fence.QuotedBlock.written, hopened]
    simp only [List.append_assoc]
  refine ⟨code.head?.getD '\x60', ?_⟩
  have hinterior := quoted.interior?_opened hblanks width
  rw [hcode] at hinterior
  simp only [cut, hsource, hoffset, hstop, slice?_append, hinterior]
  by_cases hlt : quoted.closeFront.indent < width
  · simp only [if_pos hlt]
  · simp only [if_neg hlt]

end

/-! ## Lowering -/

/-- Nodes hold one text of a fence only. -/
theorem HoldsFence.text_eq {text other : List Char} {nodes : List Node} (h : HoldsFence text nodes)
    (hother : HoldsFence other nodes) : text = other := by
  obtain ⟨pre, hpre, -, hsource⟩ := h
  obtain ⟨pre', hpre', -, hsource'⟩ := hother
  rw [hpre, List.singleton_inj] at hpre'
  rw [← hpre', hsource, Option.some_inj] at hsource'
  exact String.ofList_injective hsource'

/-- Lowering succeeds and gives one code block, which keeps the text of its fence. -/
def KeepsFence (text : List Char) (outcome : Except CompileError Tree) : Prop :=
  ∃ tree, outcome = .ok tree ∧ HoldsFence text tree

/-- The outcome of lowering a quote, from what is cut out of the source for its block. -/
theorem lower_quoteMarkup {source : String} {quoteSpan codeSpan : Span} {width : Nat}
    (hwidth : quoteWidth? source.toList (some quoteSpan) = some width) (span : Option Span)
    (value : String) (language note : Option String) :
    (∀ text, cut source.toList width (some codeSpan) = .interior (String.ofList text) →
      KeepsFence text
        (lower (.branch .root span [quoteMarkup quoteSpan codeSpan value language note]) source)) ∧
    ∀ marker start, cut source.toList width (some codeSpan) = .unclosed marker start →
      lower (.branch .root span [quoteMarkup quoteSpan codeSpan value language note]) source =
        .error (.block (.unclosedFence marker) { line := start.line, column := start.column }) := by
  let ctx := contextOf (.branch .root span [quoteMarkup quoteSpan codeSpan value language note])
    source
  have hcontext : quoteWidth? ctx.source (some quoteSpan) = some width := hwidth
  have hquote : ∀ nodes state,
      lowerLeaf ctx width (.code value language note) (some codeSpan) {} = (nodes, state) →
        lowerNode ctx 0 (.branch .root span [quoteMarkup quoteSpan codeSpan value language note])
          {} =
          ([placed "blockquote" (some quoteSpan) nodes], state) := by
    intro nodes state hleaf
    simp only [quoteMarkup, lowerNode, lowerAll, hcontext, Option.getD_some, hleaf, List.append_nil]
  constructor
  · intro text hcut
    have hleaf : lowerLeaf ctx width (.code value language note) (some codeSpan) {} =
        ([codeBlock value language note (some (String.ofList text)) (placeOf (some codeSpan))],
          {}) := by
      have hcut : cut ctx.source width (some codeSpan) = .interior (String.ofList text) := hcut
      simp only [lowerLeaf, hcut]
    refine ⟨[placed "blockquote" (some quoteSpan) _], ?_,
      (holdsFence_codeBlock text value language note (placeOf (some codeSpan))).element (by simp)⟩
    simp only [lower, hquote _ _ hleaf, ctx, footnoteItems_nil]
    rfl
  · intro marker start hcut
    have hleaf : lowerLeaf ctx width (.code value language note) (some codeSpan) {} =
        ([codeBlock value language note none (placeOf (some codeSpan))],
          ({} : State).noteUnclosed marker start) := by
      have hcut : cut ctx.source width (some codeSpan) = .unclosed marker start := hcut
      simp only [lowerLeaf, hcut]
    -- The fence is noted, and nothing is collected for footnotes.
    have hitems : ∀ steps, footnoteItems ctx steps 0 (({} : State).noteUnclosed marker start) =
        ([], ({} : State).noteUnclosed marker start) := by
      intro steps
      cases steps <;> rfl
    simp only [lower, hquote _ _ hleaf, ctx, hitems]
    rfl

end Lower

/-- A fenced block that is written in a quote, with a prefix of its own on each line.  It is lowered
to one code block with the interior of the fence as its author wrote it, exactly if the line that
closes it is indented by less than the width of the first line's prefix, and this width fits every
line between: the prefix of the line is as long, or it is shorter and the content does not start
like a prefix.  A closing line that is indented further is not recognized; else the interior is what
is left when from each line as much of a prefix as the width allows has been dropped. -/
theorem fenceSource_quoted_iff (quoted : Fence.QuotedBlock) {before : List Char}
    (hbefore : Text.WholeLines before) (after : List Char) {quoteSpan codeSpan : Markdown.Span}
    (hspans : Lower.Spanned quoted (Text.byteSize before) quoteSpan codeSpan)
    (span : Option Markdown.Span) (value : String) (language note : Option String) :
    let outcome := lower
      (.branch .root span [Lower.quoteMarkup quoteSpan codeSpan value language note])
      (String.ofList (before ++ quoted.written ++ after))
    (Lower.KeepsFence quoted.block.text outcome ↔
      quoted.closeFront.indent < quoted.width ∧ ∀ line ∈ quoted.lines, line.Fits quoted.width) ∧
    (quoted.closeFront.indent < quoted.width →
      Lower.KeepsFence (quoted.lines.flatMap fun line => (line.stripped quoted.width).written)
        outcome) ∧
    (quoted.width ≤ quoted.closeFront.indent →
      ∃ marker, outcome = .error (.block (.unclosedFence marker)
        { line := codeSpan.start.line, column := codeSpan.start.column })) := by
  intro outcome
  have hwidth : Lower.quoteWidth? (String.ofList (before ++ quoted.written ++ after)).toList
      (some quoteSpan) = some quoted.width := by
    rw [String.toList_ofList]
    exact Lower.quoteWidth?_quoted quoted after hbefore hspans
  obtain ⟨hkept, hfailed⟩ := Lower.lower_quoteMarkup hwidth span value language note
  obtain ⟨marker, hcut⟩ := Lower.cut_quoted quoted after hspans quoted.width
  rw [String.toList_ofList] at hkept hfailed
  have hcloses : quoted.closeFront.indent < quoted.width →
      Lower.KeepsFence (quoted.lines.flatMap fun line => (line.stripped quoted.width).written)
        outcome := by
    intro hlt
    rw [if_pos hlt] at hcut
    exact hkept _ hcut
  have hfails : quoted.width ≤ quoted.closeFront.indent →
      outcome = .error (.block (.unclosedFence marker)
        { line := codeSpan.start.line, column := codeSpan.start.column }) := by
    intro hle
    rw [if_neg (Nat.not_lt.2 hle)] at hcut
    exact hfailed marker codeSpan.start hcut
  refine ⟨?_, hcloses, fun hle => ⟨marker, hfails hle⟩⟩
  rw [quoted.text_block]
  constructor
  · rintro ⟨tree, htree, hholds⟩
    have hlt : quoted.closeFront.indent < quoted.width := by
      by_contra hnot
      rw [hfails (Nat.le_of_not_lt hnot)] at htree
      cases htree
    obtain ⟨other, hother, hstripped⟩ := hcloses hlt
    rw [htree] at hother
    cases hother
    exact ⟨hlt, (Fence.flatMap_stripped_iff quoted.lines).1 (hstripped.text_eq hholds)⟩
  · rintro ⟨hlt, hfits⟩
    have hkeeps := hcloses hlt
    rwa [(Fence.flatMap_stripped_iff quoted.lines).2 hfits] at hkeeps

/-- A quote whose lines have three different prefixes, on the second line of a body. -/
theorem fenceSource_of_unevenQuote :
    ∃ (quoted : Fence.QuotedBlock) (quoteSpan codeSpan : Markdown.Span),
      quoted.written = "> \x60\x60\x60\n >>a\n>b\n> \n > \x60\x60\x60".toList ∧
      Text.WholeLines ['a', '\n'] ∧
      Lower.Spanned quoted (Text.byteSize ['a', '\n']) quoteSpan codeSpan ∧
      Lower.KeepsFence ">a\nb\n\n".toList
        (lower (.branch .root none [Lower.quoteMarkup quoteSpan codeSpan ">a\nb\n" none none])
          (String.ofList (['a', '\n'] ++ quoted.written ++ ['\n']))) := by
  obtain ⟨quoted, hopen, hblanks, hlines, hclose, hwritten⟩ :=
    Fence.exists_quotedBlock ⟨0, true, by decide⟩ ⟨1, true, by decide⟩
      [⟨⟨1, false, by decide⟩, ⟨['>', 'a'], by decide⟩, fun h => by cases h⟩,
        ⟨⟨0, false, by decide⟩, ⟨['b'], by decide⟩, fun h => by cases h⟩,
        ⟨⟨0, true, by decide⟩, ⟨[], by decide⟩, fun h => by cases h⟩]
  have hbefore := Text.wholeLines_concat ['a']
  have hwidth : quoted.width = 2 := by rw [Fence.QuotedBlock.width, hopen, hblanks]; rfl
  have hspans : Lower.Spanned quoted (Text.byteSize ['a', '\n'])
      ⟨⟨2, 1, 2⟩, ⟨6, 7, 25⟩⟩ ⟨⟨2, 3, 4⟩, ⟨6, 7, 25⟩⟩ :=
    ⟨⟨0, Nat.zero_le _, rfl⟩, ⟨0, Nat.zero_le _, by rw [hopen]; decide⟩, by rw [hwritten]; decide⟩
  have hfits : ∀ line ∈ quoted.lines, line.Fits 2 := by
    have hshort : ∀ c ∈ ['b'].head?, c ≠ ' ' ∧ c ≠ '\t' ∧ c ≠ '>' := by
      rintro c ⟨⟩
      decide
    rw [hlines]
    exact List.forall_mem_cons.2 ⟨Or.inl rfl, List.forall_mem_cons.2
      ⟨Or.inr ⟨by decide, hshort⟩, List.forall_mem_singleton.2 (Or.inl rfl)⟩⟩
  have hiff := (fenceSource_quoted_iff quoted hbefore ['\n'] hspans none ">a\nb\n" none none).1
  rw [hwidth, hclose, quoted.text_block, hlines] at hiff
  exact ⟨quoted, _, _, hwritten, hbefore, hspans, hiff.2 ⟨by decide, hlines ▸ hfits⟩⟩

/-- Not every block in a quote is lowered with the interior that its author wrote: a quote marker at
the start of its content is lost when the prefix of its line is shorter than that of the first
one. -/
theorem not_fenceSource_quoted :
    ¬ ∀ (quoted : Fence.QuotedBlock) (before after : List Char)
        (quoteSpan codeSpan : Markdown.Span),
      Text.WholeLines before → Lower.Spanned quoted (Text.byteSize before) quoteSpan codeSpan →
      ∀ (span : Option Markdown.Span) (value : String) (language note : Option String),
        Lower.KeepsFence quoted.block.text
          (lower (.branch .root span [Lower.quoteMarkup quoteSpan codeSpan value language note])
            (String.ofList (before ++ quoted.written ++ after))) := by
  intro h
  obtain ⟨quoted, hopen, hblanks, hlines, hclose, hwritten⟩ :=
    Fence.exists_quotedBlock ⟨0, true, by decide⟩ ⟨0, true, by decide⟩
      [⟨⟨0, false, by decide⟩, ⟨['>', 'x'], by decide⟩, fun h => by cases h⟩]
  have hspans : Lower.Spanned quoted (Text.byteSize [])
      ⟨⟨1, 1, 0⟩, ⟨3, 6, 15⟩⟩ ⟨⟨1, 3, 2⟩, ⟨3, 6, 15⟩⟩ :=
    ⟨⟨0, Nat.zero_le _, rfl⟩, ⟨0, Nat.zero_le _, by rw [hopen]; decide⟩, by rw [hwritten]; decide⟩
  -- The width of the first line is 2, and the prefix of the second one is shorter.
  have hlost :=
    (fenceSource_quoted_iff quoted Text.wholeLines_nil ['\n'] hspans none ">x" none none).1.1
    (h quoted [] ['\n'] _ _ Text.wholeLines_nil hspans none ">x" none none)
  rw [Fence.QuotedBlock.width, hopen, hblanks, hlines, List.forall_mem_singleton] at hlost
  obtain ⟨-, hlength | ⟨-, hhead⟩⟩ := hlost
  · revert hlength
    decide
  · exact (hhead '>' rfl).2.2 rfl

end Folio
