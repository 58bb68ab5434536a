import Folio.Proofs.Html.Reader
import Folio.Proofs.Html.Rendering

/-!
# Reading rendered trees

Read back, the HTML of a tree gives the tags of the tree with all their attributes, and between them
the texts of the tree and the line feeds that rendering adds.  Only the names are taken as they are;
whatever texts and values hold, they come back as they were.
-/

namespace Folio

open Html

/-! ## What a tree says -/

/-- The line feed after a block element. -/
def breakEvents (tag : String) : List Event :=
  if tag ∈ blockTags then [.text "\n"] else []

mutual

/-- What a node is in HTML.  A component is the element that it is bound to, with its props as
attributes. -/
def Node.events (registry : Registry) : Node → List Event
  | .text value => [.text value]
  | .element head children =>
    .startTag head.tag head.attributes.entries ::
      ((if head.tag ∈ voidTags then [] else events registry children ++ [.endTag head.tag]) ++
        breakEvents head.tag)
  | .component head children =>
    match registry.resolve? head.name with
    | none => []
    | some binding =>
      .startTag binding.element (componentAttributes head).entries ::
        (events registry children ++ [.endTag binding.element, .text "\n"])

/-- What a tree is in HTML. -/
def events (registry : Registry) : List Node → List Event
  | [] => []
  | node :: nodes => node.events registry ++ events registry nodes

end

/-- A text, unless it is empty. -/
def wholeText (value : String) : List Event :=
  if value = "" then [] else [.text value]

/-- Events with neighbouring texts made one and no empty texts.  `before` is the text that came last
and still goes on. -/
def mergeTexts (before : String) : List Event → List Event
  | [] => wholeText before
  | .text value :: rest => mergeTexts (before ++ value) rest
  | event :: rest => wholeText before ++ event :: mergeTexts "" rest

/-- All entries are for names that HTML can have. -/
def Dict.HasNames {α : Type} (d : Dict α) : Prop :=
  ∀ entry ∈ d.entries, IsName entry.1

/-- A node has names that HTML can have, and is bound if it is a component. -/
def Node.WellNamed (registry : Registry) : Node → Prop
  | .text _ => True
  | .element head _ => IsName head.tag ∧ head.attributes.HasNames
  | .component head _ =>
    (∃ binding ∈ registry.resolve? head.name, IsName binding.element) ∧ head.props.HasNames

/-- All nodes of a tree have names that HTML can have, and its components are bound. -/
def WellNamed (registry : Registry) (tree : Tree) : Prop :=
  ∀ node ∈ nodes tree, node.WellNamed registry

instance {α : Type} (d : Dict α) : Decidable d.HasNames :=
  inferInstanceAs (Decidable (∀ entry ∈ d.entries, _))

instance (registry : Registry) : (node : Node) → Decidable (node.WellNamed registry)
  | .text _ => isTrue trivial
  | .element _ _ => inferInstanceAs (Decidable (_ ∧ _))
  | .component _ _ => inferInstanceAs (Decidable ((∃ _ ∈ _, _) ∧ _))

instance (registry : Registry) (tree : Tree) : Decidable (WellNamed registry tree) :=
  inferInstanceAs (Decidable (∀ node ∈ nodes tree, _))

section

variable {registry : Registry} {head : ElementHead} {tag : ComponentHead} {value : String}
  {children rest : List Node}

theorem events_text :
    events registry (.text value :: rest) = [.text value] ++ events registry rest := rfl

theorem events_void (hvoid : head.tag ∈ voidTags) :
    events registry (.element head children :: rest) =
      [.startTag head.tag head.attributes.entries] ++ breakEvents head.tag ++
        events registry rest := by
  rw [events, Node.events, if_pos hvoid]
  rfl

theorem events_element (hvoid : head.tag ∉ voidTags) :
    events registry (.element head children :: rest) =
      [.startTag head.tag head.attributes.entries] ++ events registry children ++
        [.endTag head.tag] ++ breakEvents head.tag ++ events registry rest := by
  rw [events, Node.events, if_neg hvoid]
  simp only [List.cons_append, List.nil_append, List.append_assoc]

theorem events_component {binding : Binding}
    (hbinding : registry.resolve? tag.name = some binding) :
    events registry (.component tag children :: rest) =
      [.startTag binding.element (componentAttributes tag).entries] ++ events registry children ++
        [.endTag binding.element] ++ [.text "\n"] ++ events registry rest := by
  rw [events, Node.events, hbinding]
  simp only [List.cons_append, List.nil_append, List.append_assoc]

theorem wellNamed_cons {node : Node} : WellNamed registry (node :: rest) ↔
    (∀ n ∈ node.nodes, n.WellNamed registry) ∧ WellNamed registry rest := by
  unfold WellNamed
  rw [nodes, List.forall_mem_append]

theorem wellNamed_element : WellNamed registry (.element head children :: rest) ↔
    (Node.element head children).WellNamed registry ∧ WellNamed registry children ∧
      WellNamed registry rest := by
  rw [wellNamed_cons, Node.nodes, List.forall_mem_cons, and_assoc]
  rfl

theorem wellNamed_component : WellNamed registry (.component tag children :: rest) ↔
    (Node.component tag children).WellNamed registry ∧ WellNamed registry children ∧
      WellNamed registry rest := by
  rw [wellNamed_cons, Node.nodes, List.forall_mem_cons, and_assoc]
  rfl

end

theorem hasNames_insert {α : Type} {d : Dict α} (hd : d.HasNames) {name : String}
    (hname : IsName name) (value : α) : (d.insert name value).HasNames := by
  intro entry hentry
  rcases Dict.mem_insertEntry hentry with heq | ⟨old, hold, heq⟩
  · rw [heq]
    exact hname
  · rw [← heq]
    exact hd old hold

theorem isName_propAttribute {name : String} (hname : IsName name) (value : PropValue) :
    IsName (propAttribute name value).1 := by
  cases value with
  | literal value => exact hname
  | expression value =>
      obtain ⟨hne, hall⟩ := hname
      have hfront : IsName "data-expr-" := by decide
      refine ⟨?_, ?_⟩
      · intro hnil
        exact hne (String.append_eq_empty_iff.1 hnil).2
      · rw [propAttribute, String.toList_append, List.forall_mem_append]
        exact ⟨hfront.2, hall⟩

/-- The attributes that props become have names if the props do. -/
theorem hasNames_componentAttributes {tag : ComponentHead} (hprops : tag.props.HasNames) :
    (componentAttributes tag).HasNames := by
  have hempty : (∅ : Dict String).HasNames := fun _ hentry => (List.not_mem_nil hentry).elim
  have hstart : ((∅ : Dict String).insert "data-component" tag.name).HasNames :=
    hasNames_insert hempty (by decide) tag.name
  refine List.foldlRecOn (motive := Dict.HasNames) tag.props.entries _ hstart ?_
  intro attributes hattributes prop hprop
  exact hasNames_insert hattributes (isName_propAttribute (hprops prop hprop) prop.2) _

/-! ## Merged texts -/

theorem mergeTexts_tag {event : Event} (htag : event.isTag) (before : String)
    (rest : List Event) :
    mergeTexts before (event :: rest) = wholeText before ++ event :: mergeTexts "" rest := by
  cases event with
  | text value => cases htag
  | startTag tag attributes => rfl
  | endTag tag => rfl

/-- Merging texts keeps the tags. -/
theorem filter_isTag_mergeTexts (before : String) (es : List Event) :
    (mergeTexts before es).filter Event.isTag = es.filter Event.isTag := by
  have hwhole : ∀ value, (wholeText value).filter Event.isTag = [] := by
    intro value
    unfold wholeText
    split
    · rfl
    · rfl
  induction es generalizing before with
  | nil => exact hwhole before
  | cons event es ih =>
      by_cases htag : event.isTag
      · rw [mergeTexts_tag htag, List.filter_append, hwhole, List.nil_append,
          List.filter_cons_of_pos htag, List.filter_cons_of_pos htag, ih]
      · cases event with
        | text value => exact ih (before ++ value)
        | startTag tag attributes => exact (htag rfl).elim
        | endTag tag => exact (htag rfl).elim

/-! ## Written events -/

/-- Read between two tags, a piece of HTML says some events.  Before it the reader has met some
events and stands in a text; behind it again; and for all that may come later, the events of the
piece are what made the difference. -/
def Spells (html : String) (es : List Event) : Prop :=
  ∀ met before, ∃ met' before',
    Reader.run ⟨met, .text (escapeText before).toList⟩ html.toList =
      some ⟨met', .text (escapeText before').toList⟩ ∧
    ∀ rest, met ++ mergeTexts before (es ++ rest) = met' ++ mergeTexts before' rest

theorem textEvents_escapeText (value : String) :
    textEvents (escapeText value).toList = wholeText value := by
  unfold textEvents wholeText
  rw [decode_escapeText, String.ofList_toList]
  by_cases hvalue : value = ""
  · subst hvalue
    rfl
  · have hne : (escapeText value).toList ≠ [] := by
      intro hnil
      have hdecode := decode_escapeText value
      rw [hnil] at hdecode
      exact hvalue (String.toList_eq_nil_iff.1 hdecode.symm)
    rw [if_neg hne, if_neg hvalue]

theorem escapeText_append (s t : String) : escapeText (s ++ t) = escapeText s ++ escapeText t := by
  rw [escapeText, String.toList_append, List.flatMap_append, String.ofList_append]
  rfl

theorem spells_nil : Spells "" [] :=
  fun met before => ⟨met, before, rfl, fun _ => rfl⟩

theorem Spells.append {html html' : String} {es es' : List Event} (h : Spells html es)
    (h' : Spells html' es') : Spells (html ++ html') (es ++ es') := by
  intro met before
  obtain ⟨met₁, before₁, hrun, hsame⟩ := h met before
  obtain ⟨met₂, before₂, hrun', hsame'⟩ := h' met₁ before₁
  refine ⟨met₂, before₂, ?_, fun rest => ?_⟩
  · rw [String.toList_append, Reader.run_append hrun, hrun']
  · rw [List.append_assoc, hsame, hsame']

theorem spells_text (value : String) : Spells (escapeText value) [.text value] := by
  intro met before
  -- The reader stays in the text that it is in: this is where neighbouring texts become one.
  refine ⟨met, before ++ value, ?_, fun _ => rfl⟩
  rw [Reader.run_text (not_mem_escapeText value), escapeText_append, String.toList_append]

/-- A tag ends the text before it. -/
theorem spells_of_tag {html : String} {event : Event} (htag : event.isTag)
    (hrun : ∀ met read, Reader.run ⟨met, .text read⟩ html.toList =
      some ⟨met ++ textEvents read ++ [event], .text []⟩) : Spells html [event] := by
  intro met before
  refine ⟨met ++ wholeText before ++ [event], "", ?_, fun rest => ?_⟩
  · rw [hrun, textEvents_escapeText]
    rfl
  · rw [List.singleton_append, mergeTexts_tag htag, List.append_assoc, List.append_assoc,
      List.singleton_append]

theorem spells_startTag {tag : String} (htag : IsName tag) {attributes : Dict String}
    (hnames : attributes.HasNames) :
    Spells (startTag tag attributes) [.startTag tag attributes.entries] :=
  spells_of_tag rfl fun _ read => Reader.run_startTag htag hnames read

theorem spells_endTag {tag : String} (htag : IsName tag) :
    Spells (endTag tag) [.endTag tag] :=
  spells_of_tag rfl fun _ read => Reader.run_endTag htag read

theorem spells_blockBreak (tag : String) : Spells (blockBreak tag) (breakEvents tag) := by
  unfold blockBreak breakEvents
  by_cases hblock : tag ∈ blockTags
  · rw [if_pos hblock, if_pos (List.contains_iff_mem.2 hblock)]
    exact spells_text "\n"
  · rw [if_neg hblock, if_neg (mt List.contains_iff_mem.1 hblock)]
    exact spells_nil

/-- HTML that says events from its start to its end is read as these. -/
theorem tokenize_of_spells {html : String} {es : List Event} (h : Spells html es) :
    tokenize html = some (mergeTexts "" es) := by
  obtain ⟨met, before, hrun, hsame⟩ := h [] ""
  have hall := hsame []
  rw [List.append_nil, List.nil_append] at hall
  have hstart : Reader.run {} html.toList = some ⟨met, .text (escapeText before).toList⟩ := hrun
  rw [tokenize, hstart, hall, mergeTexts, ← textEvents_escapeText]
  rfl

/-! ## Rendered trees -/

/-- A tree with proper names and known components is rendered, and its HTML says what it is. -/
theorem exists_spells {registry : Registry} {tree : Tree} (h : WellNamed registry tree) :
    ∃ html, toHtml registry tree = .ok html ∧ Spells html (events registry tree) := by
  -- Each piece says its events whatever came before it, so pieces are put together as written.
  induction tree using tree_induction with
  | nil => exact ⟨"", rfl, spells_nil⟩
  | text value rest ih =>
      obtain ⟨after, hafter, hrest⟩ := ih (wellNamed_cons.1 h).2
      refine ⟨_, toHtml_text_eq_ok_iff.2 ⟨after, hafter, rfl⟩, ?_⟩
      rw [events_text]
      exact (spells_text value).append hrest
  | component tag children rest ihc ihr =>
      obtain ⟨⟨⟨binding, hbinding, helement⟩, hprops⟩, hc, hr⟩ := wellNamed_component.1 h
      obtain ⟨inner, hinner, hchildren⟩ := ihc hc
      obtain ⟨after, hafter, hrest⟩ := ihr hr
      refine ⟨_, (toHtml_component_eq_ok_iff hbinding).2 ⟨inner, after, hinner, hafter, rfl⟩, ?_⟩
      rw [events_component hbinding]
      have hstart := spells_startTag helement (hasNames_componentAttributes hprops)
      exact (((hstart.append hchildren).append (spells_endTag helement)).append
        (spells_text "\n")).append hrest
  | element head children rest ihc ihr =>
      obtain ⟨⟨htag, hattributes⟩, hc, hr⟩ := wellNamed_element.1 h
      obtain ⟨after, hafter, hrest⟩ := ihr hr
      have hstart := spells_startTag htag hattributes
      by_cases hvoid : head.tag ∈ voidTags
      · refine ⟨_, (toHtml_void_eq_ok_iff hvoid).2 ⟨after, hafter, rfl⟩, ?_⟩
        rw [events_void hvoid]
        exact (hstart.append (spells_blockBreak head.tag)).append hrest
      · obtain ⟨inner, hinner, hchildren⟩ := ihc hc
        refine ⟨_, (toHtml_element_eq_ok_iff hvoid).2 ⟨inner, after, hinner, hafter, rfl⟩, ?_⟩
        rw [events_element hvoid]
        exact (((hstart.append hchildren).append (spells_endTag htag)).append
          (spells_blockBreak head.tag)).append hrest

/-- A tree whose names are names and whose components are known is rendered, and its HTML is read
back as the tree's tags and texts; so no text and no value opens, ends or changes a tag. -/
theorem tokenize_toHtml {registry : Registry} {tree : Tree} (h : WellNamed registry tree) :
    ∃ html tokens, toHtml registry tree = .ok html ∧ tokenize html = some tokens ∧
      tokens = mergeTexts "" (events registry tree) ∧
      tokens.filter Event.isTag = (events registry tree).filter Event.isTag := by
  obtain ⟨html, hhtml, hspells⟩ := exists_spells h
  exact ⟨html, _, hhtml, tokenize_of_spells hspells, rfl, filter_isTag_mergeTexts _ _⟩

/-- A callout and a form whose texts and values look like tags and character references. -/
def disguisedTags : Tree :=
  [.component
      { name := "Callout"
        props := Dict.ofList [("title", .literal "\"><b>"), ("open", .expression "a && b")] }
      [.element { tag := "p" } [.text "</p>", .text "&lt;", .element { tag := "br" } [.text "c"]]],
    .element { tag := "input", attributes := Dict.ofList [("type", "'"), ("disabled", "")] } [],
    .element { tag := "hr" } [], .text "\""]

theorem tokenize_toHtml_of_disguisedTags :
    WellNamed Registry.docs disguisedTags ∧
    ∃ html tokens, toHtml Registry.docs disguisedTags = .ok html ∧ tokenize html = some tokens ∧
      tokens =
        [.startTag "x-callout"
            [("data-component", "Callout"), ("data-expr-open", "a && b"), ("title", "\"><b>")],
          .startTag "p" [], .text "</p>&lt;", .startTag "br" [], .endTag "p", .text "\n",
          .endTag "x-callout", .text "\n", .startTag "input" [("disabled", ""), ("type", "'")],
          .startTag "hr" [], .text "\n\""] ∧
      tokens.filter Event.isTag = (events Registry.docs disguisedTags).filter Event.isTag := by
  have hnames : WellNamed Registry.docs disguisedTags := by decide +kernel
  obtain ⟨html, tokens, hhtml, hread, htokens, htags⟩ := tokenize_toHtml hnames
  refine ⟨hnames, html, tokens, hhtml, hread, ?_, htags⟩
  rw [htokens]
  decide +kernel

end Folio
