import Folio.Proofs.Dict
import Folio.Proofs.Html.Writing

/-!
# The start tags of components

The start tag of a component is to say which component it is, and to show each prop.  All this goes
into one dictionary of attributes, so of two things with the same attribute name only one is shown.
Nothing is lost exactly if no literal prop is named like the attribute for the component's name or
like the attribute for an expression.
-/

namespace Folio

open Html

/-! ## Attributes that are due -/

/-- The name of the attribute that shows a prop: a literal has its own name, an expression a marked
one. -/
def shownName (name : String) : PropValue → String
  | .literal _ => name
  | .expression _ => "data-expr-" ++ name

/-- What the start tag of a component is to say: the component's name and the value of each prop. -/
def dueAttributes (component : ComponentHead) : List (String × String) :=
  ("data-component", component.name) ::
    component.props.entries.map fun entry => (shownName entry.1 entry.2, entry.2.value)

/-- The attributes are all that are due, each under a name of its own. -/
def ShowsAll (component : ComponentHead) (attributes : List (String × String)) : Prop :=
  attributes.Perm (dueAttributes component) ∧ (attributes.map Prod.fst).Nodup

/-- No literal prop is named like another attribute of the component. -/
structure PropsApart (component : ComponentHead) : Prop where
  name : ∀ value, component.props.get? "data-component" ≠ some (.literal value)
  expression : ∀ name source, component.props.get? name = some (.expression source) →
    ∀ value, component.props.get? ("data-expr-" ++ name) ≠ some (.literal value)

section

variable (component : ComponentHead)

/-- The attributes are collected in a dictionary. -/
theorem componentAttributes_eq_ofList :
    componentAttributes component = Dict.ofList (dueAttributes component) := by
  have hdue : (fun entry : String × PropValue => (shownName entry.1 entry.2, entry.2.value)) =
      fun entry => propAttribute entry.1 entry.2 := by
    funext entry
    cases entry.2 <;> rfl
  rw [dueAttributes, hdue, Dict.ofList, List.foldl_cons, List.foldl_map]
  rfl

/-- The mark of expressions keeps them apart from the component's name. -/
theorem marked_ne_data_component (name : String) : "data-expr-" ++ name ≠ "data-component" := by
  intro h
  have hlist := congrArg (fun s => s.toList.take 6) h
  simp at hlist

theorem not_mem_shownNames_iff :
    "data-component" ∉ component.props.entries.map (fun entry => shownName entry.1 entry.2) ↔
      ∀ value, component.props.get? "data-component" ≠ some (.literal value) := by
  rw [List.mem_map]
  constructor
  · intro hnot value hvalue
    exact hnot ⟨_, (Dict.mem_entries_iff _).2 hvalue, rfl⟩
  · rintro hnone ⟨⟨name, prop⟩, hmem, hname⟩
    cases prop with
    | literal value =>
        have hname : name = "data-component" := hname
        subst hname
        exact hnone value ((Dict.mem_entries_iff _).1 hmem)
    | expression source => exact marked_ne_data_component name hname

/-- Two props have one attribute exactly if a literal is named like the attribute of an
expression. -/
theorem nodup_shownNames_iff :
    (component.props.entries.map fun entry => shownName entry.1 entry.2).Nodup ↔
      ∀ name source, component.props.get? name = some (.expression source) →
        ∀ value, component.props.get? ("data-expr-" ++ name) ≠ some (.literal value) := by
  rw [List.nodup_map_iff_inj_on component.props.nodup_entries]
  constructor
  · intro hinj name source hsource value hvalue
    have heq := hinj _ ((Dict.mem_entries_iff _).2 hsource) _ ((Dict.mem_entries_iff _).2 hvalue)
      rfl
    cases congrArg Prod.snd heq
  · rintro hapart ⟨name, prop⟩ hmem ⟨other, prop'⟩ hmem' heq
    rw [Dict.mem_entries_iff] at hmem hmem'
    have hsame : name = other → (name, prop) = (other, prop') := by
      rintro rfl
      rw [hmem] at hmem'
      rw [Option.some.inj hmem']
    cases prop with
    | literal value =>
        cases prop' with
        | literal value' => exact hsame heq
        | expression source =>
            have heq : name = "data-expr-" ++ other := heq
            exact (hapart other source hmem' value (heq ▸ hmem)).elim
    | expression source =>
        cases prop' with
        | literal value =>
            have heq : "data-expr-" ++ name = other := heq
            exact (hapart name source hmem value (heq ▸ hmem')).elim
        | expression source' => exact hsame (String.append_right_inj _ |>.1 heq)

/-- A component's tag shows all that is due exactly if the props are apart. -/
theorem showsAll_iff :
    ShowsAll component (componentAttributes component).entries ↔ PropsApart component := by
  have hnodup := (componentAttributes component).nodup_names
  have hnames : (dueAttributes component).map Prod.fst =
      "data-component" :: component.props.entries.map fun entry => shownName entry.1 entry.2 := by
    rw [dueAttributes, List.map_cons, List.map_map]
    rfl
  rw [ShowsAll, and_iff_left hnodup, componentAttributes_eq_ofList, Dict.perm_entries_ofList_iff,
    hnames, List.nodup_cons, not_mem_shownNames_iff, nodup_shownNames_iff]
  exact ⟨fun ⟨hname, hexpression⟩ => ⟨hname, hexpression⟩, fun h => ⟨h.name, h.expression⟩⟩

end

/-! ## Tags on the page -/

/-- The start tag of a component that the registry knows. -/
def componentTag? (registry : Registry) (component : ComponentHead) : Option Event :=
  (registry.resolve? component.name).map fun binding =>
    .startTag binding.element (componentAttributes component).entries

/-- Each component that is rendered has its start tag among the events, in document order. -/
theorem sublist_events {registry : Registry} {t : Tree}
    (h : unresolvedIn? registry (shown t) = none) :
    ((components (shown t)).map (componentTag? registry)).Sublist
      ((events registry t).map some) := by
  induction t using tree_induction with
  | nil => exact .slnil
  | text value rest ih => exact (ih h).cons _
  | component tag children rest ihc ihr =>
      rw [shown, Node.shown, unresolvedIn?_component] at h
      cases hbinding : registry.resolve? tag.name with
      | none =>
          rw [hbinding] at h
          cases h
      | some binding =>
          rw [hbinding, Option.isNone_some, if_neg Bool.false_ne_true, Option.or_eq_none_iff] at h
          have htag : componentTag? registry tag =
              some (.startTag binding.element (componentAttributes tag).entries) := by
            rw [componentTag?, hbinding, Option.map_some]
          rw [events_component hbinding, shown, Node.shown, components_component, List.map_cons,
            htag, List.map_append]
          simp only [List.append_assoc, List.singleton_append, List.map_cons, List.map_append]
          exact ((ihc h.1).append (((ihr h.2).cons _).cons _)).cons_cons _
  | element head children rest ihc ihr =>
      by_cases hvoid : head.tag ∈ voidTags
      · rw [shown_void hvoid, unresolvedIn?_element, unresolvedIn?_nil, Option.none_or] at h
        rw [shown_void hvoid, components_element, components_nil, List.nil_append,
          events_void hvoid, List.map_append]
        exact (ihr h).trans (List.sublist_append_right _ _)
      · rw [shown_element hvoid, unresolvedIn?_element, Option.or_eq_none_iff] at h
        rw [shown_element hvoid, components_element, events_element hvoid, List.map_append]
        simp only [List.append_assoc, List.singleton_append, List.map_cons, List.map_append]
        have hback := (ihr h.2).trans
          (List.sublist_append_right ((breakEvents head.tag).map some) _)
        exact ((ihc h.1).append (hback.cons _)).cons _

/-- A tree whose rendered components are known is rendered, and each of these has its start tag on
the page.  The tag names the component and shows every prop, under names of their own, exactly if no
literal prop is named like another attribute; in any case an attribute has the last value that is
due under its name. -/
theorem toHtml_showsAll_iff {registry : Registry} {tree : Tree}
    (h : unresolvedIn? registry (shown tree) = none) :
    ∃ html, toHtml registry tree = .ok html ∧ html = write (events registry tree) ∧
      ((components (shown tree)).map (componentTag? registry)).Sublist
        ((events registry tree).map some) ∧
      ∀ component ∈ components (shown tree),
        (ShowsAll component (componentAttributes component).entries ↔ PropsApart component) ∧
        ∀ name, (componentAttributes component).get? name =
          (dueAttributes component).reverse.lookup name := by
  obtain ⟨html, hhtml⟩ := exists_toHtml_iff.2 h
  refine ⟨html, hhtml, eq_write_of_toHtml hhtml, sublist_events h, fun component _ => ?_⟩
  refine ⟨showsAll_iff component, fun name => ?_⟩
  rw [componentAttributes_eq_ofList, Dict.get?_ofList]

/-- A callout with a literal prop and an expression. -/
def openCallout : ComponentHead where
  name := "Callout"
  props := Dict.ofList [("title", .literal "A & B"), ("open", .expression "true")]

/-- A callout that says of itself that it is tabs. -/
def disguisedCallout : ComponentHead where
  name := "Callout"
  props := Dict.ofList [("data-component", .literal "Tabs")]

/-- Steps with a literal prop that is named like the attribute of an expression. -/
def doubledSteps : ComponentHead where
  name := "Steps"
  props := Dict.ofList [("data-expr-count", .literal "3"), ("count", .expression "n + 1")]

theorem toHtml_showsAll_of_nestedCallouts :
    unresolvedIn? Registry.docs
      (shown [.component openCallout [.component disguisedCallout []]]) = none ∧
    ∃ html, toHtml Registry.docs [.component openCallout [.component disguisedCallout []]] =
        .ok html ∧
      html = "<x-callout data-component=\"Callout\" data-expr-open=\"true\" title=\"A &amp; B\">" ++
        "<x-callout data-component=\"Tabs\"></x-callout>\n</x-callout>\n" ∧
      PropsApart openCallout ∧ ¬PropsApart disguisedCallout ∧
      (componentAttributes disguisedCallout).get? "data-component" = some "Tabs" := by
  have hknown : unresolvedIn? Registry.docs
      (shown [.component openCallout [.component disguisedCallout []]]) = none := by decide +kernel
  obtain ⟨html, hhtml, hwritten, -, hall⟩ := toHtml_showsAll_iff hknown
  have hopen := hall openCallout (by simp [shown, Node.shown])
  have hdisguised := hall disguisedCallout (by simp [shown, Node.shown])
  have hname : (dueAttributes disguisedCallout).reverse.lookup "data-component" = some "Tabs" := by
    decide +kernel
  refine ⟨hknown, html, hhtml, ?_, hopen.1.1 ?_, fun happart => ?_, ?_⟩
  · rw [hwritten]
    decide +kernel
  · unfold ShowsAll
    decide +kernel
  · have hshows := hdisguised.1.2 happart
    unfold ShowsAll at hshows
    revert hshows
    decide +kernel
  · rw [hdisguised.2, hname]

/-- Of the rendered components the first is not named, and the expression of the second not
shown. -/
theorem not_showsAll_disguised :
    toHtml Registry.docs [.component disguisedCallout [.component doubledSteps []]] =
      .ok ("<x-callout data-component=\"Tabs\"><x-steps data-component=\"Steps\" " ++
        "data-expr-count=\"3\"></x-steps>\n</x-callout>\n") ∧
    components (shown [.component disguisedCallout [.component doubledSteps []]]) =
      [disguisedCallout, doubledSteps] ∧
    ¬ShowsAll disguisedCallout (componentAttributes disguisedCallout).entries ∧
    ¬ShowsAll doubledSteps (componentAttributes doubledSteps).entries := by
  unfold ShowsAll
  exact ⟨by decide +kernel, rfl, by decide +kernel, by decide +kernel⟩

end Folio
