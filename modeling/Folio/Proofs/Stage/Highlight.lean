import Folio.Proofs.Stage.Step
import Folio.Proofs.Text.Line

/-!
# What highlighting changes

Highlighting shows the code of each block in rows and notes the language and the colour on the
block; the code inside replaced code is gone.  It fails only where a grammar fails, and the grammar
is the one of plain text where the set of grammars has none for the language.
-/

namespace Folio

open Folio.Text

/-! ## Replacing code -/

section

variable {ε : Type} {f : ElementHead → Element → Except ε (Option NewCode)}
  {head : ElementHead} {tag : ComponentHead} {node : Node} {children rest u body : List Node}

theorem replaceCode_cons_eq_ok_iff : replaceCode f (node :: rest) = .ok u ↔
    ∃ node' rest', node.replaceCode f = .ok node' ∧ replaceCode f rest = .ok rest' ∧
      u = node' :: rest' :=
  bind_bind_pure_eq_ok_iff

/-- A component is walked through. -/
theorem replaceCode_component_eq_ok_iff {node' : Node} :
    (Node.component tag children).replaceCode f = .ok node' ↔
      ∃ children', replaceCode f children = .ok children' ∧ node' = .component tag children' :=
  bind_pure_eq_ok_iff

/-- An element is walked through, unless it has a `code` that is replaced. -/
theorem replaceCode_element_eq_ok_iff {node' : Node} :
    (Node.element head children).replaceCode f = .ok node' ↔
      ((∀ code, codeChild? children = some code → f head code = .ok none) ∧
        ∃ children', replaceCode f children = .ok children' ∧ node' = .element head children') ∨
      ∃ code new children', codeChild? children = some code ∧ f head code = .ok (some new) ∧
        replaceFirst f new.body children = .ok children' ∧ node' = .element new.head children' := by
  rw [Node.replaceCode]
  cases hcode : codeChild? children with
  | none =>
      constructor
      · intro h
        exact Or.inl ⟨fun _ h => (Option.some_ne_none _ h.symm).elim, bind_pure_eq_ok_iff.1 h⟩
      · rintro (⟨-, h⟩ | ⟨_, _, _, h, -⟩)
        · exact bind_pure_eq_ok_iff.2 h
        · cases h
  | some code =>
      constructor
      · intro h
        obtain ⟨_ | new, hf, h⟩ := bind_eq_ok_iff.1 h
        · exact Or.inl ⟨fun _ h => Option.some.inj h ▸ hf, bind_pure_eq_ok_iff.1 h⟩
        · obtain ⟨children', hchildren, h⟩ := bind_pure_eq_ok_iff.1 h
          exact Or.inr ⟨code, new, children', rfl, hf, hchildren, h⟩
      · rintro (⟨hf, h⟩ | ⟨_, new, children', h, hf, hchildren, rfl⟩)
        · exact bind_eq_ok_iff.2 ⟨none, hf code rfl, bind_pure_eq_ok_iff.2 h⟩
        · cases h
          exact bind_eq_ok_iff.2 ⟨some new, hf, bind_pure_eq_ok_iff.2 ⟨children', hchildren, rfl⟩⟩

/-- Of the children of a block the first `code` gets a new body. -/
theorem replaceFirst_code_eq_ok_iff (hcode : head.tag = "code") :
    replaceFirst f body (.element head children :: rest) = .ok u ↔
      ∃ rest', replaceCode f rest = .ok rest' ∧ u = .element head body :: rest' := by
  rw [replaceFirst, if_pos hcode]
  exact bind_pure_eq_ok_iff

/-- The children before the first `code` are walked through. -/
theorem replaceFirst_cons_eq_ok_iff (hcode : codeChild? [node] = none) :
    replaceFirst f body (node :: rest) = .ok u ↔
      ∃ node' rest', node.replaceCode f = .ok node' ∧ replaceFirst f body rest = .ok rest' ∧
        u = node' :: rest' := by
  cases node with
  | element head children =>
      have hne : head.tag ≠ "code" := by
        intro h
        rw [codeChild?_element, if_pos h] at hcode
        cases hcode
      rw [replaceFirst, if_neg hne]
      exact bind_bind_pure_eq_ok_iff
  | component tag children => exact bind_bind_pure_eq_ok_iff
  | text value =>
      constructor
      · intro h
        obtain ⟨rest', hrest, rfl⟩ := bind_pure_eq_ok_iff.1 h
        exact ⟨.text value, rest', rfl, hrest, rfl⟩
      · rintro ⟨node', rest', hnode, hrest, rfl⟩
        cases hnode
        exact bind_pure_eq_ok_iff.2 ⟨rest', hrest, rfl⟩

/-! ## Replaced code as a revision -/

/-- The children of a block after its code was replaced: the first `code` is shown in rows, and what
is before and after it is revised. -/
def Recoded (R : Element → ElementHead → Prop) (rows children children' : List Node) : Prop :=
  ∃ before before' code body after after', children = before ++ .element code body :: after ∧
    children' = before' ++ .element code rows :: after' ∧ codeChild? before = none ∧
    code.tag = "code" ∧ Revises R before before' ∧ Revises R after after'

/-- A node with its new form, in front of every revision. -/
def NodeRevises (R : Element → ElementHead → Prop) (node node' : Node) : Prop :=
  ∀ rest rest', Revises R rest rest' → Revises R (node :: rest) (node' :: rest')

theorem Recoded.cons {R : Element → ElementHead → Prop} {rows : List Node} {node' : Node}
    (hnode : NodeRevises R node node') (hcode : codeChild? [node] = none)
    (h : Recoded R rows children u) : Recoded R rows (node :: children) (node' :: u) := by
  obtain ⟨before, before', code, body, after, after', rfl, rfl, hb, hc, hbefore, hafter⟩ := h
  refine ⟨node :: before, node' :: before', code, body, after, after', rfl, rfl, ?_, hc,
    hnode before before' hbefore, hafter⟩
  rw [← List.singleton_append, codeChild?_append, hcode, hb]
  rfl

/-- Wherever code is replaced in a tree, the tree is revised; and where its first `code` gets a new
body, the rest of it is. -/
def Replaces (f : ElementHead → Element → Except ε (Option NewCode))
    (R : Element → ElementHead → Prop) (t : Tree) : Prop :=
  (∀ u, replaceCode f t = .ok u → Revises R t u) ∧
    ∀ rows u, replaceFirst f rows t = .ok u → (codeChild? t).isSome → Recoded R rows t u

section

variable {R : Element → ElementHead → Prop}

/-- Replacing code in an element revises it, if only the code of a `pre` is replaced, its tag stays,
and the new body is made of spans. -/
theorem nodeRevises_element (hsame : ∀ e, R e e.head)
    (hf : ∀ head code new, f head code = .ok (some new) → head.tag = "pre" ∧
      new.head.tag = head.tag ∧ Spans new.body ∧ ∀ children, R ⟨head, children⟩ new.head)
    (hchildren : Replaces f R children) {node' : Node}
    (h : (Node.element head children).replaceCode f = .ok node') :
    NodeRevises R (.element head children) node' := by
  intro rest rest' hrest
  rcases replaceCode_element_eq_ok_iff.1 h with
    ⟨-, children', hc, rfl⟩ | ⟨code, new, children', hcode, hnew, hc, rfl⟩
  · exact .element rfl (hsame _) (hchildren.1 children' hc) hrest
  · -- The element is a block whose code got a new body.
    obtain ⟨hpre, htag, hspans, hR⟩ := hf head code new hnew
    obtain ⟨before, before', code', body, after, after', rfl, rfl, hb, hc', hbefore, hafter⟩ :=
      hchildren.2 new.body children' hc (by rw [hcode]; rfl)
    exact .recode hpre htag (hR _) hb hc' hspans hbefore hafter hrest

/-- A node that is not the `code` of its siblings is revised on its own. -/
theorem Replaces.cons (h : Replaces f R rest) (hcode : codeChild? [node] = none)
    (hnode : ∀ node', node.replaceCode f = .ok node' → NodeRevises R node node') :
    Replaces f R (node :: rest) := by
  constructor
  · intro u hu
    obtain ⟨node', rest', hn, hr, rfl⟩ := replaceCode_cons_eq_ok_iff.1 hu
    exact hnode node' hn rest rest' (h.1 rest' hr)
  · intro rows u hu hsome
    obtain ⟨node', rest', hn, hr, rfl⟩ := (replaceFirst_cons_eq_ok_iff hcode).1 hu
    rw [← List.singleton_append, codeChild?_append, hcode] at hsome
    exact (h.2 rows rest' hr hsome).cons (hnode node' hn) hcode

/-- A `code` gets the new body if it is the first one. -/
theorem Replaces.cons_code (h : Replaces f R rest) (hcode : head.tag = "code")
    (hnode : ∀ node', (Node.element head children).replaceCode f = .ok node' →
      NodeRevises R (.element head children) node') :
    Replaces f R (.element head children :: rest) := by
  constructor
  · intro u hu
    obtain ⟨node', rest', hn, hr, rfl⟩ := replaceCode_cons_eq_ok_iff.1 hu
    exact hnode node' hn rest rest' (h.1 rest' hr)
  · intro rows u hu _
    obtain ⟨rest', hr, rfl⟩ := (replaceFirst_code_eq_ok_iff hcode).1 hu
    exact ⟨[], [], head, children, rest, rest', rfl, rfl, rfl, hcode, .nil, h.1 rest' hr⟩

/-- Replacing code revises the tree, if only the code of a `pre` is replaced, its tag stays, and the
new body is made of spans. -/
theorem replaces_of (hsame : ∀ e, R e e.head)
    (hf : ∀ head code new, f head code = .ok (some new) → head.tag = "pre" ∧
      new.head.tag = head.tag ∧ Spans new.body ∧ ∀ children, R ⟨head, children⟩ new.head)
    (t : Tree) : Replaces f R t := by
  induction t using tree_induction with
  | nil =>
      refine ⟨fun u h => ?_, fun rows u _ hsome => ?_⟩
      · cases h
        exact .nil
      · cases hsome
  | element head children rest ihc ihr =>
      have hnode : ∀ node', (Node.element head children).replaceCode f = .ok node' →
          NodeRevises R (.element head children) node' :=
        fun _ h => nodeRevises_element hsame hf ihc h
      by_cases hcode : head.tag = "code"
      · exact ihr.cons_code hcode hnode
      · exact ihr.cons (codeChild?_singleton hcode children) hnode
  | component tag children rest ihc ihr =>
      refine ihr.cons rfl fun node' h rest rest' hrest => ?_
      obtain ⟨children', hc, rfl⟩ := replaceCode_component_eq_ok_iff.1 h
      exact .component tag (ihc.1 children' hc) hrest
  | text value rest ih =>
      refine ih.cons rfl fun node' h rest rest' hrest => ?_
      cases h
      exact .text value hrest

end

/-- Code can be replaced in an element if it can be replaced on and below it. -/
theorem exists_replaceCode_element
    (hf : ∀ code, codeChild? children = some code → ∃ new, f head code = .ok new)
    (hc : ∃ children', replaceCode f children = .ok children')
    (hfirst : ∀ rows, ∃ children', replaceFirst f rows children = .ok children') :
    ∃ node', (Node.element head children).replaceCode f = .ok node' := by
  obtain ⟨children', hc⟩ := hc
  cases hcode : codeChild? children with
  | none =>
      refine ⟨_, replaceCode_element_eq_ok_iff.2 (Or.inl ⟨fun code h => ?_, children', hc, rfl⟩)⟩
      rw [hcode] at h
      cases h
  | some code =>
      obtain ⟨_ | new, hnew⟩ := hf code hcode
      · refine ⟨_, replaceCode_element_eq_ok_iff.2 (Or.inl ⟨fun code' h => ?_, children', hc, rfl⟩)⟩
        rw [hcode] at h
        cases h
        exact hnew
      · obtain ⟨children'', hc'⟩ := hfirst new.body
        exact ⟨_, replaceCode_element_eq_ok_iff.2
          (Or.inr ⟨code, new, children'', hcode, hnew, hc', rfl⟩)⟩

/-- Code can be replaced everywhere if it can be replaced on each element of the tree. -/
theorem exists_replaceCode (t : Tree) (hf : ∀ e ∈ elements t, ∀ code,
      codeChild? e.children = some code → ∃ new, f e.head code = .ok new) :
    (∃ u, replaceCode f t = .ok u) ∧ ∀ rows, ∃ u, replaceFirst f rows t = .ok u := by
  have hcons {node : Node} {rest : List Node} (hcode : codeChild? [node] = none)
      (hnode : ∃ node', node.replaceCode f = .ok node')
      (ih : (∃ u, replaceCode f rest = .ok u) ∧ ∀ rows, ∃ u, replaceFirst f rows rest = .ok u) :
      (∃ u, replaceCode f (node :: rest) = .ok u) ∧
        ∀ rows, ∃ u, replaceFirst f rows (node :: rest) = .ok u := by
    obtain ⟨node', hn⟩ := hnode
    obtain ⟨rest', hr⟩ := ih.1
    refine ⟨⟨_, replaceCode_cons_eq_ok_iff.2 ⟨node', rest', hn, hr, rfl⟩⟩, fun rows => ?_⟩
    obtain ⟨rest'', hr'⟩ := ih.2 rows
    exact ⟨_, (replaceFirst_cons_eq_ok_iff hcode).2 ⟨node', rest'', hn, hr', rfl⟩⟩
  induction t using tree_induction with
  | nil => exact ⟨⟨[], rfl⟩, fun _ => ⟨[], rfl⟩⟩
  | element head children rest ihc ihr =>
      rw [elements_element, List.forall_mem_cons, List.forall_mem_append] at hf
      obtain ⟨hhere, hbelow, hbehind⟩ := hf
      have hchildren := ihc hbelow
      have hrest := ihr hbehind
      obtain ⟨node', hn⟩ : ∃ node', (Node.element head children).replaceCode f = .ok node' :=
        exists_replaceCode_element hhere hchildren.1 hchildren.2
      by_cases hcode : head.tag = "code"
      · obtain ⟨rest', hr⟩ := hrest.1
        exact ⟨⟨_, replaceCode_cons_eq_ok_iff.2 ⟨node', rest', hn, hr, rfl⟩⟩, fun rows =>
          ⟨_, (replaceFirst_code_eq_ok_iff hcode).2 ⟨rest', hr, rfl⟩⟩⟩
      · exact hcons (codeChild?_singleton hcode children) ⟨node', hn⟩ hrest
  | component tag children rest ihc ihr =>
      rw [elements_component, List.forall_mem_append] at hf
      obtain ⟨children', hc⟩ := (ihc hf.1).1
      exact hcons rfl ⟨_, replaceCode_component_eq_ok_iff.2 ⟨children', hc, rfl⟩⟩ (ihr hf.2)
  | text value rest ih => exact hcons rfl ⟨.text value, rfl⟩ (ih hf)

/-- Replacing code in an element fails only on it or below it. -/
theorem replaceCode_element_eq_error {e : ε}
    (h : (Node.element head children).replaceCode f = .error e) :
    (∃ code, f head code = .error e) ∨ replaceCode f children = .error e ∨
      ∃ rows, replaceFirst f rows children = .error e := by
  rw [Node.replaceCode] at h
  cases hcode : codeChild? children with
  | none =>
      rw [hcode] at h
      rcases bind_eq_error_iff.1 h with h | ⟨_, -, h⟩
      · exact Or.inr (Or.inl h)
      · cases h
  | some code =>
      rw [hcode] at h
      rcases bind_eq_error_iff.1 h with h | ⟨_ | new, -, h⟩
      · exact Or.inl ⟨code, h⟩
      · rcases bind_eq_error_iff.1 h with h | ⟨_, -, h⟩
        · exact Or.inr (Or.inl h)
        · cases h
      · rcases bind_eq_error_iff.1 h with h | ⟨_, -, h⟩
        · exact Or.inr (Or.inr ⟨new.body, h⟩)
        · cases h

/-- Replacing code fails only with an error of replacing it on some element. -/
theorem replaceCode_eq_error {e : ε} (t : Tree) :
    (replaceCode f t = .error e → ∃ head code, f head code = .error e) ∧
      ∀ rows, replaceFirst f rows t = .error e → ∃ head code, f head code = .error e := by
  induction t using tree_induction with
  | nil =>
      refine ⟨fun h => ?_, fun rows h => ?_⟩
      · cases h
      · cases h
  | element head children rest ihc ihr =>
      have hnode : (Node.element head children).replaceCode f = .error e →
          ∃ head code, f head code = .error e := by
        intro h
        rcases replaceCode_element_eq_error h with ⟨code, h⟩ | h | ⟨rows, h⟩
        · exact ⟨head, code, h⟩
        · exact ihc.1 h
        · exact ihc.2 rows h
      refine ⟨fun h => ?_, fun rows h => ?_⟩
      · exact (bind_bind_pure_eq_error h).elim hnode ihr.1
      · rw [replaceFirst] at h
        split at h
        · rcases bind_eq_error_iff.1 h with h | ⟨_, -, h⟩
          · exact ihr.1 h
          · cases h
        · exact (bind_bind_pure_eq_error h).elim hnode (ihr.2 rows)
  | component tag children rest ihc ihr =>
      have hnode : (Node.component tag children).replaceCode f = .error e →
          ∃ head code, f head code = .error e := by
        intro h
        rcases bind_eq_error_iff.1 h with h | ⟨_, -, h⟩
        · exact ihc.1 h
        · cases h
      refine ⟨fun h => ?_, fun rows h => ?_⟩
      · exact (bind_bind_pure_eq_error h).elim hnode ihr.1
      · exact (bind_bind_pure_eq_error h).elim hnode (ihr.2 rows)
  | text value rest ih =>
      refine ⟨fun h => ?_, fun rows h => ?_⟩
      · exact (bind_bind_pure_eq_error h).elim (fun h => by cases h) ih.1
      · rcases bind_eq_error_iff.1 h with h | ⟨_, -, h⟩
        · exact ih.2 rows h
        · cases h

end

/-! ## Rows -/

/-- A token is shown as a span, if at all. -/
theorem spans_filterMap_tokenNode? (tokens : List Token) : Spans (tokens.filterMap tokenNode?) := by
  induction tokens with
  | nil => exact .nil
  | cons token tokens ih =>
      rw [List.filterMap_cons]
      cases h : tokenNode? token with
      | none => exact ih
      | some node =>
          rw [tokenNode?] at h
          split at h
          · cases h
          · cases h
            exact .span rfl (.text _ .nil) ih

theorem spans_rowNodes (number : Nat) (line : List Char) (tokens : List Token) :
    Spans (rowNodes number line tokens) := by
  refine .span rfl (spans_filterMap_tokenNode? tokens) ?_
  cases lineEnding? line with
  | none => exact .nil
  | some ending => exact .text ending .nil

section

variable {tokenize : List (List Char) → List Char → Except String (List Token)}

/-- Rows are spans. -/
theorem spans_rowsFrom {before lines : List (List Char)} {rows : List Node}
    (h : rowsFrom tokenize before lines = .ok rows) : Spans rows := by
  induction lines generalizing before rows with
  | nil =>
      cases h
      exact .nil
  | cons line lines ih =>
      obtain ⟨tokens, rest, -, hrest, rfl⟩ := bind_bind_pure_eq_ok_iff.1 h
      exact (spans_rowNodes _ line tokens).append (ih hrest)

/-- There are rows if each of the lines can be cut into tokens. -/
theorem exists_rowsFrom {lines : List (List Char)}
    (htotal : ∀ line ∈ lines, ∀ before, ∃ tokens, tokenize before line = .ok tokens)
    (before : List (List Char)) : ∃ rows, rowsFrom tokenize before lines = .ok rows := by
  induction lines generalizing before with
  | nil => exact ⟨[], rfl⟩
  | cons line lines ih =>
      rw [List.forall_mem_cons] at htotal
      obtain ⟨tokens, htokens⟩ := htotal.1 before
      obtain ⟨rest, hrest⟩ := ih htotal.2 (before ++ [line])
      exact ⟨_, bind_bind_pure_eq_ok_iff.2 ⟨tokens, rest, htokens, hrest, rfl⟩⟩

end

/-! ## The grammar of a language -/

namespace SyntaxSet

variable {set : SyntaxSet} {language : String}

/-- A set has no grammar for a language: none is found by it, and none by what it is an alias of. -/
structure Unknown (set : SyntaxSet) (language : String) : Prop where
  token : set.byToken language = none
  javaScript : language ∈ ["ts", "tsx", "jsx", "mjs"] → set.byName "JavaScript" = none
  yaml : language = "toml" → set.byName "YAML" = none
  shell : language ∈ ["shell", "zsh", "console"] → set.byToken "sh" = none

theorem alias?_eq_none_iff : set.alias? language = none ↔
    (language ∈ ["ts", "tsx", "jsx", "mjs"] → set.byName "JavaScript" = none) ∧
    (language = "toml" → set.byName "YAML" = none) ∧
    (language ∈ ["shell", "zsh", "console"] → set.byToken "sh" = none) := by
  -- One case for each alias, and one in which the language is none of them.
  unfold alias?
  split <;> simp_all

theorem find?_eq_none_iff : set.find? language = none ↔ set.Unknown language := by
  rw [find?, Option.orElse_eq_orElse, Option.orElse_eq_or, Option.or_eq_none_iff,
    alias?_eq_none_iff]
  constructor
  · rintro ⟨htoken, hjavaScript, hyaml, hshell⟩
    exact ⟨htoken, hjavaScript, hyaml, hshell⟩
  · rintro ⟨htoken, hjavaScript, hyaml, hshell⟩
    exact ⟨htoken, hjavaScript, hyaml, hshell⟩

instance (set : SyntaxSet) (language : String) : Decidable (set.Unknown language) :=
  decidable_of_iff _ find?_eq_none_iff

/-- Code in no language, or in one that is unknown, is plain text. -/
theorem select_of_unknown {language : Option String}
    (h : ∀ name ∈ language, set.Unknown name) : set.select language = set.plainText := by
  cases language with
  | none => rfl
  | some name =>
      have hnone : set.find? name = none := find?_eq_none_iff.2 (h name rfl)
      rw [select, Option.bind_some, hnone, Option.getD_none]

theorem select_plain (language : Option String) : plain.select language = plain.plainText :=
  select_of_unknown fun _ _ => ⟨rfl, fun _ => rfl, fun _ => rfl, fun _ => rfl⟩

end SyntaxSet

theorem Highlighter.tokenize_plain (theme : Theme) (language : Option String)
    (before : List (List Char)) (line : List Char) :
    (Highlighter.plain theme).tokenize language before line =
      .ok (if line.isEmpty then [] else [⟨{ color := theme.foreground }, line⟩]) := by
  rw [tokenize, Highlighter.plain, SyntaxSet.select_plain, SyntaxSet.plain]

/-! ## Highlighting a tree -/

/-- The attributes that highlighting may touch. -/
def colourNames : List String := ["data-language", "style"]

/-- A highlighter that cuts every line of every language into tokens. -/
def Highlighter.Total (highlighter : Highlighter) : Prop :=
  ∀ language before line, ∃ tokens, highlighter.tokenize language before line = .ok tokens

theorem Highlighter.total_plain (theme : Theme) : (Highlighter.plain theme).Total :=
  fun language before line => ⟨_, tokenize_plain theme language before line⟩

/-- A block gets a new body if it is a `pre` and all of its lines are cut into tokens. -/
theorem highlightCode_eq_some_iff {highlighter : Highlighter} {head : ElementHead} {code : Element}
    {new : NewCode} : highlightCode highlighter head code = .ok (some new) ↔
      head.tag = "pre" ∧ ∃ rows, rowsFrom (highlighter.tokenize (codeLanguage? code.head)) []
        (linesWithEnds (content code.children).toList) = .ok rows ∧
        new = ⟨(head.setAttribute "data-language"
            ((codeLanguage? code.head).getD "plaintext")).setAttribute "style"
              ("background-color:" ++ highlighter.theme.background), rows⟩ := by
  unfold highlightCode
  by_cases hpre : head.tag = "pre"
  · rw [if_pos hpre]
    cases hrows : rowsFrom (highlighter.tokenize (codeLanguage? code.head)) []
        (linesWithEnds (content code.children).toList) with
    | error reason => simp [hrows]
    | ok rows => simp [hrows, hpre, eq_comm]
  · rw [if_neg hpre]
    simp [hpre]

theorem highlightCode_eq_ok {highlighter : Highlighter} {head : ElementHead} {code : Element}
    {new : NewCode} (h : highlightCode highlighter head code = .ok (some new)) :
    head.tag = "pre" ∧ new.head.tag = head.tag ∧ Spans new.body ∧
      ∀ children, Keeps colourNames ⟨head, children⟩ new.head := by
  obtain ⟨hpre, rows, hrows, rfl⟩ := highlightCode_eq_some_iff.1 h
  refine ⟨hpre, rfl, spans_rowsFrom hrows, fun children => ?_⟩
  exact ((Keeps.same colourNames ⟨head, children⟩).setAttribute (by decide) _).setAttribute
    (by decide) _

/-- Highlighting touches the language and the colour. -/
theorem revises_highlightTree {highlighter : Highlighter} {t u : Tree}
    (h : highlightTree highlighter t = .ok u) : Revises (Keeps colourNames) t u :=
  (replaces_of (Keeps.same colourNames) (fun _ _ _ => highlightCode_eq_ok) t).1 u h

/-- A tree can be highlighted if the lines of all its blocks can be cut into tokens. -/
theorem exists_highlightTree_of_blocks {highlighter : Highlighter} {t : Tree}
    (htotal : ∀ block ∈ blocks t, ∀ code, codeChild? block.children = some code →
      ∀ line, line ≠ [] → ∀ before, ∃ tokens,
        highlighter.tokenize (codeLanguage? code.head) before line = .ok tokens) :
    ∃ u, highlightTree highlighter t = .ok u := by
  refine (exists_replaceCode t fun e he code hcode => ?_).1
  by_cases hpre : e.head.tag = "pre"
  · have hblock : e ∈ blocks t :=
      List.mem_filter.2 ⟨he, by simp [isCodeBlock, hpre, hcode]⟩
    have hlines := isLines_linesWithEnds (content code.children).toList
    obtain ⟨rows, hrows⟩ := exists_rowsFrom
      (fun line hline => htotal e hblock code hcode line (hlines.ne_nil hline)) []
    exact ⟨_, highlightCode_eq_some_iff.2 ⟨hpre, rows, hrows, rfl⟩⟩
  · exact ⟨none, if_neg hpre⟩

theorem exists_highlightTree {highlighter : Highlighter} (htotal : highlighter.Total) (t : Tree) :
    ∃ u, highlightTree highlighter t = .ok u :=
  exists_highlightTree_of_blocks fun _ _ code _ line _ before =>
    htotal (codeLanguage? code.head) before line

/-- Highlighting blames the block that it fails on. -/
theorem highlightTree_eq_error {highlighter : Highlighter} {t : Tree} {error : CompileError}
    (h : highlightTree highlighter t = .error error) :
    ∃ fault location, error = .block fault location := by
  obtain ⟨head, code, hcode⟩ := (replaceCode_eq_error t).1 h
  unfold highlightCode at hcode
  split at hcode
  · simp only at hcode
    split at hcode
    · cases hcode
    · cases hcode
      exact ⟨_, _, rfl⟩
  · cases hcode

end Folio
