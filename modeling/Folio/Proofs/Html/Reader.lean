import Folio.Html

/-!
# Reading HTML

A reader of HTML that knows nothing of trees.  It takes one character after the other and gives what
it met: start tags with their attributes, end tags, and the texts between tags.  A text ends at the
next `<`, a value at the next double quote, and a name at the first character that no name has.
-/

namespace Folio.Html

/-- What a reader meets in HTML. -/
inductive Event where
  | startTag (tag : String) (attributes : List (String × String))
  | endTag (tag : String)
  | text (value : String)
  deriving DecidableEq, Repr

/-- Whether the event is a tag. -/
def Event.isTag : Event → Bool
  | .text _ => false
  | _ => true

/-- The characters of names. -/
def isNameChar (c : Char) : Bool :=
  c.isAlphanum || c == '-' || c == '_' || c == '.' || c == ':'

/-- A name of a tag or an attribute. -/
def IsName (s : String) : Prop :=
  s ≠ "" ∧ ∀ c ∈ s.toList, isNameChar c

instance (s : String) : Decidable (IsName s) :=
  -- Not by the quantifier, which could also be decided over all characters that there are.
  decidable_of_iff (s ≠ "" ∧ s.toList.all isNameChar) (by rw [IsName, List.all_eq_true])

/-- A text with its four character references replaced, from left to right and each once. -/
def decode : List Char → List Char
  | '&' :: 'a' :: 'm' :: 'p' :: ';' :: cs => '&' :: decode cs
  | '&' :: 'l' :: 't' :: ';' :: cs => '<' :: decode cs
  | '&' :: 'g' :: 't' :: ';' :: cs => '>' :: decode cs
  | '&' :: 'q' :: 'u' :: 'o' :: 't' :: ';' :: cs => '"' :: decode cs
  | c :: cs => c :: decode cs
  | [] => []

/-! ## The reader -/

/-- Where in HTML a reader is, and what it has read there. -/
inductive Place where
  | text (read : List Char)
  /-- Behind the `<` of a tag. -/
  | tag
  | endTag (read : List Char)
  | startTag (read : List Char)
  /-- Behind a space in a start tag. -/
  | attributes (tag : String) (attributes : List (String × String))
  | attribute (tag : String) (attributes : List (String × String)) (read : List Char)
  /-- Behind the `=` of an attribute. -/
  | equals (tag : String) (attributes : List (String × String)) (name : String)
  | value (tag : String) (attributes : List (String × String)) (name : String) (read : List Char)
  /-- Behind the quote that ends a value. -/
  | valueEnd (tag : String) (attributes : List (String × String))
  deriving DecidableEq, Repr

/-- A reader: what it has met, and where it is. -/
structure Reader where
  events : List Event := []
  place : Place := .text []
  deriving DecidableEq, Repr

/-- The text between two tags, if there is one. -/
def textEvents (read : List Char) : List Event :=
  if read = [] then [] else [.text (String.ofList (decode read))]

namespace Reader

/-- Reads what comes behind the name of a start tag, behind an attribute without a value, or behind
a value. -/
def behind (events : List Event) (tag : String) (attributes : List (String × String)) (c : Char) :
    Option Reader :=
  if c = '>' then some ⟨events ++ [.startTag tag attributes], .text []⟩
  else if c = ' ' then some ⟨events, .attributes tag attributes⟩
  else none

/-- Reads one character. -/
def step : Reader → Char → Option Reader
  | ⟨events, .text read⟩, c =>
    if c = '<' then some ⟨events ++ textEvents read, .tag⟩
    else some ⟨events, .text (read ++ [c])⟩
  | ⟨events, .tag⟩, c =>
    if c = '/' then some ⟨events, .endTag []⟩
    else if isNameChar c then some ⟨events, .startTag [c]⟩
    else none
  | ⟨events, .endTag read⟩, c =>
    if isNameChar c then some ⟨events, .endTag (read ++ [c])⟩
    else if c = '>' ∧ read ≠ [] then
      some ⟨events ++ [.endTag (String.ofList read)], .text []⟩
    else none
  | ⟨events, .startTag read⟩, c =>
    if isNameChar c then some ⟨events, .startTag (read ++ [c])⟩
    else behind events (String.ofList read) [] c
  | ⟨events, .attributes tag attributes⟩, c =>
    if isNameChar c then some ⟨events, .attribute tag attributes [c]⟩
    else none
  | ⟨events, .attribute tag attributes read⟩, c =>
    if isNameChar c then some ⟨events, .attribute tag attributes (read ++ [c])⟩
    else if c = '=' then some ⟨events, .equals tag attributes (String.ofList read)⟩
    else behind events tag (attributes ++ [(String.ofList read, "")]) c
  | ⟨events, .equals tag attributes name⟩, c =>
    if c = '"' then some ⟨events, .value tag attributes name []⟩
    else none
  | ⟨events, .value tag attributes name read⟩, c =>
    if c = '"' then
      some ⟨events, .valueEnd tag (attributes ++ [(name, String.ofList (decode read))])⟩
    else some ⟨events, .value tag attributes name (read ++ [c])⟩
  | ⟨events, .valueEnd tag attributes⟩, c => behind events tag attributes c

/-- Reads characters. -/
def run (r : Reader) (cs : List Char) : Option Reader :=
  cs.foldlM step r

/-- What was met, if the reader is not inside a tag. -/
def finish? (r : Reader) : Option (List Event) :=
  match r.place with
  | .text read => some (r.events ++ textEvents read)
  | _ => none

end Reader

/-- Reads HTML to its end. -/
def tokenize (html : String) : Option (List Event) := do
  let reader ← Reader.run {} html.toList
  reader.finish?

/-! ## Escaped texts -/

/-- A character that is not an ampersand stands for itself. -/
theorem decode_cons {c : Char} (hc : c ≠ '&') (cs : List Char) :
    decode (c :: cs) = c :: decode cs := by
  rw [decode.eq_def]
  split <;> simp_all

theorem decode_escapeTextChar (c : Char) (cs : List Char) :
    decode (escapeTextChar c ++ cs) = c :: decode cs := by
  unfold escapeTextChar
  split
  · rfl
  · rfl
  · rfl
  · rename_i hc _ _
    exact decode_cons hc cs

theorem decode_escapeAttributeChar (c : Char) (cs : List Char) :
    decode (escapeAttributeChar c ++ cs) = c :: decode cs := by
  unfold escapeAttributeChar
  split
  · rfl
  · rfl
  · rfl
  · rfl
  · rename_i hc _ _ _
    exact decode_cons hc cs

/-- Characters that are written one by one, each so that it is read back, are read back. -/
theorem decode_flatMap {escape : Char → List Char}
    (hescape : ∀ c cs, decode (escape c ++ cs) = c :: decode cs) (cs : List Char) :
    decode (cs.flatMap escape) = cs := by
  induction cs with
  | nil => rfl
  | cons c cs ih => rw [List.flatMap_cons, hescape, ih]

theorem decode_escapeText (s : String) : decode (escapeText s).toList = s.toList := by
  rw [escapeText, String.toList_ofList, decode_flatMap decode_escapeTextChar]

theorem decode_escapeAttribute (s : String) : decode (escapeAttribute s).toList = s.toList := by
  rw [escapeAttribute, String.toList_ofList, decode_flatMap decode_escapeAttributeChar]

/-- No text opens a tag. -/
theorem not_mem_escapeText (s : String) : '<' ∉ (escapeText s).toList := by
  rw [escapeText, String.toList_ofList, List.mem_flatMap]
  rintro ⟨c, -, hc⟩
  unfold escapeTextChar at hc
  split at hc
  · exact absurd hc (by decide)
  · exact absurd hc (by decide)
  · exact absurd hc (by decide)
  · rename_i hne _
    exact hne (List.mem_singleton.1 hc).symm

/-- No value leaves its attribute. -/
theorem not_mem_escapeAttribute (s : String) : '"' ∉ (escapeAttribute s).toList := by
  rw [escapeAttribute, String.toList_ofList, List.mem_flatMap]
  rintro ⟨c, -, hc⟩
  unfold escapeAttributeChar at hc
  split at hc
  · exact absurd hc (by decide)
  · exact absurd hc (by decide)
  · exact absurd hc (by decide)
  · exact absurd hc (by decide)
  · rename_i hne
    exact hne (List.mem_singleton.1 hc).symm

/-! ## Runs -/

namespace Reader

variable {r r' : Reader} {events : List Event} {attributes : List (String × String)}

theorem run_cons {c : Char} (h : r.step c = some r') (cs : List Char) :
    r.run (c :: cs) = r'.run cs := by
  rw [run, List.foldlM_cons, h]
  rfl

theorem run_append {cs : List Char} (h : r.run cs = some r') (ds : List Char) :
    r.run (cs ++ ds) = r'.run ds := by
  rw [run, List.foldlM_append, ← run, h]
  rfl

/-- Where each of some characters is added to what was read, all are. -/
theorem run_read (place : List Char → Place) {cs : List Char}
    (h : ∀ c ∈ cs, ∀ read, step ⟨events, place read⟩ c = some ⟨events, place (read ++ [c])⟩)
    (read : List Char) : run ⟨events, place read⟩ cs = some ⟨events, place (read ++ cs)⟩ := by
  induction cs generalizing read with
  | nil =>
      rw [List.append_nil]
      rfl
  | cons c cs ih =>
      rw [run_cons (h c List.mem_cons_self read),
        ih (fun d hd => h d (List.mem_cons_of_mem _ hd)), List.append_assoc]
      rfl

/-- A name is read to its end. -/
theorem run_name {start : Place} {place : List Char → Place} {name : String} (hname : IsName name)
    (hfirst : ∀ c, isNameChar c → step ⟨events, start⟩ c = some ⟨events, place [c]⟩)
    (hnext : ∀ c, isNameChar c → ∀ read,
      step ⟨events, place read⟩ c = some ⟨events, place (read ++ [c])⟩) :
    run ⟨events, start⟩ name.toList = some ⟨events, place name.toList⟩ := by
  obtain ⟨hne, hall⟩ := hname
  cases hcs : name.toList with
  | nil => exact (hne (String.toList_eq_nil_iff.1 hcs)).elim
  | cons c cs =>
      rw [hcs] at hall
      have hrest : ∀ d ∈ cs, isNameChar d := fun d hd => hall d (List.mem_cons_of_mem _ hd)
      rw [run_cons (hfirst c (hall c List.mem_cons_self)),
        run_read place (fun d hd => hnext d (hrest d hd))]
      rfl

theorem run_text {cs : List Char} (hcs : '<' ∉ cs) (read : List Char) :
    run ⟨events, .text read⟩ cs = some ⟨events, .text (read ++ cs)⟩ := by
  refine run_read .text (fun c hc read => ?_) read
  rw [step, if_neg (ne_of_mem_of_not_mem hc hcs)]

/-! ## Start tags -/

/-- The reader is behind the name of a start tag, behind an attribute without a value, or behind a
value. -/
def Behind (r : Reader) (tag : String) (attributes : List (String × String)) : Prop :=
  ∀ c, isNameChar c = false → c ≠ '=' → r.step c = behind r.events tag attributes c

theorem behind_startTag (tag : String) : Behind ⟨events, .startTag tag.toList⟩ tag [] := by
  intro c hc _
  rw [step, if_neg (ne_true_of_eq_false hc), String.ofList_toList]

theorem behind_attribute (tag name : String) :
    Behind ⟨events, .attribute tag attributes name.toList⟩ tag (attributes ++ [(name, "")]) := by
  intro c hc hne
  rw [step, if_neg (ne_true_of_eq_false hc), if_neg hne, String.ofList_toList]

theorem behind_valueEnd (tag : String) :
    Behind ⟨events, .valueEnd tag attributes⟩ tag attributes :=
  fun _ _ _ => rfl

/-- The name of an attribute is read. -/
theorem run_attributeName {tag name : String} (hname : IsName name)
    (hr : r.Behind tag attributes) :
    r.run (' ' :: name.toList) = some ⟨r.events, .attribute tag attributes name.toList⟩ := by
  have hspace : r.step ' ' = some ⟨r.events, .attributes tag attributes⟩ :=
    hr ' ' (by decide) (by decide)
  rw [run_cons hspace]
  refine run_name hname (fun c hc => ?_) (fun c hc read => ?_)
  · rw [step, if_pos hc]
  · rw [step, if_pos hc]

/-- The value of an attribute is read, whatever text it is. -/
theorem run_value (tag name value : String) :
    run ⟨events, .attribute tag attributes name.toList⟩
        ('=' :: '"' :: ((escapeAttribute value).toList ++ ['"'])) =
      some ⟨events, .valueEnd tag (attributes ++ [(name, value)])⟩ := by
  have hequals : step ⟨events, .attribute tag attributes name.toList⟩ '=' =
      some ⟨events, .equals tag attributes name⟩ := by
    rw [step, if_neg (by decide), if_pos rfl, String.ofList_toList]
  have hopen : step ⟨events, .equals tag attributes name⟩ '"' =
      some ⟨events, .value tag attributes name []⟩ := rfl
  have hread : run ⟨events, .value tag attributes name []⟩ (escapeAttribute value).toList =
      some ⟨events, .value tag attributes name ([] ++ (escapeAttribute value).toList)⟩ := by
    refine run_read (.value tag attributes name) (fun c hc read => ?_) []
    rw [step, if_neg (ne_of_mem_of_not_mem hc (not_mem_escapeAttribute value))]
  rw [List.nil_append] at hread
  have hclose : step ⟨events, .value tag attributes name (escapeAttribute value).toList⟩ '"' =
      some ⟨events, .valueEnd tag (attributes ++ [(name, value)])⟩ := by
    rw [step, if_pos rfl, decode_escapeAttribute, String.ofList_toList]
  rw [run_cons hequals, run_cons hopen, run_append hread, run_cons hclose]
  rfl

theorem toList_attributesHtml_bare (name : String) (rest : List (String × String)) :
    (attributesHtml ((name, "") :: rest)).toList =
      ' ' :: name.toList ++ (attributesHtml rest).toList := by
  simp [attributesHtml]

theorem toList_attributesHtml_value {value : String} (hvalue : value ≠ "") (name : String)
    (rest : List (String × String)) :
    (attributesHtml ((name, value) :: rest)).toList =
      ' ' :: name.toList ++ ('=' :: '"' :: ((escapeAttribute value).toList ++ ['"']) ++
        (attributesHtml rest).toList) := by
  simp [attributesHtml, hvalue]

/-- All attributes are read, and the end of the start tag. -/
theorem run_attributes {tag : String} {rest : List (String × String)}
    (hnames : ∀ entry ∈ rest, IsName entry.1) (hr : r.Behind tag attributes) :
    r.run ((attributesHtml rest).toList ++ ['>']) =
      some ⟨r.events ++ [.startTag tag (attributes ++ rest)], .text []⟩ := by
  induction rest generalizing r attributes with
  | nil =>
      have hend : r.step '>' = some ⟨r.events ++ [.startTag tag attributes], .text []⟩ :=
        hr '>' (by decide) (by decide)
      rw [List.append_nil]
      exact run_cons hend []
  | cons entry rest ih =>
      obtain ⟨name, value⟩ := entry
      obtain ⟨hname, hrest⟩ := List.forall_mem_cons.1 hnames
      rw [List.append_cons attributes]
      -- Without a value the reader is still in the name when the next attribute comes.
      by_cases hvalue : value = ""
      · subst hvalue
        rw [toList_attributesHtml_bare, List.append_assoc,
          run_append (run_attributeName hname hr)]
        exact ih hrest (behind_attribute tag name)
      · rw [toList_attributesHtml_value hvalue, List.append_assoc,
          run_append (run_attributeName hname hr), List.append_assoc,
          run_append (run_value tag name value)]
        exact ih hrest (behind_valueEnd tag)

/-- A start tag ends the text before it. -/
theorem run_startTag {tag : String} (htag : IsName tag) {attributes : Dict String}
    (hnames : ∀ entry ∈ attributes.entries, IsName entry.1) (read : List Char) :
    run ⟨events, .text read⟩ (startTag tag attributes).toList =
      some ⟨events ++ textEvents read ++ [.startTag tag attributes.entries], .text []⟩ := by
  have htext : (startTag tag attributes).toList =
      '<' :: (tag.toList ++ ((attributesHtml attributes.entries).toList ++ ['>'])) := by
    simp [startTag]
  have hopen : step ⟨events, .text read⟩ '<' = some ⟨events ++ textEvents read, .tag⟩ := rfl
  have hname : run ⟨events ++ textEvents read, .tag⟩ tag.toList =
      some ⟨events ++ textEvents read, .startTag tag.toList⟩ := by
    refine run_name htag (fun c hc => ?_) (fun c hc read => ?_)
    · have hslash : c ≠ '/' := by
        rintro rfl
        revert hc
        decide
      rw [step, if_neg hslash, if_pos hc]
    · rw [step, if_pos hc]
  rw [htext, run_cons hopen, run_append hname, run_attributes hnames (behind_startTag tag)]
  rfl

/-! ## End tags -/

/-- An end tag ends the text before it. -/
theorem run_endTag {tag : String} (htag : IsName tag) (read : List Char) :
    run ⟨events, .text read⟩ (endTag tag).toList =
      some ⟨events ++ textEvents read ++ [.endTag tag], .text []⟩ := by
  have htext : (endTag tag).toList = '<' :: '/' :: (tag.toList ++ ['>']) := by
    simp [endTag]
  have hopen : step ⟨events, .text read⟩ '<' = some ⟨events ++ textEvents read, .tag⟩ := rfl
  have hslash : step ⟨events ++ textEvents read, .tag⟩ '/' =
      some ⟨events ++ textEvents read, .endTag []⟩ := rfl
  have hname : run ⟨events ++ textEvents read, .endTag []⟩ tag.toList =
      some ⟨events ++ textEvents read, .endTag tag.toList⟩ := by
    refine run_read .endTag (fun c hc read => ?_) []
    rw [step, if_pos (htag.2 c hc)]
  have hclose : step ⟨events ++ textEvents read, .endTag tag.toList⟩ '>' =
      some ⟨events ++ textEvents read ++ [.endTag tag], .text []⟩ := by
    have hne : tag.toList ≠ [] := mt String.toList_eq_nil_iff.1 htag.1
    rw [step, if_neg (by decide), if_pos ⟨rfl, hne⟩, String.ofList_toList]
  rw [htext, run_cons hopen, run_cons hslash, run_append hname, run_cons hclose]
  rfl

end Reader

end Folio.Html
