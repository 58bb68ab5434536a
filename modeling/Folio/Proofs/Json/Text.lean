import Folio.Proofs.Json.Number
import Folio.Proofs.Json.Quote

/-!
# Written values

The text of a value is read as the document that has its numbers and strings as they were written.
Reading goes through the value as writing does, and after each part of it the rest of the text is
read with that part added to what is open.
-/

namespace Folio.Json

/-! ## Documents of values -/

mutual

/-- The document that the text of a value is. -/
def source : Json → Source
  | .null => .null
  | .bool value => .bool value
  | .integer value => .number (toString value).toList
  | .fraction value => .number value.text.toList
  | .string value => .string (escaped value)
  | .array items => .array (itemSources items)
  | .object entries => .object (entrySources entries)

/-- The documents of items. -/
def itemSources : List Json → List Source
  | [] => []
  | item :: items => source item :: itemSources items

/-- The entries of a document. -/
def entrySources : List (String × Json) → List (List Char × Source)
  | [] => []
  | (name, value) :: entries => (escaped name, source value) :: entrySources entries

end

/-- Induction on a value, with hypotheses for all items of an array and all values of an object. -/
@[elab_as_elim]
theorem json_induction {P : Json → Prop} (value : Json) (null : P .null) (bool : ∀ b, P (.bool b))
    (integer : ∀ i, P (.integer i)) (fraction : ∀ d, P (.fraction d)) (string : ∀ s, P (.string s))
    (array : ∀ items, (∀ item ∈ items, P item) → P (.array items))
    (object : ∀ entries, (∀ entry ∈ entries, P entry.2) → P (.object entries)) : P value :=
  @Json.rec P (fun items => ∀ item ∈ items, P item) (fun entries => ∀ entry ∈ entries, P entry.2)
    (fun entry => P entry.2) null bool integer fraction string array object
    (List.forall_mem_nil _) (fun _ _ h hs => List.forall_mem_cons.2 ⟨h, hs⟩)
    (List.forall_mem_nil _) (fun _ _ h hs => List.forall_mem_cons.2 ⟨h, hs⟩) (fun _ _ h => h) value

/-! ## Words -/

/-- Whether a character goes on with a word. -/
def isWordChar (c : Char) : Bool :=
  (mark? c).isNone && c != '"' && !isSpace c

variable {front word rest : List Char}

theorem tokensFrom_mark {c : Char} {token : Token} (hc : mark? c = some token) (rest : List Char) :
    tokensFrom .between (c :: rest) = (tokensFrom .between rest).map (token :: ·) := by
  rw [tokensFrom, startToken, hc]
  rfl

/-- A word that is being read ends before what does not go on with it. -/
theorem tokensFrom_inWord (hfront : ∀ c ∈ front, isWordChar c)
    (hrest : ∀ c ∈ rest.head?, isWordChar c = false) (read : List Char) :
    tokensFrom (.inWord read) (front ++ rest) =
      (tokensFrom .between rest).map (.word (read.reverse ++ front) :: ·) := by
  induction front generalizing read with
  | nil =>
      rw [List.nil_append, List.append_nil]
      cases rest with
      | nil => rfl
      | cons c rest =>
          have hc : ((mark? c).isNone && c != '"' && !isSpace c) = false := hrest c rfl
          have hleft : tokensFrom (.inWord read) (c :: rest) =
              (tokensFrom (startToken c).2 rest).map
                ((.word read.reverse :: (startToken c).1) ++ ·) := by
            rw [tokensFrom, hc, if_neg Bool.false_ne_true]
          have hright : tokensFrom .between (c :: rest) =
              (tokensFrom (startToken c).2 rest).map ((startToken c).1 ++ ·) := by
            rw [tokensFrom]
          rw [hleft, hright, Option.map_map]
          rfl
  | cons c front ih =>
      rw [List.forall_mem_cons] at hfront
      have hc : ((mark? c).isNone && c != '"' && !isSpace c) = true := hfront.1
      rw [List.cons_append, tokensFrom, hc, if_pos rfl, ih hfront.2, List.reverse_cons,
        List.append_assoc, List.singleton_append]

theorem tokensFrom_word (hne : word ≠ []) (hword : ∀ c ∈ word, isWordChar c)
    (hrest : ∀ c ∈ rest.head?, isWordChar c = false) :
    tokensFrom .between (word ++ rest) = (tokensFrom .between rest).map (.word word :: ·) := by
  obtain ⟨c, word, rfl⟩ := List.exists_cons_of_ne_nil hne
  rw [List.forall_mem_cons] at hword
  have hc := hword.1
  simp only [isWordChar, Bool.and_eq_true, Option.isNone_iff_eq_none, bne_iff_ne, ne_eq,
    Bool.not_eq_true'] at hc
  obtain ⟨⟨hmark, hquote⟩, hspace⟩ := hc
  rw [List.cons_append, tokensFrom, startToken, hmark]
  simp only
  rw [if_neg hquote, hspace, if_neg Bool.false_ne_true]
  simp only
  rw [tokensFrom_inWord hword.2 hrest, Option.map_map]
  rfl

/-- A character of a number goes on with a word. -/
theorem isWordChar_of_isNumberChar {c : Char} (hc : IsNumberChar c) : isWordChar c := by
  rcases hc with hdigit | hmark
  · have hne {d : Char} (hd : d.isDigit = false) : c ≠ d := Text.ne_of_isDigit hdigit hd
    have hnone : mark? c = none := by
      unfold mark?
      split
      case h_7 => rfl
      all_goals exact (hne rfl rfl).elim
    have hspace : isSpace c = false := by
      simp [isSpace, hne]
    simp [isWordChar, hnone, hspace, hne]
  · have hall : ['-', '+', '.', 'e', 'E'].all isWordChar := rfl
    exact List.all_eq_true.1 hall c hmark

theorem wordValue?_of_isNumber (h : isNumber word) : wordValue? word = some (.number word) := by
  have hne {other : List Char} (hother : isNumber other = false) : word ≠ other := by
    rintro rfl
    rw [h] at hother
    cases hother
  rw [wordValue?, if_neg (hne (by decide)), if_neg (hne (by decide)), if_neg (hne (by decide)),
    if_pos h]

/-! ## Reading on -/

/-- Reads the tokens of a text from some state on. -/
def Reading.run (reading : Reading) (cs : List Char) : Option Reading :=
  (tokensFrom .between cs).bind fun tokens => tokens.foldlM Reading.step reading

namespace Reading

/-- After a token the rest is read from the state that the token leads to. -/
theorem run_token {cs : List Char} {token : Token}
    (h : tokensFrom .between cs = (tokensFrom .between rest).map (token :: ·)) (reading : Reading) :
    reading.run cs = (reading.step token).bind fun next => next.run rest := by
  simp only [run]
  rw [h]
  -- The tokens are all cut off before the first one is read, but a failure of either is one of
  -- both.
  cases tokensFrom .between rest with
  | none => cases reading.step token <;> rfl
  | some tokens => rfl

theorem run_mark {c : Char} {token : Token} (hc : mark? c = some token) {reading next : Reading}
    (hnext : reading.step token = some next) (rest : List Char) :
    reading.run (c :: rest) = next.run rest := by
  rw [run_token (tokensFrom_mark hc rest), hnext, Option.bind_some]

theorem run_quote (s : String) {reading next : Reading}
    (hnext : reading.step (.string (escaped s)) = some next) (rest : List Char) :
    reading.run (quote s ++ rest) = next.run rest := by
  rw [run_token (tokensFrom_quote_append s rest), hnext, Option.bind_some]

theorem run_word (hne : word ≠ []) (hword : ∀ c ∈ word, isWordChar c)
    (hrest : ∀ c ∈ rest.head?, isWordChar c = false) {reading next : Reading}
    (hnext : reading.step (.word word) = some next) :
    reading.run (word ++ rest) = next.run rest := by
  rw [run_token (tokensFrom_word hne hword hrest), hnext, Option.bind_some]

/-- Where a value may come, its first token is read as such. -/
theorem step_eq_startValue {expect : Expect} (hexpect : expect = .value ∨ expect = .firstItem)
    {token : Token} (htoken : token ≠ .closeArray) (stack : List Frame) :
    step ⟨stack, expect⟩ token = startValue stack token := by
  rcases hexpect with rfl | rfl
  · rfl
  · exact if_neg htoken

end Reading

/-- Wherever a value may come, its text is read as its document. -/
def IsRead (value : Json) : Prop :=
  ∀ (stack : List Frame) (expect : Expect) (rest : List Char),
    (expect = .value ∨ expect = .firstItem) → (∀ c ∈ rest.head?, isWordChar c = false) →
    Reading.run ⟨stack, expect⟩ (chars value ++ rest) = (complete value.source stack).run rest

/-! ## Single tokens -/

theorem isRead_of_word {value : Json} (hchars : chars value = word) (hne : word ≠ [])
    (hword : word.all isWordChar) (hvalue : wordValue? word = some value.source) :
    IsRead value := by
  intro stack expect rest hexpect hrest
  rw [hchars]
  refine Reading.run_word hne (List.all_eq_true.1 hword) hrest ?_
  rw [Reading.step_eq_startValue hexpect (by simp), startValue, hvalue, Option.map_some]

theorem isRead_of_number {value : Json} (hnumber : isNumber (chars value))
    (hsource : value.source = .number (chars value)) : IsRead value := by
  refine isRead_of_word rfl ?_ (List.all_eq_true.2 fun c hc => ?_) ?_
  · intro hnil
    rw [hnil] at hnumber
    cases hnumber
  · exact isWordChar_of_isNumberChar (isNumberChar_of_isNumber hnumber c hc)
  · rw [hsource]
    exact wordValue?_of_isNumber hnumber

theorem isRead_string (s : String) : IsRead (.string s) := by
  intro stack expect rest hexpect _
  refine Reading.run_quote s ?_ rest
  rw [Reading.step_eq_startValue hexpect (by simp)]
  rfl

/-! ## Arrays -/

theorem head?_itemChars (items : List Json) (rest : List Char) :
    ∀ c ∈ (itemChars items ++ ']' :: rest).head?, isWordChar c = false := by
  cases items <;> rintro _ ⟨⟩ <;> rfl

/-- The items after the first ones are read one after the other, up to the end of the array. -/
theorem run_itemChars {items : List Json} (h : ∀ item ∈ items, IsRead item) (read : List Source)
    (stack : List Frame) (rest : List Char) :
    Reading.run ⟨.array read :: stack, .next⟩ (itemChars items ++ ']' :: rest) =
      (complete (.array (read.reverse ++ itemSources items)) stack).run rest := by
  -- What has been read so far is kept in reverse, so it grows at its front.
  induction items generalizing read with
  | nil =>
      rw [itemSources, List.append_nil]
      exact Reading.run_mark rfl rfl rest
  | cons item items ih =>
      rw [List.forall_mem_cons] at h
      have hcomma : Reading.step ⟨.array read :: stack, .next⟩ .comma =
        some ⟨.array read :: stack, .value⟩ := rfl
      have hitem := h.1 (.array read :: stack) .value (itemChars items ++ ']' :: rest) (Or.inl rfl)
        (head?_itemChars items rest)
      rw [itemChars, List.append_assoc, List.cons_append, Reading.run_mark rfl hcomma, hitem]
      rw [complete, ih h.2, List.reverse_cons, List.append_assoc, List.singleton_append,
        itemSources]

theorem isRead_array {items : List Json} (h : ∀ item ∈ items, IsRead item) :
    IsRead (.array items) := by
  intro stack expect rest hexpect hrest
  have hopen : Reading.step ⟨stack, expect⟩ .openArray = some ⟨.array [] :: stack, .firstItem⟩ := by
    rw [Reading.step_eq_startValue hexpect (by simp)]
    rfl
  -- The end may come at once, but not after a comma, so the first item has a state of its own.
  cases items with
  | nil =>
      rw [chars]
      show Reading.run _ ('[' :: ']' :: rest) = _
      rw [Reading.run_mark rfl hopen]
      exact Reading.run_mark rfl rfl rest
  | cons item items =>
      rw [List.forall_mem_cons] at h
      have hitem := h.1 (.array [] :: stack) .firstItem (itemChars items ++ ']' :: rest)
        (Or.inr rfl)
        (head?_itemChars items rest)
      rw [chars]
      simp only [List.cons_append, List.append_assoc]
      rw [Reading.run_mark rfl hopen, List.nil_append, hitem]
      exact run_itemChars h.2 [source item] stack rest

/-! ## Objects -/

theorem head?_entryChars (entries : List (String × Json)) (rest : List Char) :
    ∀ c ∈ (entryChars entries ++ '\x7d' :: rest).head?, isWordChar c = false := by
  cases entries <;> rintro _ ⟨⟩ <;> rfl

/-- An entry is read from where a name may come. -/
theorem run_entry {value : Json} (h : IsRead value) (name : String) {expect : Expect}
    (hexpect : expect = .name ∨ expect = .firstName) (read : List (List Char × Source))
    (former : List Char) (stack : List Frame) {rest : List Char}
    (hrest : ∀ c ∈ rest.head?, isWordChar c = false) :
    Reading.run ⟨.object read former :: stack, expect⟩
        (quote name ++ ':' :: (chars value ++ rest)) =
      Reading.run ⟨.object ((escaped name, value.source) :: read) (escaped name) :: stack, .next⟩
        rest := by
  have hname : Reading.step ⟨.object read former :: stack, expect⟩ (.string (escaped name)) =
      some ⟨.object read (escaped name) :: stack, .colon⟩ := by
    rcases hexpect with rfl | rfl
    · rfl
    · simp [Reading.step, startEntry]
  have hcolon : Reading.step ⟨.object read (escaped name) :: stack, .colon⟩ .colon =
      some ⟨.object read (escaped name) :: stack, .value⟩ := rfl
  rw [Reading.run_quote name hname, Reading.run_mark rfl hcolon]
  exact h _ .value rest (Or.inl rfl) hrest

/-- The entries after the first ones are read one after the other, up to the end of the object. -/
theorem run_entryChars {entries : List (String × Json)} (h : ∀ entry ∈ entries, IsRead entry.2)
    (read : List (List Char × Source)) (former : List Char) (stack : List Frame)
    (rest : List Char) :
    Reading.run ⟨.object read former :: stack, .next⟩ (entryChars entries ++ '\x7d' :: rest) =
      (complete (.object (read.reverse ++ entrySources entries)) stack).run rest := by
  induction entries generalizing read former with
  | nil =>
      rw [entrySources, List.append_nil]
      exact Reading.run_mark rfl rfl rest
  | cons entry entries ih =>
      obtain ⟨name, value⟩ := entry
      rw [List.forall_mem_cons] at h
      have hcomma : Reading.step ⟨.object read former :: stack, .next⟩ .comma =
        some ⟨.object read former :: stack, .name⟩ := rfl
      rw [entryChars]
      simp only [List.cons_append, List.append_assoc]
      rw [Reading.run_mark rfl hcomma, run_entry h.1 name (Or.inl rfl) read former stack
        (head?_entryChars entries rest), ih h.2, List.reverse_cons, List.append_assoc,
        List.singleton_append, entrySources]

theorem isRead_object {entries : List (String × Json)} (h : ∀ entry ∈ entries, IsRead entry.2) :
    IsRead (.object entries) := by
  intro stack expect rest hexpect hrest
  have hopen : Reading.step ⟨stack, expect⟩ .openObject =
      some ⟨.object [] [] :: stack, .firstName⟩ := by
    rw [Reading.step_eq_startValue hexpect (by simp)]
    rfl
  cases entries with
  | nil =>
      rw [chars]
      show Reading.run _ ('\x7b' :: '\x7d' :: rest) = _
      rw [Reading.run_mark rfl hopen]
      exact Reading.run_mark rfl rfl rest
  | cons entry entries =>
      obtain ⟨name, value⟩ := entry
      rw [List.forall_mem_cons] at h
      rw [chars]
      simp only [List.cons_append, List.append_assoc]
      rw [Reading.run_mark rfl hopen, List.nil_append, run_entry h.1 name (Or.inr rfl) [] [] stack
        (head?_entryChars entries rest)]
      exact run_entryChars h.2 [(escaped name, source value)] (escaped name) stack rest

/-! ## Values -/

theorem isRead (value : Json) : IsRead value := by
  induction value using json_induction with
  | null => exact isRead_of_word rfl (by decide) (by decide) (by rfl)
  | bool b => cases b <;> exact isRead_of_word rfl (by decide) (by decide) (by rfl)
  | integer i => exact isRead_of_number (isNumber_toString i) rfl
  | fraction d => exact isRead_of_number (isNumber_text d) rfl
  | string s => exact isRead_string s
  | array items ih => exact isRead_array ih
  | object entries ih => exact isRead_object ih

/-- The text of a value is read as its document. -/
theorem ofText?_text (value : Json) : Source.ofText? value.text = some value.source := by
  have hrun := isRead value [] .value [] (Or.inl rfl) (by simp)
  have hdone : (complete value.source []).run [] = some ⟨[], .done value.source⟩ := rfl
  rw [List.append_nil, hdone] at hrun
  obtain ⟨tokens, htokens, hread⟩ := Option.bind_eq_some_iff.1 hrun
  rw [Source.ofText?, text, String.toList_ofList, htokens, Option.bind_eq_bind, Option.bind_some,
    hread]
  rfl

end Folio.Json
