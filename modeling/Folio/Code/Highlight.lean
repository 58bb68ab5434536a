import Folio.Code.Theme
import Folio.Text.Line
import Folio.Tree.Transform
import Folio.Tree.View

/-!
# Highlighting

A code block is shown in rows: each line of its text becomes a numbered `span` of coloured tokens,
and the line endings stay between the rows as text.  The grammars that cut lines into tokens are a
parameter, and so is what they are found by.  Which of them a block is shown in is decided here: the
one of its language, under an alias if need be, and plain text where there is none.
-/

namespace Folio

open Folio.Text

/-- How a token looks. -/
structure TokenStyle where
  color : String
  bold : Bool := false
  italic : Bool := false
  underline : Bool := false
  deriving DecidableEq, Repr, Inhabited

/-- The style as a declaration list. -/
def TokenStyle.css (style : TokenStyle) : String :=
  "color:" ++ style.color ++ (if style.bold then ";font-weight:bold" else "") ++
    (if style.italic then ";font-style:italic" else "") ++
    (if style.underline then ";text-decoration:underline" else "")

/-- A stretch of a line in one style. -/
structure Token where
  style : TokenStyle
  text : List Char
  deriving DecidableEq, Repr

/-- In a theme a grammar cuts a line into tokens, given the lines before it, or says why it
cannot. -/
abbrev Grammar := (theme : Theme) → (before : List (List Char)) → (line : List Char) →
  Except String (List Token)

/-- Grammars and how they are found: by a token, which is what code blocks name a language by, or by
the name of the grammar.  There is always one of plain text. -/
structure SyntaxSet where
  byToken : String → Option Grammar
  byName : String → Option Grammar
  plainText : Grammar

namespace SyntaxSet

/-- The grammar for a common alias of a language. -/
def alias? (set : SyntaxSet) (language : String) : Option Grammar :=
  match language with
  | "ts" | "tsx" | "jsx" | "mjs" => set.byName "JavaScript"
  | "toml" => set.byName "YAML"
  | "shell" | "zsh" | "console" => set.byToken "sh"
  | _ => none

/-- The grammar of a language. -/
def find? (set : SyntaxSet) (language : String) : Option Grammar :=
  set.byToken language <|> set.alias? language

/-- The grammar that code is shown in: plain text if it is in no language, or in one that has no
grammar. -/
def select (set : SyntaxSet) (language : Option String) : Grammar :=
  (language.bind set.find?).getD set.plainText

/-- No grammars but the one of plain text.  It makes one token of a line, and none of nothing. -/
def plain : SyntaxSet where
  byToken := fun _ => none
  byName := fun _ => none
  plainText := fun theme _ line =>
    .ok (if line.isEmpty then [] else [⟨{ color := theme.foreground }, line⟩])

end SyntaxSet

/-- A theme with the grammars of languages. -/
structure Highlighter where
  theme : Theme
  syntaxes : SyntaxSet

/-- Cuts a line of a language into tokens, given the lines before it; or says why it cannot. -/
def Highlighter.tokenize (highlighter : Highlighter) (language : Option String) :
    (before : List (List Char)) → (line : List Char) → Except String (List Token) :=
  highlighter.syntaxes.select language highlighter.theme

/-- The highlighter that shows all code as plain text. -/
def Highlighter.plain (theme : Theme) : Highlighter where
  theme
  syntaxes := SyntaxSet.plain

/-- The node of a token.  Line endings are not part of it, and nothing is left of a token that is
only a line ending. -/
def tokenNode? (token : Token) : Option Node :=
  let text := dropEndWhile isReturn token.text
  if text.isEmpty then none
  else some (.element ((ElementHead.ofTag "span").setAttribute "style" token.style.css)
    [.text (String.ofList text)])

/-- What ends a line: a line feed, alone or after a carriage return. -/
def lineEnding? (line : List Char) : Option String :=
  match line.reverse with
  | '\n' :: '\r' :: _ => some "\r\n"
  | '\n' :: _ => some "\n"
  | _ => none

/-- The row of a line, and its ending. -/
def rowNodes (number : Nat) (line : List Char) (tokens : List Token) : List Node :=
  let head := (ElementHead.ofTag "span").setAttribute "class" "line"
    |>.setAttribute "data-line" (toString number)
  .element head (tokens.filterMap tokenNode?) :: (lineEnding? line).toList.map .text

/-- The rows of the lines that follow `before`. -/
def rowsFrom (tokenize : List (List Char) → List Char → Except String (List Token))
    (before : List (List Char)) : List (List Char) → Except String (List Node)
  | [] => .ok []
  | line :: lines => do
    let tokens ← tokenize before line
    let rest ← rowsFrom tokenize (before ++ [line]) lines
    return rowNodes (before.length + 1) line tokens ++ rest

/-- The head and the rows of a highlighted code block. -/
def highlightCode (highlighter : Highlighter) (head : ElementHead) (code : Element) :
    Except CompileError (Option NewCode) :=
  if head.tag = "pre" then
    let language := codeLanguage? code.head
    let text := (content code.children).toList
    match rowsFrom (highlighter.tokenize language) [] (linesWithEnds text) with
    | .ok rows =>
      let head := head.setAttribute "data-language" (language.getD "plaintext")
        |>.setAttribute "style" ("background-color:" ++ highlighter.theme.background)
      .ok (some ⟨head, rows⟩)
    | .error reason =>
      let fault := .stated ("failed to highlight code: " ++ reason)
      .error (.block fault (head.position.getD Location.start))
  else
    .ok none

/-- Shows every code block of a tree in rows of tokens. -/
def highlightTree (highlighter : Highlighter) (tree : Tree) : Except CompileError Tree :=
  replaceCode (highlightCode highlighter) tree

end Folio
