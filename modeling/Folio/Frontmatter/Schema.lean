import Folio.Date
import Folio.Frontmatter.Block
import Folio.Text.Quoted

/-!
# Records in frontmatter

What the two kinds of documents say about themselves.  Pages may have further keys, which are kept;
those of posts are dropped.  The keys that are there are looked at in the order of their names, and
only then is anything found missing.
-/

namespace Folio.Frontmatter

/-! ## Reading fields -/

/-- A value in the words of an error. -/
def found : Json → String
  | .null => "null"
  | .bool value => "boolean `" ++ toString value ++ "`"
  | .integer value => "integer `" ++ toString value ++ "`"
  | .fraction value => "floating point `" ++ value.text ++ "`"
  | .string value => "string " ++ Text.quoted value
  | .array _ => "sequence"
  | .object _ => "map"

/-- The error of a value that is not of the type that is expected. -/
def wrongType {α : Type} (value : Json) (expected : String) : Except RecordFault α :=
  .error (.wrongType (found value) expected)

/-- A text. -/
def text : Json → Except RecordFault String
  | .string value => .ok value
  | value => wrongType value "a string"

/-- A text, or null for none. -/
def optionalText : Json → Except RecordFault (Option String)
  | .null => .ok none
  | value => (text value).map some

/-- A date in one of its written forms. -/
def date (value : Json) : Except RecordFault Date := do
  let raw ← text value
  match Date.parse? raw with
  | some date => return date
  | none => throw (.notDate raw)

/-- A list of values. -/
def list {α : Type} (read : Json → Except RecordFault α) : Json → Except RecordFault (List α)
  | .array items => items.mapM read
  | value => wrongType value "a sequence"

/-- The value of a key, if it is there. -/
def field {α : Type} (read : Json → Except RecordFault α) (name : String) (entries : Dict Json) :
    Except RecordFault (Option α) :=
  match entries.get? name with
  | some value => (read value).map some
  | none => .ok none

/-- The value of a key that has to be there. -/
def present {α : Type} (name : String) : Option α → Except RecordFault α
  | some value => .ok value
  | none => .error (.missing name)

/-! ## Pages -/

/-- The record of a page. -/
structure Page where
  title : String
  description : String
  /-- All other keys. -/
  extra : Dict Json := ∅

/-- Reads the record of a page. -/
def Page.read (entries : Dict Json) : Except RecordFault Page := do
  let description ← field text "description" entries
  let title ← field text "title" entries
  return {
    title := ← present "title" title
    description := ← present "description" description
    extra := (entries.erase "title").erase "description" }

/-- The record of a page as a mapping. -/
def Page.entries (page : Page) : Dict Json :=
  (page.extra.insert "title" page.title).insert "description" page.description

/-! ## Posts -/

/-- An author of a post. -/
structure Author where
  /-- The address of a picture. -/
  avatar : Option String := none
  /-- The public name. -/
  handle : String
  /-- The name that is shown. -/
  username : String
  /-- Where the public name leads. -/
  handleUrl : String
  deriving DecidableEq, Repr, Inhabited

/-- Reads an author from a mapping. -/
def Author.ofEntries (entries : Dict Json) : Except RecordFault Author := do
  let avatar ← field optionalText "avatar" entries
  let handle ← field text "handle" entries
  let handleUrl ← field text "handleUrl" entries
  let username ← field text "username" entries
  return {
    avatar := avatar.join
    handle := ← present "handle" handle
    username := ← present "username" username
    handleUrl := ← present "handleUrl" handleUrl }

/-- The text at a place of a list that gives an author's values in order. -/
def Author.textAt (items : List Json) (place : Nat) : Except RecordFault String :=
  match items[place]? with
  | some value => text value
  | none => .error (.tooShort place "struct Author with 4 elements")

/-- Reads an author from a list of the values in order.  Even the optional one is counted when the
list is empty. -/
def Author.ofItems (items : List Json) : Except RecordFault Author := do
  let avatar ← optionalText (items.head?.getD .null)
  let handle ← Author.textAt items 1
  let username ← Author.textAt items 2
  let handleUrl ← Author.textAt items 3
  if 4 < items.length then throw (.tooLong items.length)
  return { avatar, handle, username, handleUrl }

/-- Reads an author. -/
def Author.read : Json → Except RecordFault Author
  | .object entries => Author.ofEntries (Dict.ofList entries)
  | .array items => Author.ofItems items
  | value => wrongType value "struct Author"

/-- The author as a mapping; a picture that there is not is left out. -/
def Author.toJson (author : Author) : Json :=
  let entries : List (String × Json) := [("handle", author.handle), ("username", author.username),
    ("handleUrl", author.handleUrl)]
  .ofDict (Dict.ofList
    (entries ++ (author.avatar.map fun avatar => ("avatar", Json.string avatar)).toList))

/-- The record of a post. -/
structure Post where
  title : String
  description : String
  date : Date
  authors : List Author
  deriving DecidableEq

/-- Reads the record of a post. -/
def Post.read (entries : Dict Json) : Except RecordFault Post := do
  let authors ← field (list Author.read) "authors" entries
  let date ← field Frontmatter.date "date" entries
  let description ← field text "description" entries
  let title ← field text "title" entries
  return {
    title := ← present "title" title
    description := ← present "description" description
    date := ← present "date" date
    authors := ← present "authors" authors }

/-- The record of a post as a mapping. -/
def Post.entries (post : Post) : Dict Json :=
  Dict.ofList [("title", .string post.title), ("description", .string post.description),
    ("date", .string post.date.text), ("authors", .ofList Author.toJson post.authors)]

/-! ## Kinds of records -/

/-- A kind of record that frontmatter may hold. -/
class Schema (φ : Type) where
  title : φ → String
  description : φ → String
  read : Dict Json → Except RecordFault φ
  entries : φ → Dict Json

instance : Schema Page where
  title := Page.title
  description := Page.description
  read := Page.read
  entries := Page.entries

instance : Schema Post where
  title := Post.title
  description := Post.description
  read := Post.read
  entries := Post.entries

/-- The record of a source and the cut that its body comes from. -/
structure Parsed (φ : Type) where
  record : φ
  cut : Cut

/-- Cuts a source and reads its record. -/
def parse {φ : Type} [Schema φ] (source : String) : Except FrontmatterError (Parsed φ) := do
  let extraction ← extract source
  match Schema.read extraction.value with
  | .ok record => return { record, cut := extraction.cut }
  | .error fault => throw (.mismatch fault)

end Folio.Frontmatter
