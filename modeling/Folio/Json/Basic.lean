import Folio.Dict
import Folio.Number.Decimal

/-!
# JSON values

Values of the JSON data model, with integers and fractions apart, and their text.
-/

namespace Folio

open Folio.Number

/-- A JSON value.  The entries of an object are kept in the order they are given. -/
inductive Json where
  | null
  | bool (value : Bool)
  | integer (value : Int)
  | fraction (value : Decimal)
  | string (value : String)
  | array (items : List Json)
  | object (entries : List (String × Json))
  deriving Repr, Inhabited

namespace Json

/-- The object of a dictionary. -/
def ofDict (d : Dict Json) : Json :=
  .object d.entries

/-- A value, or null. -/
def ofOption {α : Type} (f : α → Json) : Option α → Json
  | some a => f a
  | none => .null

/-- The array of the images of a list. -/
def ofList {α : Type} (f : α → Json) (l : List α) : Json :=
  .array (l.map f)

instance : Coe String Json := ⟨.string⟩
instance : Coe Bool Json := ⟨.bool⟩
instance : Coe Nat Json := ⟨fun n => .integer n⟩

/-! ## Text -/

/-- Four hexadecimal digits. -/
def hexFour (n : Nat) : List Char :=
  let digits := Nat.toDigits 16 n
  List.replicate (4 - digits.length) '0' ++ digits

/-- A character inside a string. -/
def escape (c : Char) : List Char :=
  match c with
  | '"' => ['\\', '"']
  | '\\' => ['\\', '\\']
  | '\x08' => ['\\', 'b']
  | '\x0c' => ['\\', 'f']
  | '\n' => ['\\', 'n']
  | '\r' => ['\\', 'r']
  | '\t' => ['\\', 't']
  | c => if c.toNat < 0x20 then ['\\', 'u'] ++ hexFour c.toNat else [c]

/-- A string between quotes. -/
def quote (s : String) : List Char :=
  '"' :: s.toList.flatMap escape ++ ['"']

mutual

/-- The characters of a value's text. -/
def chars : Json → List Char
  | .null => "null".toList
  | .bool value => if value then "true".toList else "false".toList
  | .integer value => (toString value).toList
  | .fraction value => value.text.toList
  | .string value => quote value
  | .array [] => ['[', ']']
  | .array (item :: items) => '[' :: chars item ++ itemChars items ++ [']']
  | .object [] => ['\x7b', '\x7d']
  | .object ((name, value) :: entries) =>
    '\x7b' :: quote name ++ ':' :: chars value ++ entryChars entries ++ ['\x7d']

/-- The items after the first one. -/
def itemChars : List Json → List Char
  | [] => []
  | item :: items => ',' :: chars item ++ itemChars items

/-- The entries after the first one. -/
def entryChars : List (String × Json) → List Char
  | [] => []
  | (name, value) :: entries => ',' :: quote name ++ ':' :: chars value ++ entryChars entries

end

/-- The text of a value. -/
def text (value : Json) : String :=
  String.ofList value.chars

end Json

end Folio
