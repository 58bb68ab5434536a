import Folio.Text.Blank

/-!
# Paths

A path is a text of names with slashes between them.  `components` says where it leads, `join` and
`parent?` make paths from paths, and the last name of a path is cut at its last point into a stem
and an extension.
-/

namespace Folio.Site

/-! ## Segments -/

/-- The pieces of a text between slashes; a text without one is one piece. -/
def segments : List Char → List (List Char)
  | [] => [[]]
  | c :: cs =>
    if c = '/' then [] :: segments cs
    else
      match segments cs with
      | [] => [[c]]
      | segment :: rest => (c :: segment) :: rest

theorem segments_ne_nil (cs : List Char) : segments cs ≠ [] := by
  cases cs with
  | nil => simp [segments]
  | cons c cs =>
    unfold segments
    split
    · simp
    · split <;> simp

theorem intercalate_segments (cs : List Char) : ['/'].intercalate (segments cs) = cs := by
  induction cs with
  | nil => rfl
  | cons c cs ih =>
    unfold segments
    have hne := segments_ne_nil cs
    split
    · rename_i h
      cases hs : segments cs with
      | nil => exact absurd hs hne
      | cons s r => rw [List.intercalate_cons_cons, ← hs, ih, h]; rfl
    · split
      · rename_i hs
        exact absurd hs hne
      · rename_i s r hs
        rw [hs] at ih
        cases r with
        | nil => simpa using ih
        | cons t r =>
          rw [List.intercalate_cons_cons] at ih ⊢
          simp [← ih]

/-! ## Components -/

/-- A step of a path. -/
inductive Component where
  /-- The slash in front of an absolute path. -/
  | root
  /-- A point at the start of a path. -/
  | current
  /-- Two points: to the directory around. -/
  | parent
  | name (text : String)
  deriving DecidableEq, Repr

/-- The text of a step. -/
def Component.text : Component → String
  | .root => "/"
  | .current => "."
  | .parent => ".."
  | .name text => text

/-- The step of a segment that is not the first; an empty one and a point are none. -/
def component? (segment : List Char) : Option Component :=
  if segment = [] ∨ segment = ['.'] then none
  else if segment = ['.', '.'] then some .parent
  else some (.name (String.ofList segment))

/-- The steps of a path. -/
def components (path : String) : List Component :=
  match segments path.toList with
  | [] => []
  | first :: rest =>
    let further := rest.filterMap component?
    if first = [] then (if rest = [] then [] else .root :: further)
    else if first = ['.'] then .current :: further
    else (component? first).toList ++ further

/-- Whether a path starts at the root. -/
def isAbsolute (path : String) : Bool :=
  path.toList.head? == some '/'

/-! ## Paths from paths -/

/-- A path seen from a directory.  An absolute path stays as it is. -/
def join (base path : String) : String :=
  if isAbsolute path || base.isEmpty then path
  else if base.toList.getLast? = some '/' then base ++ path
  else base ++ "/" ++ path

/-- Segments without the ones at the end that are no steps; a point at the start is one. -/
def trimSegments : List (List Char) → List (List Char)
  | [] => []
  | first :: rest => first :: Text.dropEndWhile (fun segment => (component? segment).isNone) rest

/-- The path without its last step. -/
def parent? (path : String) : Option String :=
  match components path with
  | [] => none
  | [.root] => none
  | _ =>
    let front := trimSegments (trimSegments (segments path.toList)).dropLast
    let text := String.ofList (['/'].intercalate front)
    some (if text.isEmpty && isAbsolute path then "/" else text)

/-! ## Names -/

/-- A name cut at its last point.  A point at the start does not cut, and neither do two points that
are the whole name. -/
def splitName (name : List Char) : List Char × Option (List Char) :=
  let ext := (name.reverse.takeWhile (· != '.')).reverse
  let stem := name.take (name.length - ext.length - 1)
  if name = ['.', '.'] || stem.isEmpty || !name.contains '.' then (name, none) else (stem, some ext)

/-- A name without its extension and the point in front of that.  Where two points are left without
the extension, they are no name any more, and both stay. -/
def withoutExtension (name : List Char) : List Char :=
  match splitName name with
  | (stem, some _) => if stem = ['.'] then ['.', '.'] else stem
  | (name, none) => name

/-- The name that a path ends with. -/
def fileName? (path : String) : Option String :=
  match (components path).getLast? with
  | some (.name text) => some text
  | _ => none

/-- The extension of the name that a path ends with. -/
def extension? (path : String) : Option String := do
  let name ← fileName? path
  return String.ofList (← (splitName name.toList).2)

end Folio.Site
