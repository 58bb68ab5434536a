import Folio.Error

/-!
# Colour themes

The themes that code can be shown in, by the two colours that plain text needs.
-/

namespace Folio

/-- A colour theme: its name, the colour behind the code, and that of plain text. -/
structure Theme where
  name : String
  background : String
  foreground : String
  deriving DecidableEq, Repr, Inhabited

namespace Theme

/-- All themes, by name in increasing order. -/
def all : List Theme := [
  ⟨"InspiredGitHub", "#ffffff", "#323232"⟩,
  ⟨"Solarized (dark)", "#002b36", "#839496"⟩,
  ⟨"Solarized (light)", "#fdf6e3", "#657b83"⟩,
  ⟨"base16-eighties.dark", "#2d2d2d", "#d3d0c8"⟩,
  ⟨"base16-mocha.dark", "#3b3228", "#d0c8c6"⟩,
  ⟨"base16-ocean.dark", "#2b303b", "#c0c5ce"⟩,
  ⟨"base16-ocean.light", "#eff1f5", "#4f5b66"⟩]

/-- The name of the theme that is used unless another one is asked for. -/
def defaultName : String := "base16-ocean.dark"

/-- The theme of a name. -/
def find (name : String) : Except CompileError Theme :=
  match all.find? (·.name == name) with
  | some theme => .ok theme
  | none => .error (.options (.unknownTheme name (all.map (·.name))))

end Theme

end Folio
