/-!
# Palettes

The colours of the bands, by call depth. A palette has at least one colour, and a depth beyond the last colour starts
again at the first.
-/

namespace DefectTrail

/-- Band colours in order, at least one. -/
structure Palette where
  colors : List String
  colors_ne_nil : colors ≠ []

namespace Palette

/-- The colour for a call depth. -/
def color (p : Palette) (depth : Nat) : String :=
  p.colors.get ⟨depth % p.colors.length, Nat.mod_lt _ (List.length_pos_iff.2 p.colors_ne_nil)⟩

/-- A palette of the given colours, unless there are none. -/
def ofColors? (colors : List String) : Option Palette :=
  if h : colors = [] then none else some ⟨colors, h⟩

/-- The palette used where none is given. -/
def default : Palette where
  colors := ["#ffffff", "#e9dddd", "#dde0eb", "#e5e8e5", "#cbc2b6", "#b8ccea", "#c1c9cd", "#a7a28f"]
  colors_ne_nil := by simp

theorem color_mem (p : Palette) (depth : Nat) : p.color depth ∈ p.colors := List.get_mem _ _

theorem getElem?_color (p : Palette) (depth : Nat) : p.colors[depth % p.colors.length]? = some (p.color depth) := by
  rw [color, List.get_eq_getElem, List.getElem?_eq_getElem]

end Palette

end DefectTrail
