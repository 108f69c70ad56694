import NodeCanvas.Scalar
import NodeCanvas.Json.Form
/-!
# Positions and rectangles

Points of the canvas are written as pairs `[x, y]`.
-/

namespace NodeCanvas

/-- A point in canvas space. -/
structure Position (R : Type) where
  x : R
  y : R
  deriving BEq, Inhabited

/-- A rectangle along the axes, given by two opposite corners. -/
structure Rect (R : Type) where
  min : Position R
  max : Position R

variable {R : Type} [Scalar R]

/-- A coordinate as a JSON number. -/
def Scalar.toJson (x : R) : Json := .ofFloat (Scalar.toFloat x)

/-- A coordinate from a JSON number. -/
def Scalar.ofJson? (value : Json) : Option R := value.float?.map Scalar.ofFloat

namespace Position

/-- The point `(0, 0)`. -/
def origin : Position R := ⟨0.0, 0.0⟩

/-- The point a fraction `t` of the way to another one; fractions outside `[0, 1]` count as its
nearer end. -/
def lerp (a b : Position R) (t : R) : Position R :=
  let t := Scalar.clamp t 0.0 1.0
  ⟨a.x + (b.x - a.x) * t, a.y + (b.y - a.y) * t⟩

instance : JsonForm (Position R) where
  ofJson?
    | .array [x, y] => do return ⟨← Scalar.ofJson? x, ← Scalar.ofJson? y⟩
    | _ => none
  toJson p := .array [Scalar.toJson p.x, Scalar.toJson p.y]

end Position

namespace Rect

def width (r : Rect R) : R := r.max.x - r.min.x

def height (r : Rect R) : R := r.max.y - r.min.y

def center (r : Rect R) : Position R := r.min.lerp r.max 0.5

def contains (r : Rect R) (p : Position R) : Bool :=
  r.min.x ≤ p.x && p.x ≤ r.max.x && r.min.y ≤ p.y && p.y ≤ r.max.y

end Rect

end NodeCanvas
