import NodeCanvas.Geometry
/-!
# The viewport

A viewport maps the canvas to a surface of some size: `screen = canvas · zoom + pan`. The zoom of
every viewport that its operations reach lies between `minZoom` and `maxZoom`. Each operation
answers whether it changed the mapping.
-/

namespace NodeCanvas

/-- The part of a viewport that is saved and sent: zoom and pan. -/
structure View (R : Type) where
  zoom : R
  panX : R
  panY : R
  deriving BEq, Inhabited

/-- Values for a viewport of which any may be absent. -/
structure ViewUpdate (R : Type) where
  zoom : Option R := none
  panX : Option R := none
  panY : Option R := none
  deriving BEq, Inhabited

/-- A view onto the canvas through a surface. -/
structure Viewport (R : Type) where
  view : View R
  width : R
  height : R
  deriving Inhabited

variable {R : Type} [Scalar R]

namespace View

/-- No zoom and no pan. -/
def initial : View R := ⟨1.0, 0.0, 0.0⟩

instance : JsonForm (View R) where
  shape := .flat ["zoom", "pan_x", "pan_y"]
  ofJson? value := do
    let fields ← value.record? (.flat ["zoom", "pan_x", "pan_y"])
    return {
      zoom := ← Json.defaulted fields "zoom" 1.0 Scalar.ofJson?
      panX := ← Json.defaulted fields "pan_x" 0.0 Scalar.ofJson?
      panY := ← Json.defaulted fields "pan_y" 0.0 Scalar.ofJson? }
  toJson v := .object [("zoom", Scalar.toJson v.zoom), ("pan_x", Scalar.toJson v.panX),
    ("pan_y", Scalar.toJson v.panY)]

/-- All three values of a view, as an update. -/
def toUpdate (v : View R) : ViewUpdate R := ⟨some v.zoom, some v.panX, some v.panY⟩

end View

instance : JsonForm (ViewUpdate R) where
  shape := .flat ["zoom", "pan_x", "pan_y"]
  ofJson? value := do
    let fields ← value.record? (.flat ["zoom", "pan_x", "pan_y"])
    return {
      zoom := ← Json.optional fields "zoom" Scalar.ofJson?
      panX := ← Json.optional fields "pan_x" Scalar.ofJson?
      panY := ← Json.optional fields "pan_y" Scalar.ofJson? }
  toJson u := .object [("zoom", .ofOption Scalar.toJson u.zoom),
    ("pan_x", .ofOption Scalar.toJson u.panX), ("pan_y", .ofOption Scalar.toJson u.panY)]

def minZoom : R := 0.1
def maxZoom : R := 5.0

/-- By how much one step zooms in or out. -/
def zoomStep : R := 1.2

/-- The allowed zoom nearest to a number. -/
def clampZoom (zoom : R) : R := Scalar.clamp zoom minZoom maxZoom

namespace View

/-- The view at another zoom, moved so that the canvas point under `anchor` stays where it is. -/
def zoomAbout (v : View R) (zoom : R) (anchor : R × R) : View R :=
  let ratio := zoom / v.zoom
  ⟨zoom, anchor.1 - (anchor.1 - v.panX) * ratio, anchor.2 - (anchor.2 - v.panY) * ratio⟩

/-- The view moved by a distance on the surface. -/
def panBy (v : View R) (dx dy : R) : View R := ⟨v.zoom, v.panX + dx, v.panY + dy⟩

end View

namespace Viewport

/-- The viewport before anything is known of its surface. -/
def initial : Viewport R := ⟨.initial, 0.0, 0.0⟩

def toCanvas (v : Viewport R) (x y : R) : Position R :=
  ⟨(x - v.view.panX) / v.view.zoom, (y - v.view.panY) / v.view.zoom⟩

def toScreen (v : Viewport R) (x y : R) : Position R :=
  ⟨x * v.view.zoom + v.view.panX, y * v.view.zoom + v.view.panY⟩

/-- The middle of the surface, once it has a size. -/
def surfaceCenter (v : Viewport R) : Option (R × R) :=
  if (0.0 : R) < v.width ∧ (0.0 : R) < v.height then some (v.width / 2.0, v.height / 2.0) else none

/-- Zoom to a factor, which is clamped, about an anchor or else about the pan origin. -/
def setZoom (v : Viewport R) (zoom : R) (anchor : Option (R × R)) : Viewport R × Bool :=
  if !Scalar.isFinite zoom then (v, false)
  else
    let zoom := clampZoom zoom
    if zoom == v.view.zoom then (v, false)
    else match anchor with
      | some anchor => ({ v with view := v.view.zoomAbout zoom anchor }, true)
      | none => ({ v with view := { v.view with zoom } }, true)

def zoomIn (v : Viewport R) (anchor : Option (R × R)) : Viewport R × Bool :=
  v.setZoom (v.view.zoom * zoomStep) (anchor <|> v.surfaceCenter)

def zoomOut (v : Viewport R) (anchor : Option (R × R)) : Viewport R × Bool :=
  v.setZoom (v.view.zoom / zoomStep) (anchor <|> v.surfaceCenter)

def panBy (v : Viewport R) (dx dy : R) : Viewport R × Bool :=
  if !Scalar.isFinite dx || !Scalar.isFinite dy || (dx == 0.0 && dy == 0.0) then (v, false)
  else ({ v with view := v.view.panBy dx dy }, true)

/-- Give the surface a size; a negative one counts as zero. -/
def setSurface (v : Viewport R) (width height : R) : Viewport R :=
  { v with width := Scalar.max width 0.0, height := Scalar.max height 0.0 }

/-- Take over the values that are there and usable: a zoom has to be positive, and nothing
infinite is. -/
def applyUpdate (v : Viewport R) (update : ViewUpdate R) : Viewport R × Bool :=
  let zoom := match update.zoom with
    | some z => if Scalar.isFinite z ∧ (0.0 : R) < z then clampZoom z else v.view.zoom
    | none => v.view.zoom
  let panX := match update.panX with
    | some x => if Scalar.isFinite x then x else v.view.panX
    | none => v.view.panX
  let panY := match update.panY with
    | some y => if Scalar.isFinite y then y else v.view.panY
    | none => v.view.panY
  let view : View R := ⟨zoom, panX, panY⟩
  ({ v with view }, view != v.view)

/-- Take over a saved view. -/
def apply (v : Viewport R) (view : View R) : Viewport R × Bool := v.applyUpdate view.toUpdate

/-- The zoom at which a rectangle fills the surface up to a padding on each side. A rectangle
without area leaves the zoom as it is. -/
def fitZoom (v : Viewport R) (bounds : Rect R) (padding : R) : R :=
  if (0.0 : R) < bounds.width ∧ (0.0 : R) < bounds.height then
    let usableWidth := Scalar.max (v.width - padding * 2.0) 1.0
    let usableHeight := Scalar.max (v.height - padding * 2.0) 1.0
    clampZoom (Scalar.min (usableWidth / bounds.width) (usableHeight / bounds.height))
  else v.view.zoom

/-- Center a rectangle in the surface with a padding on every side. -/
def fit (v : Viewport R) (bounds : Rect R) (padding : R) : Viewport R × Bool :=
  if v.width ≤ (0.0 : R) ∨ v.height ≤ (0.0 : R) then (v, false)
  else
    let zoom := v.fitZoom bounds padding
    let center := bounds.center
    let view : View R :=
      ⟨zoom, v.width / 2.0 - center.x * zoom, v.height / 2.0 - center.y * zoom⟩
    ({ v with view }, view != v.view)

/-- The part of the canvas that the surface shows. -/
def visible (v : Viewport R) : Rect R := ⟨v.toCanvas 0.0 0.0, v.toCanvas v.width v.height⟩

end Viewport

end NodeCanvas
