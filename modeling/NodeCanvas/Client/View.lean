import NodeCanvas.Client.Program
import NodeCanvas.Graph.Layout
/-!
# Moving the view

The view changes here at once; the backend is told afterwards, and it does not matter if that fails.
Each operation answers whether the view changed.
-/

namespace NodeCanvas.Client

variable {R σ : Type} [Scalar R]

def setSurface (width height : R) : Program R σ Unit :=
  .atomically (Edit.onViewport fun v => (v.setSurface width height, ()))

/-- Zoom to a factor that depends on the present one. Without an anchor the pan stays as it is,
which for the backend is zooming about the pan. -/
def zoom (target : R → R) (anchor : Option (R × R)) : Program R σ Bool := do
  let zoomed ← .atomically do
    let before ← Edit.read (·.viewport.view)
    if ← Edit.onViewport (·.setZoom (target before.zoom) anchor) then
      Edit.markDirty
      let after ← Edit.read (·.viewport.view)
      return some (after, anchor.getD (before.panX, before.panY))
    else return none
  match zoomed with
  | none => return false
  | some (view, center) =>
    .tell (.viewChanged view)
    let _ ← .send (.setZoom view.zoom center)
    return true

def setZoom (factor : R) (anchor : Option (R × R)) : Program R σ Bool :=
  zoom (fun _ => factor) anchor

/-- The given anchor, or else the middle of the surface. -/
def anchorOrCenter (anchor : Option (R × R)) : Program R σ (Option (R × R)) :=
  match anchor with
  | some anchor => return some anchor
  | none => .read (·.viewport.surfaceCenter)

def zoomIn (anchor : Option (R × R)) : Program R σ Bool := do
  let anchor ← anchorOrCenter anchor
  zoom (· * zoomStep) anchor

def zoomOut (anchor : Option (R × R)) : Program R σ Bool := do
  let anchor ← anchorOrCenter anchor
  zoom (· / zoomStep) anchor

def panBy (dx dy : R) : Program R σ Bool := do
  let view ← .atomically do
    if ← Edit.onViewport (·.panBy dx dy) then
      Edit.markDirty
      return some (← Edit.read (·.viewport.view))
    else return none
  match view with
  | none => return false
  | some view =>
    .tell (.viewChanged view)
    let _ ← .send (.pan dx dy)
    return true

/-- The space left around the content when it is fitted into the surface. -/
def fitPadding : R := 50.0

/-- Tell the backend of a view that was fitted: the zoom about the old pan, then the way that is
left. -/
def reportFit (before after : View R) : Program R σ Unit := do
  let zoomed ←
    if after.zoom == before.zoom then pure true
    else do
      match ← .send (.setZoom after.zoom (before.panX, before.panY)) with
      | .ok _ => pure true
      | .error _ => pure false
  if zoomed then
    let dx := after.panX - before.panX
    let dy := after.panY - before.panY
    if dx != 0.0 || dy != 0.0 then
      let _ ← .send (.pan dx dy)

/-- Show all nodes. -/
def fitToContent : Program R σ Bool := do
  let fitted ← .atomically do
    match ← Edit.read (·.graph.bounds) with
    | none => return none
    | some bounds =>
      let before ← Edit.read (·.viewport.view)
      if ← Edit.onViewport (·.fit bounds fitPadding) then
        Edit.markDirty
        return some (before, ← Edit.read (·.viewport.view))
      else return none
  match fitted with
  | none => return false
  | some (before, after) =>
    .tell (.viewChanged after)
    reportFit before after
    return true

end NodeCanvas.Client
