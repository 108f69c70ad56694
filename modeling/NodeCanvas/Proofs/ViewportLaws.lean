import NodeCanvas.Proofs.RestoredView
/-!
# The laws of the viewport

A viewport shows the canvas through `screen = canvas · zoom + pan`. In exact arithmetic this can be
undone as long as the zoom is not zero, and no sequence of calls leads there: every call clamps the
zoom that it sets (`Viewport.inRange_call`), a fit to a rectangle of any shape included.

A zoom about an anchor is `View.zoomAbout`. One after another about the same anchor they are the
last one alone (`View.zoomAbout_zoomAbout`), and to zoom to the present factor is to do nothing
(`View.zoomAbout_self`). So it does not matter whether a zoom is clamped or left out as no change,
and zooming back undoes it.
-/

namespace NodeCanvas

/-! ## Zooming about an anchor -/

namespace View

variable {v : View Rat}

theorem zoomAbout_self (h : v.zoom ≠ 0) (anchor : Rat × Rat) : v.zoomAbout v.zoom anchor = v := by
  refine eq_iff.2 ⟨rfl, ?_, ?_⟩
  · change anchor.1 - (anchor.1 - v.panX) * (v.zoom / v.zoom) = v.panX
    rw [div_self h, mul_one, sub_sub_cancel]
  · change anchor.2 - (anchor.2 - v.panY) * (v.zoom / v.zoom) = v.panY
    rw [div_self h, mul_one, sub_sub_cancel]

/-- Of two zooms about one anchor only the last counts. -/
theorem zoomAbout_zoomAbout {zoom : Rat} (hzoom : zoom ≠ 0) (last : Rat) (anchor : Rat × Rat) :
    (v.zoomAbout zoom anchor).zoomAbout last anchor = v.zoomAbout last anchor := by
  have hratio (c pan : Rat) : c - (c - (c - (c - pan) * (zoom / v.zoom))) * (last / zoom) =
      c - (c - pan) * (last / v.zoom) := by
    rw [sub_sub_cancel, mul_assoc, div_mul_div_comm, mul_comm zoom last,
      mul_div_mul_right _ _ hzoom]
  exact eq_iff.2 ⟨rfl, hratio _ _, hratio _ _⟩

/-- The canvas stays where it is under the anchor. -/
theorem under_zoomAbout {zoom : Rat} (hzoom : zoom ≠ 0) (anchor : Rat × Rat) :
    (v.zoomAbout zoom anchor).under anchor = v.under anchor := by
  have hpoint (c pan : Rat) : (c - (c - (c - pan) * (zoom / v.zoom))) / zoom =
      (c - pan) / v.zoom := by
    rw [sub_sub_cancel, mul_div_assoc, div_right_comm, div_self hzoom, mul_one_div]
  change Position.mk _ _ = Position.mk _ _
  rw [Position.mk.injEq]
  exact ⟨hpoint _ _, hpoint _ _⟩

end View

/-! ## Calls -/

/-- A call that changes a viewport. -/
inductive ViewportCall (R : Type) where
  | setZoom (factor : R) (anchor : Option (R × R))
  | zoomIn (anchor : Option (R × R))
  | zoomOut (anchor : Option (R × R))
  | panBy (dx dy : R)
  | setSurface (width height : R)
  | apply (view : View R)
  | applyUpdate (update : ViewUpdate R)
  | fit (bounds : Rect R) (padding : R)

namespace Viewport

section

variable {R : Type} [Scalar R]

def call (v : Viewport R) : ViewportCall R → Viewport R
  | .setZoom factor anchor => (v.setZoom factor anchor).1
  | .zoomIn anchor => (v.zoomIn anchor).1
  | .zoomOut anchor => (v.zoomOut anchor).1
  | .panBy dx dy => (v.panBy dx dy).1
  | .setSurface width height => v.setSurface width height
  | .apply view => (v.apply view).1
  | .applyUpdate update => (v.applyUpdate update).1
  | .fit bounds padding => (v.fit bounds padding).1

/-- The viewport after some calls, from the very first one on. -/
def ofCalls (calls : List (ViewportCall R)) : Viewport R := calls.foldl call initial

end

variable {v : Viewport Rat}

theorem inRange_initial : (initial : Viewport Rat).view.InRange := by
  change (0.1 : Rat) ≤ 1.0 ∧ (1.0 : Rat) ≤ 5.0
  norm_num

theorem inRange_setZoom (h : v.view.InRange) (factor : Rat) (anchor : Option (Rat × Rat)) :
    (v.setZoom factor anchor).1.view.InRange := by
  cases hchanged : (v.setZoom factor anchor).2 with
  | false =>
    rw [setZoom_of_same hchanged]
    exact h
  | true =>
    rw [view_setZoom_of_changed hchanged]
    exact clampZoom_mem factor

theorem inRange_panBy (h : v.view.InRange) (dx dy : Rat) : (v.panBy dx dy).1.view.InRange := by
  unfold panBy
  split <;> exact h

theorem inRange_applyUpdate (h : v.view.InRange) (update : ViewUpdate Rat) :
    (v.applyUpdate update).1.view.InRange := by
  have hzoom : (v.applyUpdate update).1.view.zoom = v.view.zoom ∨
      ∃ z, (v.applyUpdate update).1.view.zoom = clampZoom z := by
    rw [applyUpdate_eq]
    unfold ViewUpdate.onto
    cases update.zoom with
    | none => exact .inl rfl
    | some z =>
      dsimp only
      split
      · exact .inr ⟨z, rfl⟩
      · exact .inl rfl
  unfold View.InRange
  obtain hsame | ⟨z, hz⟩ := hzoom
  · rw [hsame]
    exact h
  · rw [hz]
    exact clampZoom_mem z

theorem inRange_fit (h : v.view.InRange) (bounds : Rect Rat) (padding : Rat) :
    (v.fit bounds padding).1.view.InRange := by
  unfold View.InRange
  obtain hsame | hclamped := v.zoom_fit_cases bounds padding
  · rw [hsame]
    exact h
  · rw [← hclamped]
    exact clampZoom_mem _

/-- **One call** keeps the zoom in its range. -/
theorem inRange_call (h : v.view.InRange) (call : ViewportCall Rat) :
    (v.call call).view.InRange := by
  cases call with
  | setZoom factor anchor => exact inRange_setZoom h factor anchor
  | zoomIn anchor => exact inRange_setZoom h _ _
  | zoomOut anchor => exact inRange_setZoom h _ _
  | panBy dx dy => exact inRange_panBy h dx dy
  | setSurface width height => exact h
  | apply view => exact inRange_applyUpdate h view.toUpdate
  | applyUpdate update => exact inRange_applyUpdate h update
  | fit bounds padding => exact inRange_fit h bounds padding

/-- **Any calls** do. -/
theorem inRange_ofCalls (calls : List (ViewportCall Rat)) : (ofCalls calls).view.InRange := by
  have hrun (v : Viewport Rat) (h : v.view.InRange) : (calls.foldl call v).view.InRange := by
    induction calls generalizing v with
    | nil => exact h
    | cons call calls ih => exact ih _ (inRange_call h call)
  exact hrun initial inRange_initial

/-! ## The mapping -/

theorem toScreen_toCanvas (h : v.view.zoom ≠ 0) (x y : Rat) :
    v.toScreen (v.toCanvas x y).x (v.toCanvas x y).y = ⟨x, y⟩ := by
  change Position.mk ((x - v.view.panX) / v.view.zoom * v.view.zoom + v.view.panX)
    ((y - v.view.panY) / v.view.zoom * v.view.zoom + v.view.panY) = _
  rw [div_mul_cancel₀ _ h, div_mul_cancel₀ _ h, sub_add_cancel, sub_add_cancel]

theorem toCanvas_toScreen (h : v.view.zoom ≠ 0) (x y : Rat) :
    v.toCanvas (v.toScreen x y).x (v.toScreen x y).y = ⟨x, y⟩ := by
  change Position.mk ((x * v.view.zoom + v.view.panX - v.view.panX) / v.view.zoom)
    ((y * v.view.zoom + v.view.panY - v.view.panY) / v.view.zoom) = _
  rw [add_sub_cancel_right, add_sub_cancel_right, mul_div_cancel_right₀ _ h,
    mul_div_cancel_right₀ _ h]

/-- To zoom about an anchor is the same whether or not it is left out as no change. -/
theorem setZoom_anchored (h : v.view.zoom ≠ 0) (factor : Rat) (anchor : Rat × Rat) :
    (v.setZoom factor (some anchor)).1 =
      { v with view := v.view.zoomAbout (clampZoom factor) anchor } := by
  change (if (clampZoom factor == v.view.zoom) = true then (v, false) else _ : _ × Bool).1 = _
  split
  · rename_i hsame
    rw [eq_of_beq hsame, View.zoomAbout_self h]
  · rfl

/-- What a viewport may be relied on for. -/
structure Lawful (v : Viewport Rat) : Prop where
  zoom_mem : 1 / 10 ≤ v.view.zoom ∧ v.view.zoom ≤ 5
  zoom_ne_zero : v.view.zoom ≠ 0
  /-- The two directions of the mapping are inverse to each other. -/
  toScreen_toCanvas : ∀ x y, v.toScreen (v.toCanvas x y).x (v.toCanvas x y).y = ⟨x, y⟩
  toCanvas_toScreen : ∀ x y, v.toCanvas (v.toScreen x y).x (v.toScreen x y).y = ⟨x, y⟩
  /-- A zoom leaves the point of the canvas under its anchor where it is. -/
  anchored : ∀ factor x y, (v.setZoom factor (some (x, y))).1.toCanvas x y = v.toCanvas x y
  /-- A zoom back about the same anchor undoes a zoom. -/
  undone : ∀ factor anchor,
    ((v.setZoom factor (some anchor)).1.setZoom v.view.zoom (some anchor)).1 = v

theorem lawful_of_inRange (h : v.view.InRange) : v.Lawful := by
  have hzoom : v.view.zoom ≠ 0 := h.zoom_pos.ne'
  refine ⟨?_, hzoom, toScreen_toCanvas hzoom, toCanvas_toScreen hzoom, fun factor x y => ?_,
    fun factor anchor => ?_⟩
  · have hmin : (minZoom : Rat) = 1 / 10 := by
      unfold minZoom
      norm_num
    have hmax : (maxZoom : Rat) = 5 := by
      unfold maxZoom
      norm_num
    rw [← hmin, ← hmax]
    exact h
  · rw [setZoom_anchored hzoom]
    exact View.under_zoomAbout (clampZoom_ne_zero factor) (x, y)
  · rw [setZoom_anchored hzoom, setZoom_anchored (clampZoom_ne_zero factor), clampZoom_of_mem h,
      View.zoomAbout_zoomAbout (clampZoom_ne_zero factor), View.zoomAbout_self hzoom]

end Viewport

/-! ## The main result -/

/-- **The laws of the viewport.** In exact arithmetic, after any calls from the first viewport on:
the zoom is between a tenth and five, so that no transform divides by zero; the mappings between
surface and canvas are inverse to each other; and a zoom to any factor about any anchor leaves the
point under the anchor where it is and is undone by zooming back, clamped or not. -/
theorem viewport_laws (calls : List (ViewportCall Rat)) : (Viewport.ofCalls calls).Lawful :=
  Viewport.lawful_of_inRange (Viewport.inRange_ofCalls calls)

end NodeCanvas
