import Mathlib.Tactic.Linarith
import NodeCanvas.Proofs.Gestures
/-!
# Fitting the view to the nodes

Every node is drawn in a box of its own, and the bounds of a graph are the smallest rectangle around
all boxes: they lie within a rectangle exactly if every box does (`Graph.within_iff_of_bounds`). To
fit the view is to choose the largest allowed zoom at which the bounds leave some room on each side,
and to put their center into the center of the surface. The two axes do not depend on each other,
and on each of them it is the same computation (`framed_axis`).

A zoom has a least value, so that nodes which are too far apart do not fit. If the zoom that is
needed is not below the least one, then all boxes are visible (`fitToContent_frames_nodes`).
-/

namespace NodeCanvas

/-! ## Rectangles -/

theorem Scalar.min_eq (a b : Rat) : Scalar.min a b = Min.min a b := by
  unfold Scalar.min
  split
  · rename_i h
    exact (min_eq_right h.le).symm
  · rename_i h
    exact (min_eq_left (not_lt.1 h)).symm

theorem Scalar.max_eq (a b : Rat) : Scalar.max a b = Max.max a b := by
  unfold Scalar.max
  split
  · rename_i h
    exact (max_eq_right h.le).symm
  · rename_i h
    exact (max_eq_left (not_lt.1 h)).symm

namespace Rect

/-- One rectangle lies within another. -/
structure Within (r s : Rect Rat) : Prop where
  left : s.min.x ≤ r.min.x
  top : s.min.y ≤ r.min.y
  right : r.max.x ≤ s.max.x
  bottom : r.max.y ≤ s.max.y

theorem Within.refl (r : Rect Rat) : r.Within r := ⟨le_rfl, le_rfl, le_rfl, le_rfl⟩

theorem contains_iff {r : Rect Rat} {p : Position Rat} :
    r.contains p = true ↔ (r.min.x ≤ p.x ∧ p.x ≤ r.max.x) ∧ r.min.y ≤ p.y ∧ p.y ≤ r.max.y := by
  simp only [contains, Bool.and_eq_true, decide_eq_true_eq, and_assoc]

theorem center_eq (r : Rect Rat) :
    r.center = ⟨(r.min.x + r.max.x) / 2, (r.min.y + r.max.y) / 2⟩ := by
  have hhalf : Scalar.clamp (0.5 : Rat) 0.0 1.0 = 1 / 2 := by
    norm_num [Scalar.clamp]
  have hmiddle (a b : Rat) : a + (b - a) * (1 / 2) = (a + b) / 2 := by ring
  change Position.mk (_ + _ * Scalar.clamp _ _ _) (_ + _ * Scalar.clamp _ _ _) = _
  rw [hhalf, hmiddle, hmiddle]

end Rect

/-- The rectangle in which a node is drawn: below a header there are as many rows as the fuller side
has ports. -/
def Node.box (n : Node Rat) : Rect Rat where
  min := n.position
  max := ⟨n.position.x + 200, n.position.y +
    (32 + max (22 * max n.inputs.length n.outputs.length) 40 : ℕ)⟩

theorem Node.farCorner_eq (n : Node Rat) : n.farCorner = n.box.max := by
  have hwidth : (Node.width : Rat) = 200 := by norm_num [Node.width]
  have hheight : n.height = (32 + max (22 * max n.inputs.length n.outputs.length) 40 : ℕ) := by
    change (32.0 : Rat) +
      Scalar.max (22.0 * ((max n.inputs.length n.outputs.length : ℕ) : Rat)) 40.0 = _
    rw [Scalar.max_eq]
    push_cast
    norm_num
  unfold farCorner box
  rw [hwidth, hheight]

/-! ## The bounds of a graph -/

namespace Graph

variable {r s : Rect Rat} {g : Graph Rat}

/-- A rectangle is grown as little as possible. -/
theorem within_growTo_iff {n : Node Rat} : (growTo r n).Within s ↔ r.Within s ∧ n.box.Within s := by
  unfold growTo
  rw [Node.farCorner_eq]
  simp only [Scalar.min_eq, Scalar.max_eq]
  constructor
  · rintro ⟨hleft, htop, hright, hbottom⟩
    rw [le_min_iff] at hleft htop
    rw [max_le_iff] at hright hbottom
    exact ⟨⟨hleft.1, htop.1, hright.1, hbottom.1⟩, ⟨hleft.2, htop.2, hright.2, hbottom.2⟩⟩
  · rintro ⟨hr, hn⟩
    exact ⟨le_min hr.left hn.left, le_min hr.top hn.top, max_le hr.right hn.right,
      max_le hr.bottom hn.bottom⟩

theorem within_foldl_growTo_iff {nodes : List (Node Rat)} :
    (nodes.foldl growTo r).Within s ↔ r.Within s ∧ ∀ n ∈ nodes, n.box.Within s := by
  induction nodes generalizing r with
  | nil => simp
  | cons n nodes ih =>
    rw [List.foldl_cons, ih, within_growTo_iff, List.forall_mem_cons, and_assoc]

/-- The bounds lie within a rectangle exactly if every node does. -/
theorem within_iff_of_bounds (h : g.bounds = some r) :
    r.Within s ↔ ∀ n ∈ g.nodes.values, n.box.Within s := by
  unfold bounds at h
  cases hnodes : g.nodes.values with
  | nil =>
    rw [hnodes] at h
    cases h
  | cons first rest =>
    rw [hnodes] at h
    cases h
    rw [within_foldl_growTo_iff, List.forall_mem_cons, Node.farCorner_eq]
    rfl

/-- The smallest rectangle around all nodes. -/
structure IsHull (g : Graph Rat) (r : Rect Rat) : Prop where
  encloses : ∀ n ∈ g.nodes.values, n.box.Within r
  smallest : ∀ s, (∀ n ∈ g.nodes.values, n.box.Within s) → r.Within s

theorem exists_bounds (h : g.nodes.values ≠ []) : ∃ r, g.bounds = some r ∧ g.IsHull r := by
  obtain ⟨first, rest, hnodes⟩ := List.exists_cons_of_ne_nil h
  have hbounds : g.bounds = some (rest.foldl growTo ⟨first.position, first.farCorner⟩) := by
    rw [bounds, hnodes]
  refine ⟨_, hbounds, ?_, fun s => (within_iff_of_bounds hbounds).2⟩
  exact (within_iff_of_bounds hbounds).1 (.refl _)

/-- The bounds are at least as large as a node without ports. -/
theorem IsHull.size (h : g.IsHull r) (hnodes : g.nodes.values ≠ []) :
    200 ≤ r.max.x - r.min.x ∧ 72 ≤ r.max.y - r.min.y := by
  obtain ⟨n, hn⟩ := List.exists_mem_of_ne_nil _ hnodes
  obtain ⟨hleft, htop, hright, hbottom⟩ := h.encloses n hn
  have hheight : (72 : Rat) ≤ (32 + max (22 * max n.inputs.length n.outputs.length) 40 : ℕ) := by
    have hleast : 72 ≤ 32 + max (22 * max n.inputs.length n.outputs.length) 40 := by omega
    exact_mod_cast hleast
  have hwidth : n.box.max.x = n.box.min.x + 200 := rfl
  have hbox : n.box.max.y = n.box.min.y +
      (32 + max (22 * max n.inputs.length n.outputs.length) 40 : ℕ) := rfl
  constructor <;> linarith

end Graph

/-! ## A fitted view -/

/-- On one axis: what lies within the bounds is shown with some room to both sides. -/
theorem framed_axis {low high size zoom pan a : Rat} (hzoom : 0 < zoom)
    (hfits : (high - low) * zoom ≤ size - 100) (hpan : pan = size / 2 - (low + high) / 2 * zoom)
    (hlow : low ≤ a) (hhigh : a ≤ high) : 50 ≤ a * zoom + pan ∧ a * zoom + pan ≤ size - 50 := by
  have hfirst : low * zoom ≤ a * zoom := mul_le_mul_of_nonneg_right hlow hzoom.le
  have hlast : a * zoom ≤ high * zoom := mul_le_mul_of_nonneg_right hhigh hzoom.le
  rw [hpan]
  constructor <;> linarith

namespace Viewport

variable {v : Viewport Rat} {bounds : Rect Rat}

/-- A point of the canvas is visible exactly if it is shown on the surface. -/
theorem contains_visible_iff (h : 0 < v.view.zoom) (p : Position Rat) :
    v.visible.contains p = true ↔
      (0 ≤ (v.toScreen p.x p.y).x ∧ (v.toScreen p.x p.y).x ≤ v.width) ∧
        0 ≤ (v.toScreen p.x p.y).y ∧ (v.toScreen p.x p.y).y ≤ v.height := by
  have hfrom (a pan : Rat) : (0.0 - pan) / v.view.zoom ≤ a ↔ 0 ≤ a * v.view.zoom + pan := by
    rw [div_le_iff₀ h]
    constructor <;> intro <;> linarith
  have hto (a pan size : Rat) : a ≤ (size - pan) / v.view.zoom ↔ a * v.view.zoom + pan ≤ size := by
    rw [le_div_iff₀ h]
    constructor <;> intro <;> linarith
  rw [Rect.contains_iff]
  exact and_congr (and_congr (hfrom _ _) (hto _ _ _)) (and_congr (hfrom _ _) (hto _ _ _))

/-- The zoom that a fit would choose if it were not clamped. -/
def fitRatio (v : Viewport Rat) (bounds : Rect Rat) : Rat :=
  min ((v.width - 100) / (bounds.max.x - bounds.min.x))
    ((v.height - 100) / (bounds.max.y - bounds.min.y))

/-- The surface is large enough for the padding, and the bounds have an area. -/
structure Fits (v : Viewport Rat) (bounds : Rect Rat) : Prop where
  width : 101 ≤ v.width
  height : 101 ≤ v.height
  boundsWidth : 0 < bounds.max.x - bounds.min.x
  boundsHeight : 0 < bounds.max.y - bounds.min.y

theorem Fits.fitZoom_eq (h : v.Fits bounds) :
    v.fitZoom bounds Client.fitPadding = clampZoom (v.fitRatio bounds) := by
  have hpadding : (Client.fitPadding : Rat) * 2.0 = 100 := by norm_num [Client.fitPadding]
  have hzero : (0.0 : Rat) = 0 := by norm_num
  have hone : (1.0 : Rat) = 1 := by norm_num
  have husable {size : Rat} (hsize : 101 ≤ size) : Scalar.max (size - 100) 1 = size - 100 := by
    rw [Scalar.max_eq, max_eq_left]
    linarith
  unfold fitZoom
  rw [hpadding, hzero, hone, if_pos ⟨h.boundsWidth, h.boundsHeight⟩, husable h.width,
    husable h.height]
  exact congrArg clampZoom (Scalar.min_eq _ _)

theorem Fits.fit_eq (h : v.Fits bounds) :
    (v.fit bounds Client.fitPadding).1 = { v with view :=
      ⟨clampZoom (v.fitRatio bounds),
        v.width / 2 - (bounds.min.x + bounds.max.x) / 2 * clampZoom (v.fitRatio bounds),
        v.height / 2 - (bounds.min.y + bounds.max.y) / 2 * clampZoom (v.fitRatio bounds)⟩ } := by
  have hzero : (0.0 : Rat) = 0 := by norm_num
  have htwo : (2.0 : Rat) = 2 := by norm_num
  have hsurface : ¬ (v.width ≤ 0 ∨ v.height ≤ 0) := by
    rintro (hwidth | hheight)
    · linarith [h.width]
    · linarith [h.height]
  unfold fit
  rw [hzero, htwo, if_neg hsurface, h.fitZoom_eq, Rect.center_eq]

/-- Unless it has to be raised to the least one, the zoom is small enough for the bounds on both
axes. -/
theorem Fits.mul_zoom_le (h : v.Fits bounds) (hratio : 1 / 10 ≤ v.fitRatio bounds) :
    (bounds.max.x - bounds.min.x) * clampZoom (v.fitRatio bounds) ≤ v.width - 100 ∧
      (bounds.max.y - bounds.min.y) * clampZoom (v.fitRatio bounds) ≤ v.height - 100 := by
  have hmin : (minZoom : Rat) = 1 / 10 := by norm_num [minZoom]
  have hclamp : clampZoom (v.fitRatio bounds) ≤ v.fitRatio bounds := by
    unfold clampZoom Scalar.clamp
    rw [hmin, if_neg (not_lt.2 hratio)]
    split
    · rename_i hhigh
      exact hhigh.le
    · exact le_rfl
  obtain ⟨hx, hy⟩ := le_min_iff.1 hclamp
  rw [le_div_iff₀ h.boundsWidth, mul_comm] at hx
  rw [le_div_iff₀ h.boundsHeight, mul_comm] at hy
  exact ⟨hx, hy⟩

/-- Where a rectangle of the canvas is shown on the surface. -/
def shown (v : Viewport Rat) (r : Rect Rat) : Rect Rat :=
  ⟨v.toScreen r.min.x r.min.y, v.toScreen r.max.x r.max.y⟩

/-- The viewport shows some bounds in its center. If the zoom that this needs is not below the least
one, then each of these nodes is shown with room on every side, and all of it is visible. -/
structure Frames (v : Viewport Rat) (bounds : Rect Rat) (nodes : List (Node Rat)) : Prop where
  centered : v.toScreen ((bounds.min.x + bounds.max.x) / 2) ((bounds.min.y + bounds.max.y) / 2) =
    ⟨v.width / 2, v.height / 2⟩
  framed : 1 / 10 ≤ v.fitRatio bounds → ∀ n ∈ nodes,
    (v.shown n.box).Within ⟨⟨50, 50⟩, ⟨v.width - 50, v.height - 50⟩⟩ ∧
      ∀ p, n.box.contains p = true → v.visible.contains p = true

theorem Fits.frames (h : v.Fits bounds) {nodes : List (Node Rat)}
    (hnodes : ∀ n ∈ nodes, n.box.Within bounds) :
    (v.fit bounds Client.fitPadding).1.Frames bounds nodes := by
  rw [h.fit_eq]
  have hzoom : 0 < clampZoom (v.fitRatio bounds) :=
    lt_of_lt_of_le (by norm_num [minZoom]) (clampZoom_mem (v.fitRatio bounds)).1
  constructor
  · change Position.mk (_ + (_ - _)) (_ + (_ - _)) = Position.mk _ _
    rw [add_sub_cancel, add_sub_cancel]
  · intro hratio n hn
    obtain ⟨hx, hy⟩ := h.mul_zoom_le hratio
    obtain ⟨hleft, htop, hright, hbottom⟩ := hnodes n hn
    have hboxx : n.box.min.x ≤ n.box.max.x := le_add_of_nonneg_right (by norm_num)
    have hboxy : n.box.min.y ≤ n.box.max.y := le_add_of_nonneg_right (Nat.cast_nonneg _)
    refine ⟨⟨?_, ?_, ?_, ?_⟩, fun p hp => ?_⟩
    · exact (framed_axis hzoom hx rfl hleft (hboxx.trans hright)).1
    · exact (framed_axis hzoom hy rfl htop (hboxy.trans hbottom)).1
    · exact (framed_axis hzoom hx rfl (hleft.trans hboxx) hright).2
    · exact (framed_axis hzoom hy rfl (htop.trans hboxy) hbottom).2
    · obtain ⟨⟨hpleft, hpright⟩, hptop, hpbottom⟩ := Rect.contains_iff.1 hp
      have hpx := framed_axis hzoom hx rfl (hleft.trans hpleft) (hpright.trans hright)
      have hpy := framed_axis hzoom hy rfl (htop.trans hptop) (hpbottom.trans hbottom)
      refine (contains_visible_iff hzoom p).2 ⟨⟨?_, ?_⟩, ?_, ?_⟩
      · exact le_trans (by norm_num) hpx.1
      · exact hpx.2.trans (sub_le_self _ (by norm_num))
      · exact le_trans (by norm_num) hpy.1
      · exact hpy.2.trans (sub_le_self _ (by norm_num))

end Viewport

/-! ## The main result -/

/-- **Fitting frames every node.** In exact arithmetic, let there be a node on the canvas, and let
the surface be at least 101 wide and high. Then the bounds of the graph are the smallest rectangle
around the boxes of all nodes. Fitting the view to them comes to its end, whatever the backend
answers; it puts the center of the bounds into the center of the surface; and unless the zoom for
that is below a tenth, every node is shown with 50 units to spare on each side, and so is
visible. -/
theorem fitToContent_frames_nodes {σ ε : Type} (answer : Answering Rat ε) (w : World Rat σ ε)
    (hnodes : w.canvas.graph.nodes.values ≠ []) (hwidth : 101 ≤ w.canvas.viewport.width)
    (hheight : 101 ≤ w.canvas.viewport.height) :
    ∃ bounds, w.canvas.graph.bounds = some bounds ∧ w.canvas.graph.IsHull bounds ∧
      ∃ changed w', Client.fitToContent.runWith answer.handler w = .ok (changed, w') ∧
        w'.canvas.graph = w.canvas.graph ∧
        w'.canvas.viewport.width = w.canvas.viewport.width ∧
        w'.canvas.viewport.height = w.canvas.viewport.height ∧
        w'.canvas.viewport.Frames bounds w.canvas.graph.nodes.values := by
  obtain ⟨bounds, hbounds, hhull⟩ := Graph.exists_bounds hnodes
  obtain ⟨hboundsWidth, hboundsHeight⟩ := hhull.size hnodes
  have hfits : w.canvas.viewport.Fits bounds := by
    refine ⟨hwidth, hheight, ?_, ?_⟩ <;> linarith
  have hmirrors : (Client.fitToContent : Program Rat σ Bool).Mirrors answer w _ _ :=
    Client.mirrors_fitToContent
  obtain ⟨changed, w', hrun, hviewport, hgraph, -⟩ := hmirrors.ends
  rw [hbounds] at hviewport
  change _ = (w.canvas.viewport.fit bounds Client.fitPadding).1 at hviewport
  refine ⟨bounds, hbounds, hhull, changed, w', hrun, hgraph, ?_, ?_, ?_⟩
  · rw [hviewport, hfits.fit_eq]
  · rw [hviewport, hfits.fit_eq]
  · rw [hviewport]
    exact hfits.frames hhull.encloses

/-- A canvas of three nodes far from each other, on a surface of 800 by 600. -/
def spreadWorld : LocalWorld Rat :=
  let place (g : Graph Rat) (id : NodeId) (x y : Rat) := (g.upsertNode (.fresh id "input" ⟨x, y⟩)).1
  let w := Client.freshWorld.runAt 0 (Client.setSurface 800 600)
  { w with canvas := { w.canvas with
    graph := place (place (place w.canvas.graph "a" 0 0) "b" 1200 (-300)) "c" (-250) 900 } }

/-- All three become visible. -/
theorem fitToContent_frames_nodes_spread :
    spreadWorld.canvas.graph.nodes.values.length = 3 ∧
      101 ≤ spreadWorld.canvas.viewport.width ∧ 101 ≤ spreadWorld.canvas.viewport.height ∧
      ∃ changed w', spreadWorld.run Client.fitToContent = .ok (changed, w') ∧
        ∀ n ∈ spreadWorld.canvas.graph.nodes.values, ∀ p, n.box.contains p = true →
          w'.canvas.viewport.visible.contains p = true := by
  have hlength : spreadWorld.canvas.graph.nodes.values.length = 3 := by decide +kernel
  have hwidth : 101 ≤ spreadWorld.canvas.viewport.width := by decide +kernel
  have hheight : 101 ≤ spreadWorld.canvas.viewport.height := by decide +kernel
  obtain ⟨bounds, hbounds, -, changed, w', hrun, -, hsameWidth, hsameHeight, hframes⟩ :=
    fitToContent_frames_nodes Link.answering spreadWorld (List.ne_nil_of_length_eq_add_one hlength)
      hwidth hheight
  have hratio : spreadWorld.canvas.graph.bounds.all fun bounds =>
      decide (1 / 10 ≤ spreadWorld.canvas.viewport.fitRatio bounds) := by decide +kernel
  rw [hbounds, Option.all_some, decide_eq_true_iff] at hratio
  refine ⟨hlength, hwidth, hheight, changed, w', hrun, fun n hn => (hframes.framed ?_ n hn).2⟩
  unfold Viewport.fitRatio at hratio ⊢
  rw [hsameWidth, hsameHeight]
  exact hratio

end NodeCanvas
