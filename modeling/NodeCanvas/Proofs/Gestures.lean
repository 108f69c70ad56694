import Mathlib.Tactic.NormNum
import NodeCanvas.Client.View
import NodeCanvas.Proofs.Backend
import NodeCanvas.Proofs.Noted
import NodeCanvas.Proofs.Repetition
import NodeCanvas.Proofs.Worlds
/-!
# Gestures and their mirror image

A user moves the view by gestures. A gesture changes the viewport here, and then asks the backend to
do the same by calls of its own kinds: a zoom about a center and a pan. `Gesture.apply` is what a
gesture does to a viewport by itself, and `Gesture.calls` what the client asks for. The operation of
the client does just these two things (`Gesture.mirrors`).

In exact arithmetic the calls carry out the gesture (`Gesture.view_apply`), whatever is clamped,
left out or split into two. So as long as all of them succeed, a backend that starts with the view
of the client has it after every gesture (`backend_mirrors_gestures`).
-/

namespace NodeCanvas

variable {R σ ε α β γ : Type} {link : Link R}

/-! ## Requests that succeed -/

/-- Every request of a run of the program is answered, not refused. -/
def Program.Granted (answer : Answering R ε) : Program R σ α → World R σ ε → Prop
  | .done _, _ => True
  | .edit body next, w =>
    (next (body w.moment w.canvas).value).Granted answer (w.after (body w.moment w.canvas))
  | .announce event next, w => next.Granted answer (w.telling event)
  | .draw body next, w =>
    (next (body.run w.ids).1).Granted answer { w with ids := (body.run w.ids).2 }
  | .request call next, w =>
    (answer call w.remote).1.isOk = true ∧
      (next (answer call w.remote).1).Granted answer { w with remote := (answer call w.remote).2 }
  | .store body next, w =>
    (next (body w.store).1).Granted answer { w with store := (body w.store).2 }
  | .abort _, _ => True

theorem Program.granted_bind {answer : Answering R ε} {program : Program R σ α}
    {f : α → Program R σ β} {w : World R σ ε} :
    (program >>= f).Granted answer w ↔
      program.Granted answer w ∧ ∀ a w', program.runWith answer.handler w = .ok (a, w') →
        (f a).Granted answer w' := by
  change (program.bind f).Granted answer w ↔ _
  induction program generalizing w with
  | done value =>
    constructor
    · intro h
      refine ⟨trivial, fun a w' hrun => ?_⟩
      cases hrun
      exact h
    · intro h
      exact h.2 value w rfl
  | edit body next ih => exact ih _
  | announce event next ih => exact ih
  | draw body next ih => exact ih _
  | request call next ih =>
    change _ ∧ ((next _).bind f).Granted _ _ ↔ (_ ∧ _) ∧ _
    rw [ih, and_assoc]
    rfl
  | store body next ih => exact ih _
  | abort fault =>
    refine ⟨fun _ => ⟨trivial, fun a w' hrun => ?_⟩, fun _ => trivial⟩
    cases hrun

/-! ## What the backend is asked for -/

/-- A request about the view. -/
inductive ViewCall (R : Type) where
  | zoom (factor : R) (center : R × R)
  | pan (dx dy : R)
  deriving DecidableEq

def ViewCall.request : ViewCall R → Request R
  | .zoom factor center => .setZoom factor center
  | .pan dx dy => .pan dx dy

namespace Answering

/-- The far side after some calls. -/
def after (answer : Answering R ε) (remote : ε) (calls : List (ViewCall R)) : ε :=
  calls.foldl (fun remote call => (answer call.request remote).2) remote

/-- The calls succeed, one after the other. -/
def Grants (answer : Answering R ε) : ε → List (ViewCall R) → Prop
  | _, [] => True
  | remote, call :: calls =>
    (answer call.request remote).1.isOk = true ∧ answer.Grants (answer call.request remote).2 calls

theorem after_append (answer : Answering R ε) (remote : ε) (calls later : List (ViewCall R)) :
    answer.after remote (calls ++ later) = answer.after (answer.after remote calls) later :=
  List.foldl_append

theorem grants_append {answer : Answering R ε} {remote : ε} {calls later : List (ViewCall R)} :
    answer.Grants remote (calls ++ later) ↔
      answer.Grants remote calls ∧ answer.Grants (answer.after remote calls) later := by
  induction calls generalizing remote with
  | nil => exact ⟨fun h => ⟨trivial, h⟩, fun h => h.2⟩
  | cons call calls ih =>
    change _ ∧ answer.Grants _ (calls ++ later) ↔ (_ ∧ answer.Grants _ calls) ∧ _
    rw [ih, and_assoc]
    rfl

end Answering

/-! ## Gestures -/

/-- What a user does with the view. -/
inductive Gesture (R : Type) where
  | setSurface (width height : R)
  | setZoom (factor : R) (anchor : Option (R × R))
  | zoomIn (anchor : Option (R × R))
  | zoomOut (anchor : Option (R × R))
  | panBy (dx dy : R)
  | fitToContent

variable [Scalar R]

/-- What a view becomes by a call. -/
def View.obey (v : View R) : ViewCall R → View R
  | .zoom factor center => v.zoomAbout (clampZoom factor) center
  | .pan dx dy => v.panBy dx dy

namespace Gesture

/-- The operation of a client for a gesture. -/
def program : Gesture R → Program R σ Unit
  | .setSurface width height => Client.setSurface width height
  | .setZoom factor anchor => do let _ ← Client.setZoom factor anchor
  | .zoomIn anchor => do let _ ← Client.zoomIn anchor
  | .zoomOut anchor => do let _ ← Client.zoomOut anchor
  | .panBy dx dy => do let _ ← Client.panBy dx dy
  | .fitToContent => do let _ ← Client.fitToContent (R := R)

/-- What a gesture makes of a viewport by itself, if the nodes lie within some bounds. -/
def apply (bounds : Option (Rect R)) (v : Viewport R) : Gesture R → Viewport R
  | .setSurface width height => v.setSurface width height
  | .setZoom factor anchor => (v.setZoom factor anchor).1
  | .zoomIn anchor => (v.zoomIn anchor).1
  | .zoomOut anchor => (v.zoomOut anchor).1
  | .panBy dx dy => (v.panBy dx dy).1
  | .fitToContent =>
    match bounds with
    | none => v
    | some bounds => (v.fit bounds Client.fitPadding).1

/-- What the backend is asked for when a viewport is zoomed: nothing if that is no change. -/
def zoomCalls (v : Viewport R) (factor : R) (anchor : Option (R × R)) : List (ViewCall R) :=
  if (v.setZoom factor anchor).2 then
    [.zoom (v.setZoom factor anchor).1.view.zoom (anchor.getD (v.view.panX, v.view.panY))]
  else []

/-- What it is asked for when a view is replaced: the zoom about the old pan, then the way that is
left. -/
def fitCalls (before after : View R) : List (ViewCall R) :=
  let zoom : List (ViewCall R) :=
    if after.zoom == before.zoom then [] else [.zoom after.zoom (before.panX, before.panY)]
  let dx := after.panX - before.panX
  let dy := after.panY - before.panY
  zoom ++ if dx != 0.0 || dy != 0.0 then [.pan dx dy] else []

/-- What the backend is asked for by a gesture. -/
def calls (bounds : Option (Rect R)) (v : Viewport R) : Gesture R → List (ViewCall R)
  | .setSurface _ _ => []
  | .setZoom factor anchor => zoomCalls v factor anchor
  | .zoomIn anchor => zoomCalls v (v.view.zoom * zoomStep) (anchor <|> v.surfaceCenter)
  | .zoomOut anchor => zoomCalls v (v.view.zoom / zoomStep) (anchor <|> v.surfaceCenter)
  | .panBy dx dy => if (v.panBy dx dy).2 then [.pan dx dy] else []
  | .fitToContent =>
    match bounds with
    | none => []
    | some bounds =>
      if (v.fit bounds Client.fitPadding).2 then
        fitCalls v.view (v.fit bounds Client.fitPadding).1.view
      else []

/-- Gestures one after the other. -/
def perform : List (Gesture R) → Program R σ Unit
  | [] => return
  | gesture :: gestures => do
    gesture.program
    perform gestures

def applyAll (bounds : Option (Rect R)) (v : Viewport R) (gestures : List (Gesture R)) :
    Viewport R :=
  gestures.foldl (apply bounds) v

def callsAll (bounds : Option (Rect R)) (v : Viewport R) : List (Gesture R) → List (ViewCall R)
  | [] => []
  | gesture :: gestures =>
    gesture.calls bounds v ++ callsAll bounds (gesture.apply bounds v) gestures

theorem callsAll_append (bounds : Option (Rect R)) (v : Viewport R)
    (gestures later : List (Gesture R)) :
    callsAll bounds v (gestures ++ later) =
      callsAll bounds v gestures ++ callsAll bounds (applyAll bounds v gestures) later := by
  induction gestures generalizing v with
  | nil => rfl
  | cons gesture gestures ih =>
    rw [List.cons_append, callsAll, callsAll, ih, List.append_assoc]
    rfl

end Gesture

/-! ## What the client does -/

omit [Scalar R] in
theorem Edit.exists_moving (f : Viewport R → Viewport R × Bool) (answered : View R → β) (m : Moment)
    (c : Canvas R) :
    ∃ saving told, Edit.moving f answered m c =
      ⟨if (f c.viewport).2 then some (answered (f c.viewport).1.view) else none,
        { c with viewport := (f c.viewport).1, saving }, told⟩ := by
  let moved : Canvas R := { c with viewport := (f c.viewport).1 }
  have hsplit : moving f answered m c = (if (f c.viewport).2 then do
      markDirty
      return some (answered (← Edit.read (·.viewport.view))) else pure none :
        Edit R (Option β)) m moved := rfl
  rw [hsplit]
  cases (f c.viewport).2 with
  | false => exact ⟨c.saving, [], rfl⟩
  | true =>
    obtain ⟨saving, hsaving⟩ := Edit.saves_markDirty m moved
    refine ⟨saving, (Edit.markDirty m moved).events ++ [], ?_⟩
    change Outcome.mk (some (answered (markDirty m moved).canvas.viewport.view))
      (markDirty m moved).canvas _ = _
    rw [hsaving]
    rfl

namespace Program

variable {viewport : Viewport R} {calls : List (ViewCall R)}

/-- The program moves the viewport and makes calls: it ends with a viewport as told and the same
graph, nothing is refused exactly if the calls succeed, and then they are what was asked for. -/
structure Mirrors (answer : Answering R ε) (w : World R σ ε) (viewport : Viewport R)
    (calls : List (ViewCall R)) (program : Program R σ α) : Prop where
  ends : program.Ends answer.handler w fun _ w' =>
    w'.canvas.viewport = viewport ∧ w'.canvas.graph = w.canvas.graph ∧
      (answer.Grants w.remote calls → w'.remote = answer.after w.remote calls)
  granted_iff : program.Granted answer w ↔ answer.Grants w.remote calls

variable {answer : Answering R ε} {w : World R σ ε}

omit [Scalar R] in
theorem mirrors_pure (a : α) : (pure a : Program R σ α).Mirrors answer w w.canvas.viewport [] where
  ends := ends_pure.2 ⟨rfl, rfl, fun _ => rfl⟩
  granted_iff := Iff.rfl

omit [Scalar R] in
/-- What is done with the value does not matter. -/
theorem Mirrors.map {program : Program R σ α}
    (h : program.Mirrors answer w viewport calls) (g : α → β) :
    (program >>= fun a => pure (g a)).Mirrors answer w viewport calls where
  ends := ends_bind.2 (h.ends.mono fun _ _ hpost => ends_pure.2 hpost)
  granted_iff := by
    rw [granted_bind, ← h.granted_iff]
    exact and_iff_left fun _ _ _ => trivial

omit [Scalar R] in
/-- Subscribers are told, and the backend is asked for one thing. -/
theorem mirrors_call (event : Event R) (call : ViewCall R) (a : α) :
    (do
      tell event
      let _ ← send call.request
      return a : Program R σ α).Mirrors answer w w.canvas.viewport [call] where
  ends := ⟨_, _, rfl, rfl, rfl, fun _ => rfl⟩
  granted_iff := Iff.rfl

omit [Scalar R] in
/-- A section may look at the canvas first. -/
theorem mirrors_read {f : Canvas R → β} {g : β → Edit R γ} {next : γ → Program R σ α}
    (h : (.atomically (g (f w.canvas)) >>= next : Program R σ α).Mirrors answer w viewport calls) :
    (.atomically (Edit.read f >>= g) >>= next : Program R σ α).Mirrors answer w viewport calls :=
  ⟨h.ends, h.granted_iff⟩

omit [Scalar R] in
theorem mirrors_bind_read {f : Canvas R → β} {next : β → Program R σ α}
    (h : (next (f w.canvas)).Mirrors answer w viewport calls) :
    (read f >>= next : Program R σ α).Mirrors answer w viewport calls := by
  have hsame : w.after (Edit.read f w.moment w.canvas) = w := by
    simp [World.after, Edit.read]
  refine ⟨ends_bind.2 (ends_read.2 h.ends), ?_⟩
  change (next (f w.canvas)).Granted answer (w.after (Edit.read f w.moment w.canvas)) ↔ _
  rw [hsame]
  exact h.granted_iff

omit [Scalar R] in
/-- A section that moves the viewport, with the calls that its answer asks for. -/
theorem mirrors_moving (f : Viewport R → Viewport R × Bool) (answered : View R → β)
    (calls : β → List (ViewCall R)) {body : Edit R (Option β)} {next : Option β → Program R σ α}
    (hbody : body w.moment w.canvas = Edit.moving f answered w.moment w.canvas)
    (hnone : ∃ a, next none = pure a)
    (hsome : ∀ b (w' : World R σ ε),
      (next (some b)).Mirrors answer w' w'.canvas.viewport (calls b)) :
    (.atomically body >>= next : Program R σ α).Mirrors answer w (f w.canvas.viewport).1
      (if (f w.canvas.viewport).2 then calls (answered (f w.canvas.viewport).1.view) else []) := by
  obtain ⟨saving, told, hmoving⟩ := Edit.exists_moving f answered w.moment w.canvas
  rw [hmoving] at hbody
  have hnext : (next (body w.moment w.canvas).value).Mirrors answer
      (w.after (body w.moment w.canvas)) (f w.canvas.viewport).1
      (if (f w.canvas.viewport).2 then calls (answered (f w.canvas.viewport).1.view) else []) := by
    rw [hbody]
    cases (f w.canvas.viewport).2 with
    | false =>
      obtain ⟨a, hnone⟩ := hnone
      change (next none).Mirrors _ _ _ _
      rw [hnone]
      exact mirrors_pure a
    | true => exact hsome _ _
  obtain ⟨hends, hgranted⟩ := hnext
  refine ⟨ends_bind.2 (ends_atomically.2 (hends.mono fun _ w' hpost => ?_)), hgranted⟩
  obtain ⟨hviewport, hgraph, hremote⟩ := hpost
  refine ⟨hviewport, hgraph.trans ?_, hremote⟩
  rw [hbody]
  rfl

end Program

namespace Client

open Program

variable {answer : Answering R ε} {w : World R σ ε}

theorem mirrors_zoom (target : R → R) (anchor : Option (R × R)) :
    (zoom target anchor : Program R σ Bool).Mirrors answer w
      (w.canvas.viewport.setZoom (target w.canvas.viewport.view.zoom) anchor).1
      (Gesture.zoomCalls w.canvas.viewport (target w.canvas.viewport.view.zoom) anchor) := by
  let before := w.canvas.viewport.view
  refine mirrors_moving (·.setZoom (target before.zoom) anchor)
    (fun after => (after, anchor.getD (before.panX, before.panY)))
    (fun zoomed => [.zoom zoomed.1.zoom zoomed.2]) rfl ⟨false, rfl⟩ ?_
  rintro ⟨view, center⟩ w'
  exact mirrors_call (.viewChanged view) (.zoom view.zoom center) true

theorem mirrors_panBy (dx dy : R) :
    (panBy dx dy : Program R σ Bool).Mirrors answer w (w.canvas.viewport.panBy dx dy).1
      (if (w.canvas.viewport.panBy dx dy).2 then [.pan dx dy] else []) :=
  mirrors_moving (·.panBy dx dy) id (fun _ => [.pan dx dy]) rfl ⟨false, rfl⟩ fun view _ =>
    mirrors_call (.viewChanged view) (.pan dx dy) true

/-- The pan, unless there is none. -/
theorem mirrors_rest (dx dy : R) :
    (do if dx != 0.0 || dy != 0.0 then let _ ← send (.pan dx dy) : Program R σ Unit).Mirrors answer
      w w.canvas.viewport (if dx != 0.0 || dy != 0.0 then [.pan dx dy] else []) := by
  cases dx != 0.0 || dy != 0.0 with
  | false => exact mirrors_pure ()
  | true => exact ⟨⟨_, _, rfl, rfl, rfl, fun _ => rfl⟩, Iff.rfl⟩

/-- The zoom, unless there is none, and then the pan, unless the zoom was refused. -/
theorem mirrors_reportFit (before after : View R) :
    (reportFit before after : Program R σ Unit).Mirrors answer w w.canvas.viewport
      (Gesture.fitCalls before after) := by
  let dx := after.panX - before.panX
  let dy := after.panY - before.panY
  have hrest (w : World R σ ε) : Program.Mirrors answer w w.canvas.viewport
      (if dx != 0.0 || dy != 0.0 then [.pan dx dy] else [])
      (do if dx != 0.0 || dy != 0.0 then let _ ← send (.pan dx dy) : Program R σ Unit) :=
    mirrors_rest dx dy
  unfold reportFit Gesture.fitCalls
  cases after.zoom == before.zoom with
  | true => exact ⟨(hrest w).ends, (hrest w).granted_iff⟩
  | false =>
    let zoomed := answer (.setZoom after.zoom (before.panX, before.panY)) w.remote
    have hrest := hrest { w with remote := zoomed.2 }
    constructor
    · refine ends_bind.2 (ends_send.2 ?_)
      -- If the zoom is refused there is no pan; but then the calls do not all succeed.
      cases hreply : zoomed.1 with
      | ok reply =>
        refine ends_bind.2 (ends_pure.2 (hrest.ends.mono fun _ w' hpost => ?_))
        obtain ⟨hviewport, hgraph, hremote⟩ := hpost
        exact ⟨hviewport, hgraph, fun hgrants => hremote hgrants.2⟩
      | error cause =>
        refine ends_bind.2 (ends_pure.2 (ends_pure.2 ⟨rfl, rfl, fun hgrants => ?_⟩))
        have hok : zoomed.1.isOk = true := hgrants.1
        rw [hreply] at hok
        cases hok
    · refine and_congr_right fun hok => Iff.trans ?_ hrest.granted_iff
      cases hreply : zoomed.1 with
      | ok reply => rfl
      | error cause =>
        change zoomed.1.isOk = true at hok
        rw [hreply] at hok
        cases hok

theorem mirrors_fitToContent :
    (fitToContent : Program R σ Bool).Mirrors answer w
      (Gesture.fitToContent.apply w.canvas.graph.bounds w.canvas.viewport)
      (Gesture.fitToContent.calls w.canvas.graph.bounds w.canvas.viewport) := by
  refine mirrors_read ?_
  cases w.canvas.graph.bounds with
  | none => exact ⟨⟨_, _, rfl, rfl, rfl, fun _ => rfl⟩, Iff.rfl⟩
  | some bounds =>
    refine mirrors_moving (·.fit bounds fitPadding) (fun after => (w.canvas.viewport.view, after))
      (fun fitted => Gesture.fitCalls fitted.1 fitted.2) rfl ⟨false, rfl⟩ ?_
    rintro ⟨before, after⟩ w'
    have hreport : (reportFit before after : Program R σ Unit).Mirrors answer
        (w'.telling (.viewChanged after)) w'.canvas.viewport (Gesture.fitCalls before after) :=
      mirrors_reportFit before after
    exact ⟨(hreport.map fun _ => true).ends, (hreport.map fun _ => true).granted_iff⟩

/-- Zooming by a step, about the middle of the surface if there is no anchor. -/
theorem mirrors_zoomStep (target : R → R) (anchor : Option (R × R)) :
    (anchorOrCenter anchor >>= zoom target : Program R σ Bool).Mirrors answer w
      (w.canvas.viewport.setZoom (target w.canvas.viewport.view.zoom)
        (anchor <|> w.canvas.viewport.surfaceCenter)).1
      (Gesture.zoomCalls w.canvas.viewport (target w.canvas.viewport.view.zoom)
        (anchor <|> w.canvas.viewport.surfaceCenter)) := by
  cases anchor with
  | none => exact mirrors_bind_read (mirrors_zoom target w.canvas.viewport.surfaceCenter)
  | some anchor => exact mirrors_zoom target (some anchor)

end Client

namespace Gesture

open Program Client

variable {answer : Answering R ε} {w : World R σ ε}

/-- **An operation of the client carries out its gesture and makes the calls for it.** -/
theorem mirrors (gesture : Gesture R) :
    (gesture.program : Program R σ Unit).Mirrors answer w
      (gesture.apply w.canvas.graph.bounds w.canvas.viewport)
      (gesture.calls w.canvas.graph.bounds w.canvas.viewport) := by
  cases gesture with
  | setSurface width height => exact ⟨⟨_, _, rfl, rfl, rfl, fun _ => rfl⟩, Iff.rfl⟩
  | setZoom factor anchor => exact (mirrors_zoom (fun _ => factor) anchor).map _
  | zoomIn anchor => exact (mirrors_zoomStep (· * zoomStep) anchor).map _
  | zoomOut anchor => exact (mirrors_zoomStep (· / zoomStep) anchor).map _
  | panBy dx dy => exact (mirrors_panBy dx dy).map _
  | fitToContent => exact mirrors_fitToContent.map _

/-- The same of gestures one after the other. -/
theorem mirrors_perform (gestures : List (Gesture R)) :
    (perform gestures : Program R σ Unit).Mirrors answer w
      (applyAll w.canvas.graph.bounds w.canvas.viewport gestures)
      (callsAll w.canvas.graph.bounds w.canvas.viewport gestures) := by
  induction gestures generalizing w with
  | nil => exact mirrors_pure ()
  | cons gesture gestures ih =>
    have hfirst : (gesture.program : Program R σ Unit).Mirrors answer w
        (gesture.apply w.canvas.graph.bounds w.canvas.viewport)
        (gesture.calls w.canvas.graph.bounds w.canvas.viewport) := mirrors gesture
    obtain ⟨_, w₁, hrun, hviewport, hgraph, hremote⟩ := hfirst.ends
    -- The bounds of the graph are those from the start: no gesture changes the graph.
    have hlater := ih (w := w₁)
    rw [hviewport, hgraph] at hlater
    constructor
    · refine ends_bind.2 ⟨(), w₁, hrun, hlater.ends.mono fun _ w' hpost => ?_⟩
      obtain ⟨hviewport', hgraph', hremote'⟩ := hpost
      refine ⟨hviewport', hgraph'.trans hgraph, fun hgrants => ?_⟩
      obtain ⟨hgrants, hgrants'⟩ := Answering.grants_append.1 hgrants
      rw [← hremote hgrants] at hgrants'
      rw [callsAll, Answering.after_append, ← hremote hgrants]
      exact hremote' hgrants'
    · change (gesture.program >>= fun _ => perform gestures).Granted answer w ↔ _
      rw [granted_bind, callsAll, Answering.grants_append, hfirst.granted_iff]
      refine and_congr_right fun hgrants => ?_
      rw [← hremote hgrants, ← hlater.granted_iff]
      refine ⟨fun hrest => hrest () w₁ hrun, fun hrest a w' hrun' => ?_⟩
      rw [hrun] at hrun'
      cases hrun'
      exact hrest

end Gesture

/-! ## Exact arithmetic -/

theorem clampZoom_mem (z : Rat) : minZoom ≤ clampZoom z ∧ clampZoom z ≤ maxZoom := by
  unfold clampZoom Scalar.clamp
  have hbounds : (minZoom : Rat) ≤ maxZoom := by
    unfold minZoom maxZoom
    norm_num
  split
  · exact ⟨le_rfl, hbounds⟩
  · rename_i hlow
    split
    · exact ⟨hbounds, le_rfl⟩
    · rename_i hhigh
      exact ⟨not_lt.1 hlow, not_lt.1 hhigh⟩

theorem clampZoom_of_mem {z : Rat} (h : minZoom ≤ z ∧ z ≤ maxZoom) : clampZoom z = z := by
  unfold clampZoom Scalar.clamp
  rw [if_neg (not_lt.2 h.1), if_neg (not_lt.2 h.2)]

theorem View.zoomAbout_pan (v : View Rat) (zoom : Rat) :
    v.zoomAbout zoom (v.panX, v.panY) = { v with zoom } := by
  simp [zoomAbout]

theorem Viewport.view_setZoom_of_changed {v : Viewport Rat} {factor : Rat}
    {anchor : Option (Rat × Rat)} (h : (v.setZoom factor anchor).2 = true) :
    (v.setZoom factor anchor).1.view =
      v.view.zoomAbout (clampZoom factor) (anchor.getD (v.view.panX, v.view.panY)) := by
  unfold setZoom at h ⊢
  have hfinite : ¬ (!Scalar.isFinite factor) = true := Bool.false_ne_true
  rw [if_neg hfinite] at h ⊢
  dsimp only at h ⊢
  cases hsame : clampZoom factor == v.view.zoom with
  | true =>
    rw [hsame] at h
    cases h
  | false =>
    cases anchor with
    | none => exact (v.view.zoomAbout_pan _).symm
    | some anchor => rfl

theorem Viewport.view_panBy_of_changed {v : Viewport Rat} {dx dy : Rat}
    (h : (v.panBy dx dy).2 = true) :
    (v.panBy dx dy).1.view = v.view.panBy dx dy := by
  unfold panBy at h ⊢
  split
  · rename_i hnone
    rw [if_pos hnone] at h
    cases h
  · rfl

/-- A fitted viewport keeps its zoom, or has one that is not clamped any further. -/
theorem Viewport.zoom_fit_cases (v : Viewport Rat) (bounds : Rect Rat) (padding : Rat) :
    (v.fit bounds padding).1.view.zoom = v.view.zoom ∨
      clampZoom (v.fit bounds padding).1.view.zoom = (v.fit bounds padding).1.view.zoom := by
  unfold fit
  split
  · exact .inl rfl
  · dsimp only
    unfold fitZoom
    split
    · exact .inr (clampZoom_of_mem (clampZoom_mem _))
    · exact .inl rfl

/-- Where comparison is lawful, views that are alike are the same. -/
theorem View.Alike.eq_of_lawful {R : Type} [BEq R] [LawfulBEq R] {v v' : View R} (h : v.Alike v') :
    v = v' := by
  obtain rfl | heq := h
  · rfl
  · obtain ⟨hzoom, hpanX, hpanY⟩ := View.beq_iff.1 heq
    obtain ⟨zoom, panX, panY⟩ := v
    obtain rfl := eq_of_beq hzoom
    obtain rfl := eq_of_beq hpanX
    obtain rfl := eq_of_beq hpanY
    rfl

namespace Gesture

theorem view_setZoom (v : Viewport Rat) (factor : Rat) (anchor : Option (Rat × Rat)) :
    (v.setZoom factor anchor).1.view = (zoomCalls v factor anchor).foldl View.obey v.view := by
  unfold zoomCalls
  cases hchanged : (v.setZoom factor anchor).2 with
  | false => rw [Viewport.setZoom_of_same hchanged]; rfl
  | true =>
    have hview := Viewport.view_setZoom_of_changed hchanged
    have hzoom : (v.setZoom factor anchor).1.view.zoom = clampZoom factor := by rw [hview]; rfl
    change _ = v.view.zoomAbout (clampZoom (v.setZoom factor anchor).1.view.zoom) _
    rw [hzoom, clampZoom_of_mem (clampZoom_mem _), hview]

theorem view_panBy (v : Viewport Rat) (dx dy : Rat) :
    (v.panBy dx dy).1.view =
      (if (v.panBy dx dy).2 then [ViewCall.pan dx dy] else []).foldl View.obey v.view := by
  cases hchanged : (v.panBy dx dy).2 with
  | false =>
    rw [Viewport.panBy_of_same hchanged]
    rfl
  | true => exact Viewport.view_panBy_of_changed hchanged

/-- The zoom about the old pan leaves the pan alone, so that what is left is the way between the
two. -/
theorem view_fitCalls {before after : View Rat}
    (h : after.zoom = before.zoom ∨ clampZoom after.zoom = after.zoom) :
    (fitCalls before after).foldl View.obey before = after := by
  let zoom : List (ViewCall Rat) :=
    if after.zoom == before.zoom then [] else [.zoom after.zoom (before.panX, before.panY)]
  have hzoomed : zoom.foldl View.obey before = { before with zoom := after.zoom } := by
    cases hsame : after.zoom == before.zoom with
    | true => simp [zoom, eq_of_beq hsame]
    | false =>
      -- The backend clamps again, which does nothing to a zoom that was clamped here.
      have hclamped := h.resolve_left (beq_eq_false_iff_ne.1 hsame)
      simp [zoom, hsame, View.obey, hclamped, View.zoomAbout_pan]
  unfold fitCalls
  rw [List.foldl_append, hzoomed]
  cases hmoved : after.panX - before.panX != 0.0 || after.panY - before.panY != 0.0 with
  | false =>
    rw [Bool.or_eq_false_iff, bne_eq_false_iff_eq, bne_eq_false_iff_eq] at hmoved
    have hx : after.panX = before.panX := sub_eq_zero.1 (hmoved.1.trans (by norm_num))
    have hy : after.panY = before.panY := sub_eq_zero.1 (hmoved.2.trans (by norm_num))
    change View.mk after.zoom before.panX before.panY = after
    rw [← hx, ← hy]
  | true => simp [View.obey, View.panBy]

theorem view_fit (v : Viewport Rat) (bounds : Rect Rat) (padding : Rat) :
    (v.fit bounds padding).1.view =
      (if (v.fit bounds padding).2 then fitCalls v.view (v.fit bounds padding).1.view
        else []).foldl View.obey v.view := by
  cases hchanged : (v.fit bounds padding).2 with
  | false => exact (Viewport.fit_alike hchanged).eq_of_lawful.symm
  | true => exact (view_fitCalls (v.zoom_fit_cases bounds padding)).symm

/-- **The calls carry out the gesture.** -/
theorem view_apply (bounds : Option (Rect Rat)) (v : Viewport Rat) (gesture : Gesture Rat) :
    (gesture.apply bounds v).view = (gesture.calls bounds v).foldl View.obey v.view := by
  cases gesture with
  | setSurface width height => rfl
  | setZoom factor anchor => exact view_setZoom v factor anchor
  | zoomIn anchor => exact view_setZoom v _ _
  | zoomOut anchor => exact view_setZoom v _ _
  | panBy dx dy => exact view_panBy v dx dy
  | fitToContent =>
    cases bounds with
    | none => rfl
    | some bounds => exact view_fit v bounds _

theorem view_applyAll (bounds : Option (Rect Rat)) (v : Viewport Rat)
    (gestures : List (Gesture Rat)) :
    (applyAll bounds v gestures).view = (callsAll bounds v gestures).foldl View.obey v.view := by
  induction gestures generalizing v with
  | nil => rfl
  | cons gesture gestures ih =>
    rw [callsAll, List.foldl_append, ← view_apply]
    exact ih (gesture.apply bounds v)

end Gesture

/-! ## The backend -/

/-- A call that succeeds is obeyed. -/
theorem Link.view_answer {call : ViewCall R} (h : (link.answer call.request).1.isOk = true) :
    (link.answer call.request).2.backend.view = link.backend.view.obey call := by
  obtain ⟨cause, b', hanswer, -⟩ | ⟨done, hperform, hanswer, -⟩ := link.answer_cases call.request
  · rw [hanswer] at h
    cases h
  · rw [hanswer]
    cases call with
    | zoom factor center =>
      cases hperform
      rfl
    | pan dx dy =>
      cases hperform
      rfl

theorem Link.view_after {calls : List (ViewCall R)} (h : Link.answering.Grants link calls) :
    (Link.answering.after link calls).backend.view = calls.foldl View.obey link.backend.view := by
  induction calls generalizing link with
  | nil => rfl
  | cons call calls ih =>
    refine (ih h.2).trans ?_
    rw [List.foldl_cons, ← Link.view_answer h.1]
    rfl

/-- A link that refuses nothing grants every call. -/
theorem Link.grants_of_failures (h : link.backend.failures = [])
    (calls : List (ViewCall R)) : Link.answering.Grants link calls := by
  have hanswer (link : Link R) (h : link.backend.failures = []) (call : ViewCall R) :
      (link.answer call.request).1.isOk = true ∧
        (link.answer call.request).2.backend.failures = [] := by
    unfold Link.answer Backend.answer Backend.record
    rw [h]
    cases call <;> exact ⟨rfl, rfl⟩
  induction calls generalizing link with
  | nil => trivial
  | cons call calls ih => exact ⟨(hanswer link h call).1, ih (hanswer link h call).2⟩

/-- **The backend mirrors gestures exactly.** In exact arithmetic, let a client and its backend have
the same view, whatever the graph, the size of the surface and the state of the rest. Let the client
perform gestures of which no request is refused, while nothing that the backend announces is
delivered. Then after each of them the viewport is what the gestures make of it by themselves, and
the backend has the view of the client. -/
theorem backend_mirrors_gestures {w : LocalWorld Rat}
    (hview : w.remote.backend.view = w.canvas.viewport.view) (gestures : List (Gesture Rat))
    (hgranted : (Gesture.perform gestures).Granted Link.answering w) :
    ∀ performed, performed <+: gestures → ∃ w', w.run (Gesture.perform performed) = .ok ((), w') ∧
      w'.canvas.viewport =
        Gesture.applyAll w.canvas.graph.bounds w.canvas.viewport performed ∧
      w'.remote.backend.view = w'.canvas.viewport.view := by
  rintro performed ⟨later, rfl⟩
  have hgrants := (Gesture.mirrors_perform (performed ++ later)).granted_iff.1 hgranted
  rw [Gesture.callsAll_append, Answering.grants_append] at hgrants
  have hmirrors : (Gesture.perform performed).Mirrors Link.answering w _ _ :=
    Gesture.mirrors_perform performed
  obtain ⟨_, w', hrun, hviewport, -, hremote⟩ := hmirrors.ends
  refine ⟨w', hrun, hviewport, ?_⟩
  rw [hremote hgrants.1, Link.view_after hgrants.1, hview, hviewport, Gesture.view_applyAll]

/-- A client with a node on its canvas, and a surface to show it on. -/
def surfaceWorld : LocalWorld Rat :=
  (Client.freshWorld.runAt 0 (Client.restoreSnapshot Client.singleSnapshot)).runAt 0
    (Client.setSurface 800 600)

/-- Gestures of every kind, some of which are clamped or change nothing. -/
def tour : List (Gesture Rat) :=
  [.setZoom 100 (some (10, 20)), .zoomIn none, .panBy 5 (-3), .zoomOut none, .fitToContent,
    .fitToContent, .setZoom 2 none]

theorem backend_mirrors_gestures_tour :
    surfaceWorld.remote.backend.view = surfaceWorld.canvas.viewport.view ∧
      (Gesture.perform tour).Granted Link.answering surfaceWorld ∧
      ∃ w', surfaceWorld.run (Gesture.perform tour) = .ok ((), w') ∧
        (w'.canvas.viewport.view == ⟨2, 50, 174⟩) = true ∧
        w'.remote.backend.view = w'.canvas.viewport.view := by
  have hsame : (surfaceWorld.remote.backend.view == surfaceWorld.canvas.viewport.view) = true := by
    decide +kernel
  have hview : surfaceWorld.remote.backend.view = surfaceWorld.canvas.viewport.view :=
    View.Alike.eq_of_lawful (.inr hsame)
  have hfailures : surfaceWorld.remote.backend.failures = [] :=
    List.isEmpty_iff.1 (by decide +kernel)
  have hgranted : (Gesture.perform tour).Granted Link.answering surfaceWorld :=
    (Gesture.mirrors_perform tour).granted_iff.2 (Link.grants_of_failures hfailures _)
  obtain ⟨w', hrun, hviewport, hmirrored⟩ :=
    backend_mirrors_gestures hview tour hgranted tour (List.prefix_refl tour)
  refine ⟨hview, hgranted, w', hrun, ?_, hmirrored⟩
  rw [hviewport]
  decide +kernel

end NodeCanvas
