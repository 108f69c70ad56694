import Mathlib
import NodeCanvas.Canvas
import NodeCanvas.Push.Event
import NodeCanvas.Proofs.Comparison
import NodeCanvas.Proofs.HighlightLifetime
import NodeCanvas.Proofs.SpanBounds
/-!
# Which events an overlay can show

The spans of an overlay are 64-bit numbers of milliseconds and its speed is at least a tenth,
whatever the settings are and whatever is done with it (`Overlay.Paced`). So no deadline is out of
reach, nor is the time that a marker travels too long for a span. What remains is the elapsed time
that an event tells of, which is checked to be a number from zero up and nothing more: an event is
shown exactly if that time is below `2 ^ 64` seconds.
-/

namespace NodeCanvas

open Rounding (AtLeast)

variable {R : Type}

/-! ## Speeds -/

theorem Rounding.atLeast_of_not_lt {x : Float} (hfinite : x.isFinite = true)
    (h : ¬ x < Overlay.leastSpeed) : AtLeast (-4) x.toModel.unpack := by
  have hleast : Overlay.leastSpeed.toModel.unpack =
      .finite .positive 7205759403792794 (-56) (by decide) := by rfl
  have hnot : ¬ x.toModel.unpack.lt
      (.finite .positive 7205759403792794 (-56) (by decide)) = true := by
    rw [← hleast]
    exact fun hlt => h (decide_eq_true hlt)
  obtain ⟨m, e, hm, hu, he⟩ := exists_of_not_lt hfinite _ hnot
  have hcanonical : IsCanonical x.toModel.unpack := isCanonical_unpack _
  rw [hu] at hcanonical ⊢
  -- With the exponent of a tenth the float is a normal one, so its mantissa has all its bits.
  have hlow : 2 ^ 52 ≤ m := hcanonical.2.resolve_right (by omega)
  exact ⟨rfl, (Nat.pow_le_pow_right two_pos (by omega)).trans hlow⟩

namespace Overlay

/-- The spans and the speed of an overlay are in bounds. -/
structure Paced (o : Overlay R) : Prop where
  highlight : o.highlightDuration < .ofMillis (2 ^ 64)
  flow : o.baseFlowDuration < .ofMillis (2 ^ 64)
  speed : AtLeast (-4) o.speed.toModel.unpack

variable {o o' : Overlay R}

theorem Paced.of_pacing (h : o.Paced) (heq : o'.pacing = o.pacing) : o'.Paced := by
  simp only [pacing, Prod.mk.injEq] at heq
  obtain ⟨hhighlight, hflow, hspeed⟩ := heq
  exact ⟨hhighlight ▸ h.highlight, hflow ▸ h.flow, hspeed ▸ h.speed⟩

theorem Paced.setSpeed (h : o.Paced) (speed : Float) : (o.setSpeed speed).Paced := by
  unfold Overlay.setSpeed
  split
  · rename_i hfinite
    refine ⟨h.highlight, h.flow, ?_⟩
    change AtLeast (-4) (Scalar.max speed leastSpeed).toModel.unpack
    unfold Scalar.max
    split
    · exact ⟨rfl, by decide⟩
    · rename_i hnot
      have hnan : ¬ Scalar.isNaN speed = true := by
        rw [Bool.not_eq_true]
        exact isNaN_of_isFinite hfinite
      rw [if_neg hnan]
      exact Rounding.atLeast_of_not_lt hfinite hnot
  · exact h

variable [Scalar R]

/-- One call keeps spans and speed in bounds, if the span that it sets is. -/
theorem Paced.call {call : OverlayCall R} (h : o.Paced) (hcall : o.call call = .ok o')
    (hset : ∀ duration, call = .setHighlightDuration duration → duration < .ofMillis (2 ^ 64)) :
    o'.Paced := by
  cases call with
  | apply event graph now =>
    rw [call_apply] at hcall
    exact h.of_pacing (highlighted_of_effect hcall).pacing
  | setHighlightDuration duration =>
    cases hcall
    exact ⟨hset duration rfl, h.flow, h.speed⟩
  | setSpeed speed =>
    cases hcall
    exact h.setSpeed speed
  | clearNode node =>
    cases hcall
    exact h.of_pacing (pacing_releaseCurrent ..)
  | highlightStep _ _ _ | expire _ | reset =>
    cases hcall
    exact h.of_pacing rfl

theorem Paced.calls {cs : List (OverlayCall R)} (h : o.Paced) (hrun : o.calls cs = .ok o')
    (hset : ∀ duration, .setHighlightDuration duration ∈ cs → duration < .ofMillis (2 ^ 64)) :
    o'.Paced := by
  induction cs generalizing o with
  | nil =>
    cases hrun
    exact h
  | cons call cs ih =>
    rw [Overlay.calls] at hrun
    cases hcall : o.call call with
    | error fault =>
      rw [hcall] at hrun
      cases hrun
    | ok next =>
      rw [hcall] at hrun
      refine ih (h.call hcall ?_) hrun fun duration hmem =>
        hset duration (List.mem_cons_of_mem _ hmem)
      intro duration heq
      exact hset duration (heq ▸ List.mem_cons_self)

theorem exists_apply_iff (o : Overlay R) (event : ExecutionEvent) (graph : Graph R)
    (now : Instant) :
    (∃ shown, o.apply event graph now = .ok shown) ↔ ¬ event.IsOverlong := by
  rw [← (o.appendLog event).exists_effect_iff event graph now]
  unfold apply
  cases (o.appendLog event).effect event graph now with
  | ok after => exact iff_of_true ⟨_, rfl⟩ ⟨after, rfl⟩
  | error fault =>
    refine iff_of_false ?_ ?_ <;>
    · rintro ⟨shown, hshown⟩
      cases hshown

end Overlay

namespace ExecutionEvent

theorem isOverlong_iff {event : ExecutionEvent} :
    event.IsOverlong ↔ event.kind = .nodeComplete ∧ event.node ≠ none ∧
      ∃ seconds, Overlay.elapsedSeconds? event = some seconds ∧
        18446744073709551616.0 ≤ seconds := by
  refine and_congr_right fun _ => and_congr_right fun _ => exists_congr fun seconds =>
    and_congr_right fun helapsed => ?_
  have hchecked := (Option.filter_eq_some_iff.1 helapsed).2
  rw [Bool.and_eq_true, decide_eq_true_eq] at hchecked
  exact Span.ofSeconds?_eq_none_iff hchecked.1 hchecked.2

end ExecutionEvent

/-! ## Canvases -/

namespace Canvas

theorem paced_initial [Scalar R] {settings : Settings}
    (hhighlight : settings.highlightDurationMs < 2 ^ 64)
    (hflow : settings.dataFlowDurationMs < 2 ^ 64) :
    (initial settings : Canvas R).overlay.Paced := by
  have hunit : AtLeast (-4) (1.0 : Float).toModel.unpack := ⟨rfl, by decide⟩
  have hfresh : (Overlay.initial settings.highlightDuration settings.dataFlowDuration
      settings.eventLogCapacity : Overlay R).Paced :=
    ⟨Span.ofMillis_lt_ofMillis hhighlight, Span.ofMillis_lt_ofMillis hflow, hunit⟩
  exact hfresh.setSpeed settings.executionSpeed

theorem paced_applyUiSettings {c : Canvas R} (h : c.overlay.Paced) {ui : UiSettings}
    (hhighlight : ui.highlightDurationMs < 2 ^ 64) : (c.applyUiSettings ui).overlay.Paced := by
  obtain ⟨-, hflow, hspeed⟩ := h.setSpeed ui.executionSpeed
  exact ⟨Span.ofMillis_lt_ofMillis hhighlight, hflow, hspeed⟩

theorem paced_foldl_applyUiSettings {c : Canvas R} (h : c.overlay.Paced) {uis : List UiSettings}
    (huis : ∀ ui ∈ uis, ui.highlightDurationMs < 2 ^ 64) :
    (uis.foldl applyUiSettings c).overlay.Paced := by
  induction uis generalizing c with
  | nil => exact h
  | cons ui uis ih =>
    rw [List.forall_mem_cons] at huis
    exact ih (paced_applyUiSettings h huis.1) huis.2

end Canvas

/-- **Which events an overlay can show.** Take any settings and any user settings, all spans in them
64-bit numbers of milliseconds and speeds any floats at all, and do with the overlay whatever there
is to do. Then an event is shown, at any instant that a clock can reach and whatever is on the
canvas, unless it says that a node has finished after `2 ^ 64` seconds or more. All else is in
bounds: twice the span of a highlight is a span, the time that a marker travels is one, and the
deadlines that they make come before the end of time. -/
theorem events_shown_iff [Scalar R] {settings : Settings} {uis : List UiSettings}
    (hhighlight : settings.highlightDurationMs < 2 ^ 64)
    (hflow : settings.dataFlowDurationMs < 2 ^ 64)
    (huis : ∀ ui ∈ uis, ui.highlightDurationMs < 2 ^ 64) {cs : List (OverlayCall R)}
    (hset : ∀ duration, .setHighlightDuration duration ∈ cs → duration < .ofMillis (2 ^ 64))
    {o : Overlay R}
    (hrun : (uis.foldl Canvas.applyUiSettings (Canvas.initial settings)).overlay.calls cs = .ok o)
    (event : ExecutionEvent) (graph : Graph R) {now : Instant} (hnow : 2 * now < Instant.limit) :
    ((∃ shown, o.apply event graph now = .ok shown) ↔
        ¬ (event.kind = .nodeComplete ∧ event.node ≠ none ∧ ∃ seconds,
          Overlay.elapsedSeconds? event = some seconds ∧ 18446744073709551616.0 ≤ seconds)) ∧
      2 * o.highlightDuration < Span.ofSeconds (2 ^ 64) ∧
      now + 2 * o.highlightDuration < Instant.limit ∧
      ∃ flow, Span.ofSeconds? (Span.toSeconds o.baseFlowDuration / o.speed) = some flow ∧
        o.flowDuration = flow ∧ now + flow < Instant.limit := by
  have hpaced : o.Paced := (Canvas.paced_foldl_applyUiSettings
    (Canvas.paced_initial hhighlight hflow) huis).calls hrun hset
  obtain ⟨flow, hsome, hbound⟩ := Span.exists_ofSeconds?_div hpaced.flow hpaced.speed
  obtain ⟨hdouble, hhalf⟩ := Span.double_in_range hpaced.highlight
  refine ⟨?_, hdouble, Instant.add_lt_limit hnow hhalf, flow, hsome, ?_,
    Instant.add_lt_limit hnow ?_⟩
  · rw [← ExecutionEvent.isOverlong_iff]
    exact o.exists_apply_iff event graph now
  · rw [Overlay.flowDuration, hsome, Option.getD_some]
  · calc 2 * flow
      _ ≤ 2 * Span.ofSeconds (2 ^ 60) := Nat.mul_le_mul_left 2 hbound
      _ < Instant.limit := by decide

/-- The longest spans there are, and no speed at all. -/
def slowest : Settings :=
  { highlightDurationMs := 2 ^ 64 - 1, dataFlowDurationMs := 2 ^ 64 - 1, executionSpeed := 0.0 }

def slowestUi : UiSettings := { highlightDurationMs := 2 ^ 64 - 1, executionSpeed := -1.0 }

/-- A node has finished after the greatest number of seconds that is a span. -/
def longEvent : ExecutionEvent :=
  { kind := .nodeComplete, node := some "a"
    data := some (.ofList [("elapsed", .number (.float 18446744073709549568.0 rfl))]) }

theorem events_shown_iff_slowest :
    ∃ o, ([slowestUi].foldl Canvas.applyUiSettings (Canvas.initial slowest)).overlay.calls
        [(.apply { kind := .nodeStart, node := some "a" } {} 0 : OverlayCall Float)] = .ok o ∧
      (∃ shown, o.apply longEvent {} 1000 = .ok shown) ∧
      1000 + 2 * o.highlightDuration < Instant.limit ∧ 1000 + o.flowDuration < Instant.limit := by
  have huis : ∀ ui ∈ [slowestUi], ui.highlightDurationMs < 2 ^ 64 := by simp [slowestUi]
  have hset : ∀ duration, .setHighlightDuration duration ∈
      [(.apply { kind := .nodeStart, node := some "a" } {} 0 : OverlayCall Float)] →
        duration < .ofMillis (2 ^ 64) := by simp
  have hnow : 2 * 1000 < Instant.limit := by decide
  have helapsed : Overlay.elapsedSeconds? longEvent = some 18446744073709549568.0 := rfl
  have hlong : ¬ ∃ seconds, Overlay.elapsedSeconds? longEvent = some seconds ∧
      18446744073709551616.0 ≤ seconds := by
    rintro ⟨seconds, hseconds, hle⟩
    rw [← Option.some.inj (helapsed.symm.trans hseconds)] at hle
    exact absurd hle (by decide +kernel)
  have hhighlight : slowest.highlightDurationMs < 2 ^ 64 := by decide
  have hflows : slowest.dataFlowDurationMs < 2 ^ 64 := by decide
  refine ⟨_, rfl, ?_⟩
  obtain ⟨hshown, -, hdeadline, flow, -, hflow, harrival⟩ :=
    events_shown_iff hhighlight hflows huis hset rfl longEvent {} hnow
  exact ⟨hshown.2 fun h => hlong h.2.2, hdeadline, hflow ▸ harrival⟩

/-- **An event that is accepted can be too much to show.** It says that a node has finished after
`1e20` seconds. -/
theorem accepted_event_not_shown :
    ∃ event, (∀ ids, (PushEvent.decode? "execution_event" (.object
        [("event_type", .string "node_complete"), ("node_id", .string "a"),
          ("data", .object [("elapsed", .number (.float 1e20 rfl))])])).run ids =
            (some (.execution event : PushEvent Float), ids)) ∧
      (Canvas.initial {} : Canvas Float).overlay.apply event {} 0 = .error .elapsedTooLong :=
  ⟨_, fun _ => rfl, rfl⟩

end NodeCanvas
