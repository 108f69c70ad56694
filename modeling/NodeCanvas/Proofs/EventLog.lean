import Mathlib.Data.List.DropRight
import NodeCanvas.Proofs.HighlightLifetime
/-!
# What the log of an overlay holds

An overlay notes an event before the event takes effect, and drops what its log has no room for. A
reset and an event that ends an execution empty the log. So the log is at any time the tail of a
history: of the events since it was last emptied (`OverlayCall.recent`), the latest that fit.
-/

namespace NodeCanvas

variable {R : Type}

/-! ## Histories -/

namespace OverlayCall

/-- The event that a call applies. -/
def event? : OverlayCall R → Option ExecutionEvent
  | .apply event _ _ => some event
  | _ => none

/-- Whether a call empties the log. -/
def emptiesLog : OverlayCall R → Bool
  | .apply event _ _ => event.IsTerminal
  | .reset => true
  | _ => false

/-- The events that calls apply after the last of them that empties the log. -/
def recent (cs : List (OverlayCall R)) : List ExecutionEvent :=
  (cs.rtakeWhile (!·.emptiesLog)).filterMap event?

theorem recent_concat (cs : List (OverlayCall R)) (call : OverlayCall R) :
    recent (cs ++ [call]) =
      if call.emptiesLog then [] else recent cs ++ call.event?.toList := by
  unfold recent
  rw [List.rtakeWhile_concat]
  cases hempties : call.emptiesLog with
  | true => rfl
  | false => cases hevent : call.event? <;> simp [hevent]

end OverlayCall

namespace Overlay

/-- The log holds the latest of these events, as many as it has room for, and a node runs only
while an execution does. -/
structure Logs (o : Overlay R) (capacity : Nat) (events : List ExecutionEvent) : Prop where
  logCapacity : o.logCapacity = capacity
  log : o.log = events.rtake capacity
  executing (h : o.currentNode ≠ none) : o.executing = true

variable {o o' : Overlay R} {capacity : Nat} {events : List ExecutionEvent} {event : ExecutionEvent}

/-! ## One call -/

theorem Logs.appendLog (h : o.Logs (capacity + 1) events) (event : ExecutionEvent) :
    (o.appendLog event).Logs (capacity + 1) (events ++ [event]) where
  logCapacity := h.logCapacity
  log := by
    -- A log without room for one more event loses its first one.
    have hroom : o.log.drop (o.log.length - capacity) = events.rtake capacity := by
      rw [h.log, List.rtake, List.rtake, List.drop_drop, List.length_drop]
      congr 1
      omega
    change o.log.drop (o.log.length + 1 - o.logCapacity) ++ [event] = _
    rw [h.logCapacity, Nat.add_sub_add_right, hroom, List.rtake_concat_succ]
  executing := h.executing

theorem Logs.reset (h : o.Logs capacity events) : o.reset.Logs capacity [] :=
  ⟨h.logCapacity, (List.rtake_nil _).symm, fun hcurrent => absurd rfl hcurrent⟩

/-- A change of what is shown is no matter of the log. -/
theorem Logs.releaseCurrent (h : o.Logs capacity events) (node : NodeId) :
    (o.releaseCurrent node).Logs capacity events := by
  unfold Overlay.releaseCurrent
  split
  · exact ⟨h.logCapacity, h.log, fun hcurrent => absurd rfl hcurrent⟩
  · exact h

variable [Scalar R] {graph : Graph R} {now : Instant}

theorem Logs.effect (h : o.Logs capacity events) (heffect : o.effect event graph now = .ok o') :
    o'.Logs capacity (if event.IsTerminal then [] else events) := by
  obtain ⟨hterminal, rfl⟩ | ⟨hnot, ⟨node, state, times, -, -, rfl | rfl⟩ |
    ⟨-, markers, watches, rfl⟩⟩ := effect_cases heffect
  · rw [if_pos hterminal]
    exact h.reset
  · rw [if_neg hnot]
    exact ⟨h.logCapacity, h.log, fun _ => rfl⟩
  · rw [if_neg hnot]
    refine Logs.releaseCurrent ?_ node
    exact ⟨h.logCapacity, h.log, h.executing⟩
  · rw [if_neg hnot]
    exact ⟨h.logCapacity, h.log, h.executing⟩

/-- The overlay that a call leaves. An event is noted before it takes effect, so a call that breaks
down has changed the log and nothing else. -/
def follow (o : Overlay R) (call : OverlayCall R) : Overlay R :=
  match o.call call with
  | .ok after => after
  | .error _ => call.event?.elim o o.appendLog

/-- **What one call makes of the log.** -/
theorem Logs.follow (h : o.Logs (capacity + 1) events) (call : OverlayCall R) :
    (o.follow call).Logs (capacity + 1)
      (if call.emptiesLog then [] else events ++ call.event?.toList) := by
  have hsame : o.Logs (capacity + 1) (events ++ []) := (List.append_nil events).symm ▸ h
  cases call with
  | apply event graph now =>
    simp only [Overlay.follow, call_apply, OverlayCall.emptiesLog, decide_eq_true_eq]
    cases heffect : (o.appendLog event).effect event graph now with
    | ok after => exact (h.appendLog event).effect heffect
    | error fault =>
      have hlong : event.IsOverlong := by
        by_contra hnot
        obtain ⟨after, hok⟩ := ((o.appendLog event).exists_effect_iff event graph now).2 hnot
        cases heffect.symm.trans hok
      rw [if_neg (by simp [ExecutionEvent.IsTerminal, hlong.1])]
      exact h.appendLog event
  | reset => exact h.reset
  | clearNode node =>
    refine Logs.releaseCurrent ?_ node
    exact ⟨hsame.logCapacity, hsame.log, hsame.executing⟩
  | setSpeed speed =>
    obtain ⟨changed, hchanged⟩ := o.setSpeed_eq speed
    simp only [Overlay.follow, Overlay.call, hchanged]
    exact ⟨hsame.logCapacity, hsame.log, hsame.executing⟩
  | highlightStep _ _ _ | setHighlightDuration _ | expire _ =>
    exact ⟨hsame.logCapacity, hsame.log, hsame.executing⟩

/-! ## Any number of calls -/

/-- **What calls make of the log.** -/
theorem Logs.foldl_follow (h : o.Logs (capacity + 1) []) (cs : List (OverlayCall R)) :
    (cs.foldl Overlay.follow o).Logs (capacity + 1) (OverlayCall.recent cs) := by
  induction cs using List.reverseRecOn with
  | nil => exact h
  | append_singleton cs call ih =>
    rw [List.foldl_concat, OverlayCall.recent_concat]
    exact ih.follow call

/-- Calls of which none breaks down come to their end in the overlay that they leave. -/
theorem calls_eq_ok (o : Overlay R) {cs : List (OverlayCall R)}
    (h : ∀ call ∈ cs, ¬ call.IsOverlong) : o.calls cs = .ok (cs.foldl Overlay.follow o) := by
  induction cs generalizing o with
  | nil => rfl
  | cons call cs ih =>
    rw [List.forall_mem_cons] at h
    obtain ⟨next, hcall⟩ := (o.exists_call_iff call).2 h.1
    have hfollow : o.follow call = next := by simp only [Overlay.follow, hcall]
    rw [List.foldl_cons, hfollow, ← ih next h.2, calls, hcall]

end Overlay

/-- **The log is the tail of the history.** Whatever is done with an overlay, one call after the
other: its log holds the latest of the events that were applied since it was last reset or an
execution last ended, oldest first, as many as its capacity allows, which is at least one; and while
a node is the one that runs now, an execution runs. A call that breaks down is no exception; if
there is none, this is the overlay to which the calls lead. -/
theorem log_is_tail [Scalar R] (duration flow : Span) (capacity : Nat)
    (cs : List (OverlayCall R)) :
    ∃ o : Overlay R, cs.foldl Overlay.follow (.initial duration flow capacity) = o ∧
      o.log = (OverlayCall.recent cs).rtake (max capacity 1) ∧
      (o.currentNode ≠ none → o.executing = true) ∧
      ((∀ call ∈ cs, ¬ call.IsOverlong) →
        (Overlay.initial duration flow capacity).calls cs = .ok o) := by
  have hpos : max capacity 1 = (capacity - 1) + 1 := by omega
  have hfresh : (Overlay.initial duration flow capacity : Overlay R).Logs (capacity - 1 + 1) [] :=
    ⟨hpos, (List.rtake_nil _).symm, fun hcurrent => absurd rfl hcurrent⟩
  obtain ⟨-, hlog, hexecuting⟩ := hfresh.foldl_follow cs
  exact ⟨_, rfl, hpos ▸ hlog, hexecuting, Overlay.calls_eq_ok _⟩

end NodeCanvas
