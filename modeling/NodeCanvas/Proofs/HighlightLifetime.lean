import Mathlib
import NodeCanvas.Execution.Overlay
import NodeCanvas.Proofs.Table
/-!
# How long a node is highlighted

An overlay is changed by calls, each at an instant of its own: instants may repeat or go back. A
call highlights a node or not (`OverlayCall.shows?`), and a highlight stays until a later call takes
it away: by another highlight of the node, by clearing it or everything, or by looking for what has
expired at an instant that is not before its deadline. What one call does to a node is
`Overlay.highlight?_of_call`; `Overlay.highlight?_of_calls` is what any number of them do.

The one call that breaks down is an event whose elapsed time fits no span. With spans and instants
in range, all deadlines are.
-/

namespace NodeCanvas

variable {R : Type}

/-- The instants of a clock come before this one, `2 ^ 63` seconds from its start. -/
def Instant.limit : Instant := Span.ofSeconds (2 ^ 63)

theorem Instant.add_lt_limit {now : Instant} {span : Span} (hnow : 2 * now < limit)
    (hspan : 2 * span < limit) : now + span < limit := by
  refine Nat.lt_of_mul_lt_mul_left (a := 2) ?_
  calc 2 * (now + span)
    _ = 2 * now + 2 * span := Nat.mul_add ..
    _ < limit + limit := Nat.add_lt_add hnow hspan
    _ = 2 * limit := (Nat.two_mul _).symm

/-- Twice a 64-bit number of milliseconds is a span, and does not reach past half of the time. -/
theorem Span.double_in_range {span : Span} (h : span < .ofMillis (2 ^ 64)) :
    2 * span < Span.ofSeconds (2 ^ 64) ∧ 2 * (2 * span) < Instant.limit := by
  have hdouble : 2 * span ≤ 2 * Span.ofMillis (2 ^ 64) := Nat.mul_le_mul_left 2 (Nat.le_of_lt h)
  exact ⟨Nat.lt_of_le_of_lt hdouble (by decide),
    Nat.lt_of_le_of_lt (Nat.mul_le_mul_left 2 hdouble) (by decide)⟩

/-- A change of an overlay. -/
inductive OverlayCall (R : Type) where
  | apply (event : ExecutionEvent) (graph : Graph R) (now : Instant)
  | highlightStep (node : NodeId) (status : StepStatus) (now : Instant)
  | setHighlightDuration (duration : Span)
  | setSpeed (speed : Float)
  | clearNode (node : NodeId)
  | expire (now : Instant)
  | reset

namespace Overlay

/-- The overlay after a call. -/
def call [Scalar R] (o : Overlay R) : OverlayCall R → Except OverlayFault (Overlay R)
  | .apply event graph now => (o.apply event graph now).map (·.1)
  | .highlightStep node status now => .ok (o.highlightStep node status now)
  | .setHighlightDuration duration => .ok { o with highlightDuration := duration }
  | .setSpeed speed => .ok (o.setSpeed speed)
  | .clearNode node => .ok (o.clearNode node)
  | .expire now => .ok (o.expire now).1
  | .reset => .ok o.reset

/-- The overlay after calls, one after the other. -/
def calls [Scalar R] (o : Overlay R) : List (OverlayCall R) → Except OverlayFault (Overlay R)
  | [] => .ok o
  | call :: rest =>
    match o.call call with
    | .ok o => o.calls rest
    | .error fault => .error fault

end Overlay

/-! ## What calls mean for a node -/

namespace ExecutionEvent

/-- The state in which an event shows a node, and how many times the usual span. -/
def shows? (event : ExecutionEvent) (node : NodeId) : Option (HighlightState × Nat) :=
  if event.node = some node then
    match event.kind with
    | .nodeStart | .breakpointHit => some (.executing, 1)
    | .nodeComplete =>
      some (.completed ((Overlay.elapsedSeconds? event).bind Span.ofSeconds?), 1)
    | .nodeError =>
      some (.error ((event.message <|> event.textDatum? "error").getD "execution failed"), 2)
    | _ => none
  else none

theorem times_le_two {event : ExecutionEvent} {node : NodeId} {state : HighlightState} {times : Nat}
    (h : event.shows? node = some (state, times)) : times ≤ 2 := by
  rw [shows?] at h
  split at h
  · split at h <;>
    · cases h
      try decide
  · cases h

/-- The event ends an execution. -/
def IsTerminal (event : ExecutionEvent) : Prop :=
  event.kind = .executionComplete ∨ event.kind = .executionError

instance decidableIsTerminal (event : ExecutionEvent) : Decidable event.IsTerminal :=
  inferInstanceAs (Decidable (_ ∨ _))

/-- The event says that a node has finished after a time that fits no span. -/
def IsOverlong (event : ExecutionEvent) : Prop :=
  event.kind = .nodeComplete ∧ event.node ≠ none ∧
    ∃ seconds, Overlay.elapsedSeconds? event = some seconds ∧ Span.ofSeconds? seconds = none

end ExecutionEvent

namespace OverlayCall

/-- The highlight that a call puts on a node, with the span that is in force. -/
def shows? (node : NodeId) (duration : Span) : OverlayCall R → Option Highlight
  | .apply event _ now =>
    (event.shows? node).map fun shown => ⟨shown.1, now + shown.2 * duration⟩
  | .highlightStep stepped status now =>
    if stepped = node then
      some ⟨if status = .completed then .completed none else .executing, now + duration⟩
    else none
  | _ => none

/-- The call takes every highlight of a node away. -/
def Clears (node : NodeId) : OverlayCall R → Prop
  | .apply event _ _ => event.IsTerminal
  | .clearNode cleared => cleared = node
  | .reset => True
  | _ => False

/-- The span in force after a call. -/
def durationAfter (duration : Span) : OverlayCall R → Span
  | .setHighlightDuration changed => changed
  | _ => duration

/-- The call breaks down. -/
def IsOverlong : OverlayCall R → Prop
  | .apply event _ _ => event.IsOverlong
  | _ => False

/-- The instant of the call is in the first half of the time, and the span that it sets is a 64-bit
number of milliseconds. -/
def InRange : OverlayCall R → Prop
  | .apply _ _ now | .highlightStep _ _ now | .expire now => 2 * now < Instant.limit
  | .setHighlightDuration duration => duration < .ofMillis (2 ^ 64)
  | _ => True

theorem foldl_durationAfter_lt {duration : Span} (hduration : duration < .ofMillis (2 ^ 64))
    {cs : List (OverlayCall R)} (hcs : ∀ call ∈ cs, call.InRange) :
    cs.foldl durationAfter duration < .ofMillis (2 ^ 64) := by
  induction cs generalizing duration with
  | nil => exact hduration
  | cons call cs ih =>
    rw [List.forall_mem_cons] at hcs
    refine ih ?_ hcs.2
    cases call with
    | setHighlightDuration changed => exact hcs.1
    | _ => exact hduration

/-- The deadline of a highlight is an instant. -/
theorem expiresAt_lt_limit {call : OverlayCall R} {node : NodeId} {span : Span} {shown : Highlight}
    (h : call.shows? node span = some shown) (hspan : span < .ofMillis (2 ^ 64))
    (hcall : call.InRange) : shown.expiresAt < Instant.limit := by
  have hhalf := (Span.double_in_range hspan).2
  cases call with
  | apply event graph now =>
    obtain ⟨⟨state, times⟩, hshows, rfl⟩ := Option.map_eq_some_iff.1 h
    exact Nat.lt_of_le_of_lt (Nat.add_le_add_left
      (Nat.mul_le_mul_right span (ExecutionEvent.times_le_two hshows)) now)
      (Instant.add_lt_limit hcall hhalf)
  | highlightStep stepped status now =>
    rw [shows?] at h
    split at h
    · cases h
      exact Nat.lt_of_le_of_lt (Nat.add_le_add_left (Nat.le_mul_of_pos_left span Nat.two_pos) now)
        (Instant.add_lt_limit hcall hhalf)
    · cases h
  | _ => cases h

/-- The call leaves a highlight of a node as it is. -/
@[mk_iff]
structure Leaves (node : NodeId) (deadline : Instant) (call : OverlayCall R) : Prop where
  showsNone (duration : Span) : call.shows? node duration = none
  not_clears : ¬ call.Clears node
  not_expires (now : Instant) (h : call = .expire now) : now < deadline

theorem forall_leaves_iff {node : NodeId} {deadline : Instant} {cs : List (OverlayCall R)} :
    (∀ call ∈ cs, call.Leaves node deadline) ↔
      (∀ call ∈ cs, ∀ duration, call.shows? node duration = none) ∧
        (∀ call ∈ cs, ¬ call.Clears node) ∧ ∀ now, .expire now ∈ cs → now < deadline := by
  constructor
  · intro h
    exact ⟨fun call hmem => (h call hmem).showsNone, fun call hmem => (h call hmem).not_clears,
      fun now hmem => (h _ hmem).not_expires now rfl⟩
  · rintro ⟨hshows, hclears, hexpires⟩ call hmem
    refine ⟨hshows call hmem, hclears call hmem, fun now hcall => ?_⟩
    exact hexpires now (hcall ▸ hmem)

end OverlayCall

/-! ## One call -/

namespace Overlay

/-- The spans and the speed that an overlay works with. -/
def pacing (o : Overlay R) : Span × Span × Float :=
  (o.highlightDuration, o.baseFlowDuration, o.speed)

theorem highlightDuration_eq {o o' : Overlay R} (h : o'.pacing = o.pacing) :
    o'.highlightDuration = o.highlightDuration :=
  congrArg (·.1) h

theorem highlight?_setHighlight (o : Overlay R) (shown : NodeId) (state : HighlightState)
    (deadline : Instant) (node : NodeId) :
    (o.setHighlight shown state deadline).highlight? node =
      if node = shown then some ⟨state, deadline⟩ else o.highlight? node :=
  Table.get?_insert ..

theorem highlightStep_eq (o : Overlay R) (node : NodeId) (status : StepStatus) (now : Instant) :
    o.highlightStep node status now = o.setHighlight node
      (if status = .completed then .completed none else .executing)
      (now + o.highlightDuration) := by
  cases status <;> rfl

theorem releaseCurrent_eq (o : Overlay R) (node : NodeId) :
    ∃ current, o.releaseCurrent node = { o with currentNode := current } := by
  unfold releaseCurrent
  split
  · exact ⟨_, rfl⟩
  · exact ⟨o.currentNode, rfl⟩

theorem highlight?_releaseCurrent (o : Overlay R) (released node : NodeId) :
    (o.releaseCurrent released).highlight? node = o.highlight? node := by
  obtain ⟨current, h⟩ := o.releaseCurrent_eq released
  rw [h]
  rfl

theorem pacing_releaseCurrent (o : Overlay R) (node : NodeId) :
    (o.releaseCurrent node).pacing = o.pacing := by
  obtain ⟨current, h⟩ := o.releaseCurrent_eq node
  rw [h]
  rfl

theorem setSpeed_eq (o : Overlay R) (speed : Float) :
    ∃ changed, o.setSpeed speed = { o with speed := changed } := by
  unfold setSpeed
  split
  · exact ⟨_, rfl⟩
  · exact ⟨o.speed, rfl⟩

variable [Scalar R] {o o' : Overlay R} {event : ExecutionEvent} {graph : Graph R} {now : Instant}

theorem addMarker_eq (o : Overlay R) (event : ExecutionEvent) (graph : Graph R) (now : Instant) :
    ∃ markers, o.addMarker event graph now = { o with markers } := by
  unfold addMarker
  split
  · exact ⟨o.markers, rfl⟩
  · split
    · exact ⟨_, rfl⟩
    · exact ⟨o.markers, rfl⟩

/-- What an event makes of the highlights: it takes all away, or it puts one on its node. -/
structure Highlighted (o : Overlay R) (event : ExecutionEvent) (now : Instant) (o' : Overlay R) :
    Prop where
  pacing : o'.pacing = o.pacing
  cleared (h : event.IsTerminal) (node : NodeId) : o'.highlight? node = none
  shown (h : ¬ event.IsTerminal) (node : NodeId) : o'.highlight? node =
    ((event.shows? node).map fun shown => ⟨shown.1, now + shown.2 * o.highlightDuration⟩).or
      (o.highlight? node)

omit [Scalar R] in
/-- An event that is about no node, or shows none. -/
theorem Highlighted.of_same (hpacing : o'.pacing = o.pacing)
    (hsame : ∀ node, o'.highlight? node = o.highlight? node) (hnot : ¬ event.IsTerminal)
    (hshows : ∀ node, event.shows? node = none) : o.Highlighted event now o' where
  pacing := hpacing
  cleared h := absurd h hnot
  shown _ node := by rw [hshows, hsame, Option.map_none, Option.none_or]

omit [Scalar R] in
/-- An event that shows its node. -/
theorem Highlighted.of_shows {node : NodeId} {state : HighlightState} {times : Nat}
    (hnode : event.node = some node) (hshows : event.shows? node = some (state, times))
    (hnot : ¬ event.IsTerminal) (hpacing : o'.pacing = o.pacing)
    (hset : ∀ other, o'.highlight? other = if other = node then
      some ⟨state, now + times * o.highlightDuration⟩ else o.highlight? other) :
    o.Highlighted event now o' where
  pacing := hpacing
  cleared h := absurd h hnot
  shown _ other := by
    rw [hset]
    by_cases hother : other = node
    · rw [if_pos hother, hother, hshows, Option.map_some, Option.some_or]
    · have hnone : event.shows? other = none := by
        rw [ExecutionEvent.shows?, hnode, if_neg]
        exact fun h => hother (Option.some.inj h).symm
      rw [if_neg hother, hnone, Option.map_none, Option.none_or]

/-- A node that has finished is shown as such, unless its time fits no span. -/
theorem effect_of_nodeComplete (o : Overlay R) (graph : Graph R) (now : Instant) {node : NodeId}
    (hkind : event.kind = .nodeComplete) (hnode : event.node = some node) :
    (event.IsOverlong ∧ o.effect event graph now = .error .elapsedTooLong) ∨
      (¬ event.IsOverlong ∧ o.effect event graph now = .ok ((o.setHighlight node
        (.completed ((elapsedSeconds? event).bind Span.ofSeconds?))
        (now + o.highlightDuration)).releaseCurrent node)) := by
  have hiff : event.IsOverlong ↔
      ∃ seconds, elapsedSeconds? event = some seconds ∧ Span.ofSeconds? seconds = none := by
    simp [ExecutionEvent.IsOverlong, hkind, hnode]
  simp only [effect, hkind, hnode, hiff]
  cases elapsedSeconds? event with
  | none => exact .inr ⟨by simp, rfl⟩
  | some seconds =>
    cases helapsed : Span.ofSeconds? seconds with
    | none => exact .inl ⟨⟨seconds, rfl, helapsed⟩, by simp only [helapsed]⟩
    | some elapsed => exact .inr ⟨by simp [helapsed], by simp only [Option.bind_some, helapsed]⟩

/-- **What an event can do**: end the execution, show its node, or change markers and watched
variables only. -/
theorem effect_cases (h : o.effect event graph now = .ok o') :
    event.IsTerminal ∧ o' = o.reset ∨ ¬ event.IsTerminal ∧
      ((∃ node state times, event.node = some node ∧ event.shows? node = some (state, times) ∧
          (o' = { o with executing := true, currentNode := some node }.setHighlight node state
              (now + times * o.highlightDuration) ∨
            o' = (o.setHighlight node state
              (now + times * o.highlightDuration)).releaseCurrent node)) ∨
        (∀ node, event.shows? node = none) ∧
          ∃ markers watches, o' = { o with markers, watches }) := by
  have hsilent (hnode : event.node = none) (node : NodeId) : event.shows? node = none := by
    simp [ExecutionEvent.shows?, hnode]
  cases hkind : event.kind with
  | nodeStart | breakpointHit =>
    refine .inr ⟨by simp [ExecutionEvent.IsTerminal, hkind], ?_⟩
    cases hnode : event.node with
    | none =>
      simp only [effect, hkind, hnode, Except.ok.injEq] at h
      exact .inr ⟨hsilent hnode, _, _, h.symm⟩
    | some node =>
      simp only [effect, hkind, hnode, Except.ok.injEq] at h
      refine .inl ⟨node, .executing, 1, rfl, ?_, .inl ?_⟩
      · rw [ExecutionEvent.shows?, if_pos hnode, hkind]
      · rw [← h, Nat.one_mul]
  | nodeComplete =>
    refine .inr ⟨by simp [ExecutionEvent.IsTerminal, hkind], ?_⟩
    cases hnode : event.node with
    | none =>
      simp only [effect, hkind, hnode, Except.ok.injEq] at h
      exact .inr ⟨hsilent hnode, _, _, h.symm⟩
    | some node =>
      obtain ⟨-, herror⟩ | ⟨-, hdone⟩ := o.effect_of_nodeComplete graph now hkind hnode
      · cases herror.symm.trans h
      rw [hdone, Except.ok.injEq] at h
      refine .inl ⟨node, .completed ((elapsedSeconds? event).bind Span.ofSeconds?), 1, rfl, ?_,
        .inr ?_⟩
      · rw [ExecutionEvent.shows?, if_pos hnode, hkind]
      · rw [← h, Nat.one_mul]
  | nodeError =>
    refine .inr ⟨by simp [ExecutionEvent.IsTerminal, hkind], ?_⟩
    cases hnode : event.node with
    | none =>
      simp only [effect, hkind, hnode, Except.ok.injEq] at h
      exact .inr ⟨hsilent hnode, _, _, h.symm⟩
    | some node =>
      simp only [effect, hkind, hnode, Except.ok.injEq] at h
      refine .inl ⟨node, _, 2, rfl, ?_, .inr h.symm⟩
      rw [ExecutionEvent.shows?, if_pos hnode, hkind]
  | dataFlow =>
    refine .inr ⟨by simp [ExecutionEvent.IsTerminal, hkind], .inr
      ⟨fun _ => by simp [ExecutionEvent.shows?, hkind], ?_⟩⟩
    simp only [effect, hkind, Except.ok.injEq] at h
    obtain ⟨markers, hmarkers⟩ := o.addMarker_eq event graph now
    exact ⟨markers, _, h.symm.trans hmarkers⟩
  | variableUpdate =>
    refine .inr ⟨by simp [ExecutionEvent.IsTerminal, hkind], .inr
      ⟨fun _ => by simp [ExecutionEvent.shows?, hkind], ?_⟩⟩
    simp only [effect, hkind] at h
    split at h <;>
    · cases h
      exact ⟨_, _, rfl⟩
  | executionComplete | executionError =>
    simp only [effect, hkind, Except.ok.injEq] at h
    exact .inl ⟨by simp [ExecutionEvent.IsTerminal, hkind], h.symm⟩
  | executionPause | executionResume | unknown =>
    simp only [effect, hkind, Except.ok.injEq] at h
    exact .inr ⟨by simp [ExecutionEvent.IsTerminal, hkind], .inr
      ⟨fun _ => by simp [ExecutionEvent.shows?, hkind], _, _, h.symm⟩⟩

theorem highlighted_of_effect (h : o.effect event graph now = .ok o') :
    o.Highlighted event now o' := by
  obtain ⟨hterminal, rfl⟩ | ⟨hnot, ⟨node, state, times, hnode, hshows, rfl | rfl⟩ |
    ⟨hshows, markers, watches, rfl⟩⟩ := effect_cases h
  · exact ⟨rfl, fun _ _ => rfl, fun hnot => absurd hterminal hnot⟩
  · exact .of_shows hnode hshows hnot rfl (highlight?_setHighlight _ _ _ _)
  · refine .of_shows hnode hshows hnot (pacing_releaseCurrent ..) fun other => ?_
    rw [highlight?_releaseCurrent, highlight?_setHighlight]
  · exact .of_same rfl (fun _ => rfl) hnot hshows

theorem call_apply (o : Overlay R) (event : ExecutionEvent) (graph : Graph R) (now : Instant) :
    o.call (.apply event graph now) = (o.appendLog event).effect event graph now := by
  change (o.apply event graph now).map (·.1) = _
  unfold apply
  cases (o.appendLog event).effect event graph now with
  | ok after => rfl
  | error fault => rfl

theorem highlightDuration_of_call {call : OverlayCall R} (h : o.call call = .ok o') :
    o'.highlightDuration = call.durationAfter o.highlightDuration := by
  cases call with
  | apply event graph now =>
    rw [call_apply] at h
    exact highlightDuration_eq (highlighted_of_effect h).pacing
  | setSpeed speed =>
    cases h
    obtain ⟨changed, hchanged⟩ := o.setSpeed_eq speed
    rw [hchanged]
    rfl
  | clearNode node =>
    cases h
    exact highlightDuration_eq (pacing_releaseCurrent ..)
  | highlightStep _ _ _ | setHighlightDuration _ | expire _ | reset =>
    cases h
    rfl

/-- **What one call does to a node**: it highlights it, or it leaves it highlighted. -/
theorem highlight?_of_call {call : OverlayCall R} (h : o.call call = .ok o') (node : NodeId)
    (shown : Highlight) :
    o'.highlight? node = some shown ↔
      call.shows? node o.highlightDuration = some shown ∨
        o.highlight? node = some shown ∧ call.Leaves node shown.expiresAt := by
  cases call with
  | apply event graph now =>
    rw [call_apply] at h
    obtain ⟨-, hcleared, hshown⟩ := highlighted_of_effect h
    by_cases hterminal : event.IsTerminal
    · have hnone : event.shows? node = none := by
        rcases hterminal with hkind | hkind <;> simp [ExecutionEvent.shows?, hkind]
      simp [hcleared hterminal, OverlayCall.shows?, hnone, OverlayCall.leaves_iff,
        OverlayCall.Clears, hterminal]
    · rw [hshown hterminal]
      change (((event.shows? node).map fun shown =>
        (⟨shown.1, now + shown.2 * o.highlightDuration⟩ : Highlight)).or
          (o.highlight? node)) = _ ↔ _
      cases hshows : event.shows? node <;>
        simp [OverlayCall.shows?, hshows, OverlayCall.leaves_iff, OverlayCall.Clears, hterminal]
  | highlightStep stepped status now =>
    cases h
    rw [highlightStep_eq, highlight?_setHighlight]
    by_cases hnode : node = stepped
    · simp [OverlayCall.shows?, hnode, OverlayCall.leaves_iff]
    · simp [OverlayCall.shows?, hnode, Ne.symm hnode, OverlayCall.leaves_iff, OverlayCall.Clears]
  | setHighlightDuration duration =>
    cases h
    simp [OverlayCall.shows?, OverlayCall.leaves_iff, OverlayCall.Clears, highlight?]
  | setSpeed speed =>
    cases h
    obtain ⟨changed, hchanged⟩ := o.setSpeed_eq speed
    simp [hchanged, OverlayCall.shows?, OverlayCall.leaves_iff, OverlayCall.Clears, highlight?]
  | clearNode cleared =>
    cases h
    rw [clearNode, highlight?_releaseCurrent, highlight?, Table.get?_erase]
    by_cases hnode : node = cleared
    · simp [OverlayCall.shows?, OverlayCall.leaves_iff, OverlayCall.Clears, hnode]
    · simp [OverlayCall.shows?, OverlayCall.leaves_iff, OverlayCall.Clears, hnode, Ne.symm hnode,
        highlight?]
  | expire now =>
    cases h
    rw [expire, highlight?, Table.get?_filter, Option.filter_eq_some_iff]
    simp [OverlayCall.shows?, OverlayCall.leaves_iff, OverlayCall.Clears, highlight?]
  | reset =>
    cases h
    simp [OverlayCall.shows?, OverlayCall.leaves_iff, OverlayCall.Clears, highlight?, reset]

/-- An event can be shown unless it tells of a time that fits no span. -/
theorem exists_effect_iff (o : Overlay R) (event : ExecutionEvent) (graph : Graph R)
    (now : Instant) : (∃ o', o.effect event graph now = .ok o') ↔ ¬ event.IsOverlong := by
  by_cases hcomplete : event.kind = .nodeComplete ∧ event.node ≠ none
  · obtain ⟨hkind, hnode⟩ := hcomplete
    obtain ⟨node, hnode⟩ := Option.ne_none_iff_exists'.1 hnode
    obtain ⟨hlong, heffect⟩ | ⟨hnot, heffect⟩ := o.effect_of_nodeComplete graph now hkind hnode
    · rw [heffect]
      simp [hlong]
    · exact iff_of_true ⟨_, heffect⟩ hnot
  · refine iff_of_true ?_ fun hlong => hcomplete ⟨hlong.1, hlong.2.1⟩
    cases hkind : event.kind with
    | nodeComplete =>
      have hnode : event.node = none := not_ne_iff.1 fun hnode => hcomplete ⟨hkind, hnode⟩
      exact ⟨o, by simp only [effect, hkind, hnode]⟩
    | nodeStart | breakpointHit | nodeError | variableUpdate =>
      simp only [effect, hkind]
      split <;> exact ⟨_, rfl⟩
    | dataFlow | executionComplete | executionError | executionPause | executionResume | unknown =>
      exact ⟨_, by simp only [effect, hkind]; rfl⟩

theorem exists_call_iff (o : Overlay R) (call : OverlayCall R) :
    (∃ o', o.call call = .ok o') ↔ ¬ call.IsOverlong := by
  cases call with
  | apply event graph now =>
    rw [call_apply]
    exact (o.appendLog event).exists_effect_iff event graph now
  | highlightStep _ _ _ | setHighlightDuration _ | setSpeed _ | clearNode _ | expire _ | reset =>
    exact iff_of_true ⟨_, rfl⟩ id

/-! ## Any number of calls -/

/-- Calls come to an end, unless one of them breaks down. -/
theorem exists_calls_iff (o : Overlay R) (cs : List (OverlayCall R)) :
    (∃ o', o.calls cs = .ok o') ↔ ∀ call ∈ cs, ¬ call.IsOverlong := by
  induction cs generalizing o with
  | nil => exact iff_of_true ⟨o, rfl⟩ (by simp)
  | cons call cs ih =>
    rw [List.forall_mem_cons, ← o.exists_call_iff call]
    cases hcall : o.call call with
    | error fault => simp [calls, hcall]
    | ok next =>
      rw [← ih next]
      simp [calls, hcall]

/-- **What calls do to a node**: it is highlighted in the end if one of them highlights it, or if it
was highlighted before, and all that come later leave it so. -/
theorem highlight?_of_calls {cs : List (OverlayCall R)} (h : o.calls cs = .ok o') (node : NodeId)
    (shown : Highlight) :
    o'.highlight? node = some shown ↔
      (∃ before call after, cs = before ++ call :: after ∧
        call.shows? node (before.foldl OverlayCall.durationAfter o.highlightDuration) = some shown ∧
        ∀ later ∈ after, later.Leaves node shown.expiresAt) ∨
      o.highlight? node = some shown ∧ ∀ later ∈ cs, later.Leaves node shown.expiresAt := by
  induction cs generalizing o with
  | nil =>
    cases h
    simp
  | cons call cs ih =>
    rw [calls] at h
    cases hcall : o.call call with
    | error fault =>
      rw [hcall] at h
      cases h
    | ok next =>
      rw [hcall] at h
      rw [ih h, highlight?_of_call hcall, highlightDuration_of_call hcall, List.forall_mem_cons]
      -- What was highlighted before the rest is so by the first call, or was so before it.
      constructor
      · rintro (⟨before, c, after, rfl, hshows, hleaves⟩ | ⟨hshows | ⟨hold, hleft⟩, hleaves⟩)
        · exact .inl ⟨call :: before, c, after, rfl, hshows, hleaves⟩
        · exact .inl ⟨[], call, cs, rfl, hshows, hleaves⟩
        · exact .inr ⟨hold, hleft, hleaves⟩
      · rintro (⟨before, c, after, hcs, hshows, hleaves⟩ | ⟨hold, hleft, hleaves⟩)
        · cases before with
          | nil =>
            cases hcs
            exact .inr ⟨.inl hshows, hleaves⟩
          | cons first before =>
            cases hcs
            exact .inl ⟨before, c, after, rfl, hshows, hleaves⟩
        · exact .inr ⟨.inr ⟨hold, hleft⟩, hleaves⟩

/-! ## Deadlines -/

omit [Scalar R] in
/-- After looking for what has expired, nothing is left that has. -/
theorem lt_nextDeadline_expire (o : Overlay R) {now deadline : Instant}
    (h : (o.expire now).1.nextDeadline = some deadline) : now < deadline := by
  have hmem := List.min?_mem h
  rw [List.mem_append, List.mem_map, List.mem_map] at hmem
  obtain ⟨shown, hshown, rfl⟩ | ⟨marker, hmarker, rfl⟩ := hmem
  · rw [expire, Table.values_filter, List.mem_filter] at hshown
    exact of_decide_eq_true hshown.2
  · rw [expire, List.mem_filter] at hmarker
    exact of_decide_eq_true hmarker.2

/-- What has expired would not be shown later either. -/
theorem markersAt_expire (o : Overlay R) {now later : Instant} (h : now ≤ later) :
    (o.expire now).1.markersAt later = o.markersAt later := by
  unfold markersAt
  rw [expire, List.filter_filter]
  congr 2
  funext marker
  simp only [Bool.and_eq_left_iff_imp, decide_eq_true_eq]
  exact Nat.lt_of_le_of_lt h

end Overlay

/-- **The lifetime of highlights.** Whatever is done with an overlay, at whatever instants: it
breaks down only at an event whose elapsed time fits no span. With 64-bit numbers of milliseconds
for spans, and instants in the first half of the time, no doubled span and no deadline is out of
range either, at any of the calls. If the overlay does not break down, a node is highlighted
in the end exactly if a call has highlighted it, and of all later calls none highlights it again,
none clears it, ends an execution or resets the overlay, and none looks for what has expired at its
deadline or later. It is shown in the state of that call, until its instant and the span that was in
force then, or twice that span for an error.

After looking for what has expired, the next deadline is still to come, and the markers to be seen
from then on are the same as without looking. -/
theorem highlight_lifetime [Scalar R] (duration flow : Span) (capacity : Nat)
    (cs : List (OverlayCall R)) :
    ((∃ o, (Overlay.initial duration flow capacity).calls cs = .ok o) ↔
        ∀ call ∈ cs, ¬ call.IsOverlong) ∧
      (duration < .ofMillis (2 ^ 64) → (∀ call ∈ cs, call.InRange) →
        ∀ before call after, cs = before ++ call :: after →
          let span := before.foldl OverlayCall.durationAfter duration
          2 * span < Span.ofSeconds (2 ^ 64) ∧ ∀ node shown,
            call.shows? node span = some shown → shown.expiresAt < Instant.limit) ∧
      (∀ o, (Overlay.initial duration flow capacity).calls cs = .ok o → ∀ node shown,
        (o.highlight? node = some shown ↔
          ∃ before call after, cs = before ++ call :: after ∧
            call.shows? node (before.foldl OverlayCall.durationAfter duration) = some shown ∧
            (∀ later ∈ after, ∀ span, later.shows? node span = none) ∧
            (∀ later ∈ after, ¬ later.Clears node) ∧
            ∀ now, .expire now ∈ after → now < shown.expiresAt)) ∧
      ∀ (o : Overlay R) (now : Instant),
        (∀ deadline, (o.expire now).1.nextDeadline = some deadline → now < deadline) ∧
          ∀ later, now ≤ later → (o.expire now).1.markersAt later = o.markersAt later := by
  refine ⟨Overlay.exists_calls_iff _ cs, ?_, fun o hrun node shown => ?_, fun o now =>
    ⟨fun deadline => o.lt_nextDeadline_expire, fun later => o.markersAt_expire⟩⟩
  · rintro hduration hcs before call after rfl span
    rw [List.forall_mem_append, List.forall_mem_cons] at hcs
    have hspan := OverlayCall.foldl_durationAfter_lt hduration hcs.1
    exact ⟨(Span.double_in_range hspan).1, fun node shown hshows =>
      OverlayCall.expiresAt_lt_limit hshows hspan hcs.2.1⟩
  · have hfresh : (Overlay.initial duration flow capacity : Overlay R).highlight? node ≠
        some shown := by
      intro h
      cases h
    rw [Overlay.highlight?_of_calls hrun, or_iff_left fun h => hfresh h.1]
    simp only [OverlayCall.forall_leaves_iff]
    rfl

/-- A node starts, the span is changed, the node fails, and there are two looks for what has
expired, one of them before the deadline of the failure and the other for an instant long past. -/
def failingNode : List (OverlayCall Float) :=
  [.apply { kind := .nodeStart, node := some "a" } {} 0, .setHighlightDuration 100,
    .apply { kind := .nodeError, node := some "a" } {} 50, .expire 249, .expire 10]

theorem highlight_lifetime_failing :
    ∃ o, (Overlay.initial 1500 800 50).calls failingNode = .ok o ∧
      o.highlight? "a" = some ⟨.error "execution failed", 250⟩ := by
  obtain ⟨hends, -, hlifetime, -⟩ := highlight_lifetime 1500 800 50 failingNode
  have hnever : ∀ call ∈ failingNode, ¬ call.IsOverlong := by
    simp [failingNode, OverlayCall.IsOverlong, ExecutionEvent.IsOverlong]
  obtain ⟨o, hrun⟩ := hends.2 hnever
  refine ⟨o, hrun, (hlifetime o hrun "a" _).2 ⟨failingNode.take 2, _, _, rfl, rfl, ?_⟩⟩
  simp [OverlayCall.shows?, OverlayCall.Clears]

/-- A node has finished after the greatest whole number of seconds that has 64 bits. -/
def overlongEvent : ExecutionEvent :=
  { kind := .nodeComplete, node := some "a"
    data := some (.ofList [("elapsed", .ofNat 18446744073709551615)]) }

/-- **An event can be too much for an overlay**: it says that a node has finished, and instead of
the node being highlighted the call breaks down. -/
theorem overlong_event_shows_nothing :
    (Overlay.initial 1500 800 50 : Overlay Float).calls [.apply overlongEvent {} 0] =
        .error .elapsedTooLong ∧
      ∃ shown, OverlayCall.shows? "a" 1500 (.apply overlongEvent {} 0 : OverlayCall Float) =
        some shown :=
  ⟨rfl, _, rfl⟩

end NodeCanvas
