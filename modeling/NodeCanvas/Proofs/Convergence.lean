import NodeCanvas.Proofs.Operation
/-!
# Agreement once every announcement is delivered

A run interleaves edits of a client with the delivery of the backend's announcements, oldest first,
while rules that refuse requests come and go. Whenever no announcement is left, client and backend
have the same nodes, and what the client draws of its connections is what the backend has
(`Session.agrees_when_settled`).

What the client stores may be more. A node that is deleted while a connection to it is still to be
announced is gone when the connection arrives, and the announcement of the deletion finds no node to
take the connection along with: the connection stays behind without an end
(`Session.deletion_strands_connection`). It is the only way in which they come to differ.
-/

namespace NodeCanvas

variable {R : Type} [Scalar R]

/-- A step of a run. -/
inductive RunStep (R : Type) where
  /-- The client makes an edit. -/
  | edit (edit : GraphEdit R)
  /-- The oldest announcement that is queued, if there is one, is delivered. -/
  | deliver
  /-- From now on the backend refuses requests by these rules. -/
  | refuse (rules : List FailureRule)

namespace World

/-- The world after a step. -/
def takeStep (w : LocalWorld R) : RunStep R → Except OverlayFault (LocalWorld R)
  | .edit e => do return (← w.run (e.attempt : Attempt R MemoryStore Unit).run).2
  | .deliver => do return (← w.pump (some 1)).2
  | .refuse rules =>
    .ok { w with remote := { w.remote with
      backend := { w.remote.backend with failures := rules } } }

/-- The world after several steps. -/
def takeSteps (w : LocalWorld R) : List (RunStep R) → Except OverlayFault (LocalWorld R)
  | [] => .ok w
  | step :: steps => do takeSteps (← w.takeStep step) steps

/-- The step does not delete a node while a connection to it is still to be announced. -/
def StepInOrder (w : LocalWorld R) : RunStep R → Prop
  | .edit (.deleteNode a) => ∀ c, .connectionAdded c ∈ w.remote.pushes → c.touches a = false
  | _ => True

/-- No step does so. -/
def StepsInOrder (w : LocalWorld R) : List (RunStep R) → Prop
  | [] => True
  | step :: steps =>
    w.StepInOrder step ∧ ∀ w', w.takeStep step = .ok w' → w'.StepsInOrder steps

end World

/-! ## Steps and runs -/

/-- Nothing in a graph is from here. -/
structure Graph.AllRemote (g : Graph R) : Prop where
  nodes : ∀ id, g.nodes.contains id = true → ¬ IsLocalId id
  connections : ∀ id, g.connections.contains id = true → ¬ IsLocalId id

theorem Graph.AllRemote.alter {g : Graph R} (h : g.AllRemote) (hk : g.Keyed) {ch : GraphChange R}
    (hremote : ch.Remote) : (g.alter ch).AllRemote where
  nodes id hid := by
    obtain hold | hput := contains_of_alter hid
    · exact h.nodes id hold
    · cases ch with
      | put node =>
        cases hput
        exact hremote
      | _ => cases hput
  connections id hid := by
    obtain ⟨c, hc⟩ := Table.contains_iff.1 hid
    obtain hold | ⟨rfl, rfl⟩ := connection_of_alter hk hc
    · exact h.connections id (Table.contains_iff.2 ⟨c, hold⟩)
    · exact hremote.1

theorem Graph.AllRemote.settle {g : Graph R} (h : g.AllRemote) (hk : g.Keyed)
    {changes : List (GraphChange R)} (hremote : ∀ ch ∈ changes, ch.Remote) :
    (g.settle changes).AllRemote := by
  induction changes generalizing g with
  | nil => exact h
  | cons ch changes ih =>
    exact ih (h.alter hk (hremote ch List.mem_cons_self)) (hk.alter ch)
      fun ch' hch' => hremote ch' (List.mem_cons_of_mem ch hch')

theorem Graph.AllRemote.edited {g g' : Graph R} {e : GraphEdit R} {link link' : Link R}
    (h : g.AllRemote) (hk : g.Keyed) (hs : link.backend.Sound)
    (hedited : Edited e g link g' link') : g'.AllRemote := by
  cases hedited with
  | announced => exact h
  | committed b' p ch hchange hearly hdeleted heffect =>
    exact h.alter hk (heffect.remote hs ch List.mem_cons_self)
  | here ch hlocal => exact h.alter hk hlocal.remote
  | connectedHere c hid hloop hend =>
    obtain ⟨a, -, ha, hstored⟩ := hend
    exact absurd ha (h.nodes a hstored)

namespace World

variable {lenient : Prop} {w : LocalWorld R}

/-- What a run keeps: the client follows its backend, everything on the canvas is from there, and
parameters can be read if those of all new nodes can. -/
structure InStep (lenient readable : Prop) (w : LocalWorld R) : Prop where
  follows : w.Follows lenient
  allRemote : w.canvas.graph.AllRemote
  readable : readable → w.remote.backend.Readable

theorem InStep.takeStep {readable : Prop} (h : w.InStep lenient readable) (step : RunStep R)
    (hleft : lenient ∨ w.StepInOrder step)
    (hcreate : readable → ∀ spec, step = .edit (.createNode spec) → Bag.Decodable spec.parameters) :
    ∃ w', w.takeStep step = .ok w' ∧ w'.InStep lenient readable := by
  have hfollowing := h.follows.following
  cases step with
  | edit e =>
    have hleft : lenient ∨ ∀ a, e = .deleteNode a → ∀ c, .connectionAdded c ∈ w.remote.pushes →
        c.touches a = false := by
      refine hleft.imp_right fun horder a ha => ?_
      subst ha
      exact horder
    obtain ⟨result, w', hrun, hedited, hfollows⟩ := h.follows.edit e hleft
    refine ⟨w', ?_, hfollows, ?_, fun hreadable => ?_⟩
    · rw [World.takeStep, hrun]
      rfl
    · exact h.allRemote.edited hfollowing.tidy.keyed hfollowing.sound hedited.edited
    · refine (h.readable hreadable).edited (fun spec he => ?_) hedited.edited
      exact hcreate hreadable spec (congrArg RunStep.edit he)
  | deliver =>
    obtain ⟨n, w', hrun, -, hbecomes, hfollows⟩ := h.follows.pump (some 1)
    refine ⟨w', ?_, hfollows, ?_, fun hreadable => ?_⟩
    · rw [World.takeStep, hrun]
      rfl
    · rw [hbecomes.canvas.graph]
      refine h.allRemote.settle hfollowing.tidy.keyed fun ch hch => hfollowing.remote ch ?_
      exact (List.take_sublist n _).filterMap _ |>.subset hch
    · rw [hbecomes.remote]
      exact h.readable hreadable
  | refuse rules =>
    have hkeep : w.remote.backend.Effect { w.remote.backend with failures := rules } [] :=
      .keep rfl rfl rfl
    have hfollowing' := hfollowing.announce hkeep
    rw [List.append_nil] at hfollowing'
    exact ⟨_, rfl, ⟨hfollowing', h.follows.subscribed, h.follows.safe, h.follows.owed,
      h.follows.restoring⟩, h.allRemote, h.readable⟩

/-- **Every run ends, and the client follows the backend to its end.** -/
theorem InStep.takeSteps {readable : Prop} (h : w.InStep lenient readable)
    (steps : List (RunStep R)) (hleft : lenient ∨ w.StepsInOrder steps)
    (hcreate : readable → ∀ spec, .edit (.createNode spec) ∈ steps →
      Bag.Decodable spec.parameters) :
    ∃ w', w.takeSteps steps = .ok w' ∧ w'.InStep lenient readable := by
  induction steps generalizing w with
  | nil => exact ⟨w, rfl, h⟩
  | cons step steps ih =>
    obtain ⟨w', hstep, h'⟩ := h.takeStep step (hleft.imp_right And.left)
      fun hreadable spec hspec => hcreate hreadable spec (hspec ▸ List.mem_cons_self)
    obtain ⟨w'', hsteps, h''⟩ := ih h' (hleft.imp_right fun horder => horder.2 w' hstep)
      fun hreadable spec hspec => hcreate hreadable spec (List.mem_cons_of_mem step hspec)
    refine ⟨w'', ?_, h''⟩
    rw [World.takeSteps, hstep]
    exact hsteps

end World

/-! ## When nothing is left to be delivered -/

namespace Graph.Mirrors

variable {lenient : Prop} {g : Graph R} {b : Backend R}

theorem rel (h : g.Mirrors lenient b) (hs : b.Sound) (hr : g.AllRemote) (id : NodeId) :
    Option.Rel NodeLike (g.nodes.get? id) (b.nodes.get? id) := by
  by_cases hid : IsLocalId id
  -- Neither side has anything under an id from here.
  · have hg : g.nodes.get? id = none := Option.not_isSome_iff_eq_none.1 fun hstored =>
      hr.nodes id hstored hid
    have hb : b.nodes.get? id = none := Option.not_isSome_iff_eq_none.1 fun hstored =>
      hs.not_isLocalId hstored hid
    rw [hg, hb]
    exact .none
  · exact h.nodes id hid

theorem contains_eq (h : g.Mirrors lenient b) (hs : b.Sound) (hr : g.AllRemote) (id : NodeId) :
    g.nodes.contains id = b.nodes.contains id :=
  Table.contains_eq_of_rel (h.rel hs hr id)

/-- The connections with both ends on the canvas are those of the backend. -/
theorem filter_ends_eq (h : g.Mirrors lenient b) (hs : b.Sound) (hr : g.AllRemote) :
    (g.connections.filter fun _ c => g.nodes.contains c.source && g.nodes.contains c.target) =
      b.connections := by
  refine Table.ext_get? fun id => Option.ext fun c => ?_
  rw [Table.get?_filter, Option.filter_eq_some_iff, Bool.and_eq_true, h.contains_eq hs hr,
    h.contains_eq hs hr]
  constructor
  · rintro ⟨hc, hsource, htarget⟩
    obtain hb | ⟨-, a, htouch, -, habsent⟩ :=
      h.excess id c (hr.connections id (Table.contains_iff.2 ⟨c, hc⟩)) hc
    · exact hb
    -- A stranded connection lacks an end, and this one has both.
    · rw [Connection.touches, Bool.or_eq_true, beq_iff_eq, beq_iff_eq] at htouch
      obtain rfl | rfl := htouch
      · rw [hsource] at habsent
        cases habsent
      · rw [htarget] at habsent
        cases habsent
  · intro hc
    obtain ⟨hsource, htarget, -⟩ := hs.ends id c hc
    exact ⟨h.covered id c hc, hsource, htarget⟩

/-- They are all there are exactly if none has lost an end. -/
theorem connections_eq_iff (h : g.Mirrors lenient b) (hs : b.Sound) (hr : g.AllRemote) :
    g.connections = b.connections ↔ ∀ c ∈ g.connections.values,
      g.nodes.contains c.source = true ∧ g.nodes.contains c.target = true := by
  constructor
  · intro heq c hc
    obtain ⟨id, hid⟩ := Table.mem_values_iff.1 hc
    rw [heq] at hid
    obtain ⟨hsource, htarget, -⟩ := hs.ends id c hid
    rw [h.contains_eq hs hr, h.contains_eq hs hr]
    exact ⟨hsource, htarget⟩
  · intro hends
    rw [← h.filter_ends_eq hs hr]
    refine Table.ext_get? fun id => Option.ext fun c => ?_
    rw [Table.get?_filter, Option.filter_eq_some_iff, Bool.and_eq_true]
    exact ⟨fun hc => ⟨hc, hends c (Table.mem_values_iff.2 ⟨id, hc⟩)⟩, And.left⟩

/-- Without stranded connections there are no others. -/
theorem connections_eq (h : g.Mirrors False b) (hr : g.AllRemote) :
    g.connections = b.connections := by
  refine Table.ext_get? fun id => Option.ext fun c => ?_
  constructor
  · intro hc
    obtain hb | ⟨hfalse, -⟩ := h.excess id c (hr.connections id (Table.contains_iff.2 ⟨c, hc⟩)) hc
    · exact hb
    · exact hfalse.elim
  · exact h.covered id c

end Graph.Mirrors

namespace Session

theorem inStep_initial (lenient readable : Prop) (settings : Settings) (ids : IdSource)
    (clock : Timestamp) :
    (Session.initial settings ids clock : Session R).world.InStep lenient readable where
  follows := ⟨Following.empty lenient rfl rfl, rfl, by simp [Session.initial], rfl, rfl⟩
  allRemote := ⟨fun _ h => (by cases h), fun _ h => (by cases h)⟩
  readable _ _ _ h := by cases h

/-- **Agreement when everything is delivered.** Every run ends. If no announcement is left then, both
sides have the same nodes, and the client draws the connections that the backend has; it stores no
others unless some have lost an end. None has if no node was deleted while a connection to it was
still to be announced. The parameters of a node are included if they can be read, and all can if those
of new nodes could. -/
theorem agrees_when_settled (settings : Settings) (ids : IdSource) (clock : Timestamp)
    (steps : List (RunStep R)) :
    ∃ w, (Session.initial settings ids clock : Session R).world.takeSteps steps = .ok w ∧
      (w.remote.pushes = [] →
        (∀ id, Option.Rel NodeLike (w.canvas.graph.nodes.get? id)
          (w.remote.backend.nodes.get? id)) ∧
        w.canvas.graph.renderable = w.remote.backend.connections.values ∧
        (w.canvas.graph.connections = w.remote.backend.connections ↔
          ∀ c ∈ w.canvas.graph.connections.values,
            w.canvas.graph.nodes.contains c.source = true ∧
              w.canvas.graph.nodes.contains c.target = true) ∧
        ((Session.initial settings ids clock : Session R).world.StepsInOrder steps →
          w.canvas.graph.connections = w.remote.backend.connections)) ∧
      ((∀ spec, .edit (.createNode spec) ∈ steps → Bag.Decodable spec.parameters) →
        w.remote.backend.Readable) := by
  obtain ⟨w, hrun, hstep⟩ := (inStep_initial (R := R) True
    (∀ spec, .edit (.createNode spec) ∈ steps → Bag.Decodable spec.parameters)
    settings ids clock).takeSteps steps (.inl trivial) id
  refine ⟨w, hrun, fun hempty => ?_, hstep.readable⟩
  have hfollowing := hstep.follows.following
  rw [hempty] at hfollowing
  have hmirrors : w.canvas.graph.Mirrors True w.remote.backend := hfollowing.mirrors
  have hs := hfollowing.sound
  have hr := hstep.allRemote
  refine ⟨hmirrors.rel hs hr, ?_, ?_, fun horder => ?_⟩
  · rw [Graph.renderable, ← hmirrors.filter_ends_eq hs hr]
    exact (Table.values_filter _ _).symm
  · exact hmirrors.connections_eq_iff hs hr
  -- A run in order keeps the strict invariant as well, and it is the same run.
  · obtain ⟨w', hrun', hstrict⟩ := (inStep_initial (R := R) False False settings ids clock).takeSteps
      steps (.inr horder) False.elim
    rw [hrun] at hrun'
    cases hrun'
    have hfollowing := hstrict.follows.following
    rw [hempty] at hfollowing
    exact Graph.Mirrors.connections_eq hfollowing.mirrors hr

/-- A connection is announced after the node at its end has gone, and stays behind: all is delivered,
and the client has a connection that the backend has not. -/
theorem deletion_strands_connection :
    (((Session.initial {} .counting ⟨0, 0⟩ : Session Rat).world.takeSteps
      [.edit (.createNode { type := "a", position := ⟨0, 0⟩ }),
        .edit (.createNode { type := "b", position := ⟨10, 0⟩ }), .deliver, .deliver,
        .edit (.connect "node-1" "output" "node-2" "input"), .edit (.deleteNode "node-1"),
        .deliver, .deliver]).toOption.map fun w =>
          (w.remote.pushes.length, w.canvas.graph.nodes.keys, w.remote.backend.nodes.keys,
            w.canvas.graph.connections.keys, w.remote.backend.connections.keys)) =
      some (0, ["node-2"], ["node-2"], ["conn-3"], []) := by
  decide +kernel

end Session

end NodeCanvas
