import NodeCanvas.Proofs.Settled
import NodeCanvas.Proofs.Worlds
/-!
# Where ids come from

A client makes up ids for what its backend does not have. Which ones is told by its runs:
`Program.Draws` says that an id is drawn in a run, at a place where the client makes one up. `Traced`
is the invariant that follows the ids: whatever is on the canvas bears an id that was made up here or
that the backend gave out, the marks tell which, and no recorded request is about one of the former.

A program may place under an id of its own only what it has made up itself. `Program.Yields` is for
this: it says what a program comes to, provided that whatever it draws counts as made up here. The
proviso is handed on to the parts of the program.
-/

namespace NodeCanvas

variable {R : Type}

/-! ## Recorded requests -/

/-- The names of the requests about nodes and connections that there are already. -/
def aimedNames : List String :=
  ["move_node", "delete_node", "update_node_parameters", "update_node_metadata",
    "update_node_ports", "create_connection", "delete_connection"]

/-- The id occurs in what the request was recorded to be about. -/
def RecordedCall.Mentions (call : RecordedCall) (id : String) : Prop :=
  ∃ before after, call.target = some (before ++ id ++ after)

/-- If the request is about something that there is already, then about nothing that was made up
here. -/
def RecordedCall.Clean (call : RecordedCall) : Prop :=
  call.name ∈ aimedNames → ∀ id, IsLocalId id → ¬ call.Mentions id

namespace Request

theorem isAimed_of_name {r : Request R} (h : r.name ∈ aimedNames) : r.isAimed = true := by
  cases r <;> first | rfl | simp [name, aimedNames] at h

/-- The request is about nothing but what bears one of the ids given out so far. -/
def Foreign (allocated : Nat) : Request R → Prop
  | .moveNode node _ | .deleteNode node | .updateParameters node _ | .updateMetadata node _
  | .updatePorts node _ => Issued "node" allocated node
  | .createConnection spec =>
    Issued "node" allocated spec.source ∧ Issued "node" allocated spec.target
  | .deleteConnection connection => Issued "conn" allocated connection
  | _ => True

theorem foreign_of_not_isAimed {r : Request R} (h : r.isAimed = false) (n : Nat) : r.Foreign n := by
  cases r with
  | moveNode | deleteNode | updateParameters | updateMetadata | updatePorts | createConnection
  | deleteConnection => cases h
  | _ => trivial

end Request

/-- An id from here has a letter that no id of the backend has. -/
theorem IsLocalId.mem_toList {id : String} (h : IsLocalId id) : 'l' ∈ id.toList := by
  obtain ⟨rest, rfl⟩ := h
  simp [localMark]

theorem Issued.not_mem_toList {kind id : String} {n : Nat} (h : Issued kind n id)
    (hkind : 'l' ∉ kind.toList) : 'l' ∉ id.toList := by
  obtain ⟨k, -, rfl⟩ := h
  have hdigits : 'l' ∉ Nat.toDigits 10 k := by
    intro hmem
    have hdigit := Nat.isDigit_of_mem_toDigits (by decide) (by decide) hmem
    exact absurd hdigit (by decide)
  simp [hkind, hdigits]

/-- **A request about what the backend gave out is about nothing from here.** -/
theorem Request.Foreign.clean {r : Request R} {n : Nat} (h : r.Foreign n) :
    RecordedCall.Clean ⟨r.name, r.target⟩ := by
  intro hname id hlocal hmention
  obtain ⟨before, after, htarget⟩ := hmention
  have haimed : r.isAimed = true := isAimed_of_name hname
  -- The letter of the id would occur in the target.
  have hmem : ∀ text, r.target = some text → 'l' ∈ text.toList := by
    intro text htext
    cases htarget.symm.trans htext
    simp [hlocal.mem_toList]
  have hnode : ∀ {id}, Issued "node" n id → 'l' ∉ id.toList :=
    fun hid => hid.not_mem_toList (by decide)
  cases r with
  | moveNode node | deleteNode node | updateParameters node | updateMetadata node
  | updatePorts node => exact hnode h (hmem _ rfl)
  | createConnection spec =>
    have hends := hmem _ rfl
    simp [hnode h.1, hnode h.2] at hends
  | deleteConnection connection => exact h.not_mem_toList (by decide) (hmem _ rfl)
  | _ => cases haimed

namespace Backend

variable [Scalar R]

theorem calls_perform {b : Backend R} {r : Request R} {done : Accepted R r.Reply}
    (h : b.perform r = .ok done) : done.backend.calls = b.calls := by
  cases r with
  | moveNode | deleteNode | updateParameters | updateMetadata | updatePorts =>
    obtain ⟨found, -, h⟩ := findNode_bind_eq_ok h
    cases h
    rfl
  | createConnection spec =>
    obtain ⟨-, -, -, rfl⟩ := createConnection_eq_ok h
    rfl
  | deleteConnection connection =>
    obtain ⟨-, rfl⟩ := deleteConnection_eq_ok h
    rfl
  | refactorPattern spec =>
    cases h
    rw [refactorPattern]
    split <;> rfl
  | startSession | stepSession | stopSession =>
    obtain ⟨_, -, h⟩ := findSession_bind_eq_ok h
    cases h
    rfl
  | _ =>
    cases h
    rfl

end Backend

/-- A link records what it is asked, whether or not it refuses. -/
theorem Link.calls_answer [Scalar R] (link : Link R) (r : Request R) :
    (link.answer r).2.backend.calls = link.backend.calls ++ [⟨r.name, r.target⟩] := by
  obtain ⟨cause, hanswer⟩ | ⟨done, hperform, hanswer⟩ := link.answer_outcome r
  · rw [hanswer]
    rfl
  · rw [hanswer]
    exact Backend.calls_perform hperform

/-! ## Ids that a run makes up -/

namespace Program

variable {σ ε α β : Type} {handle : Handler R σ ε} {body : Drawing String} {w : World R σ ε}
  {id : String}

/-- In its run the program draws an id by a drawing of its own. -/
inductive Draws (handle : Handler R σ ε) (body : Drawing String) :
    Program R σ α → World R σ ε → String → Prop where
  | here (next : String → Program R σ α) (w : World R σ ε) :
      Draws handle body (.draw body next) w (body.run w.ids).1
  | edit {γ : Type} {edit : Edit R γ} {next : γ → Program R σ α} {w : World R σ ε} {id : String}
      (h : Draws handle body (next (edit w.moment w.canvas).value)
        (w.after (edit w.moment w.canvas)) id) : Draws handle body (.edit edit next) w id
  | announce {event : Event R} {next : Program R σ α} {w : World R σ ε} {id : String}
      (h : Draws handle body next (w.telling event) id) :
      Draws handle body (.announce event next) w id
  | draw {γ : Type} {drawing : Drawing γ} {next : γ → Program R σ α} {w : World R σ ε} {id : String}
      (h : Draws handle body (next (drawing.run w.ids).1)
        { w with ids := (drawing.run w.ids).2 } id) : Draws handle body (.draw drawing next) w id
  | request {call : Request R} {next : Except RequestError call.Reply → Program R σ α}
      {reply : Except RequestError call.Reply} {w w' : World R σ ε} {id : String}
      (hanswer : handle call w = .ok (reply, w')) (h : Draws handle body (next reply) w' id) :
      Draws handle body (.request call next) w id
  | store {γ : Type} {access : σ → γ × σ} {next : γ → Program R σ α} {w : World R σ ε} {id : String}
      (h : Draws handle body (next (access w.store).1) { w with store := (access w.store).2 } id) :
      Draws handle body (.store access next) w id

/-- What is drawn comes from the drawing. -/
theorem Draws.exists_run {program : Program R σ α}
    (h : program.Draws handle body w id) : ∃ ids, id = (body.run ids).1 := by
  induction h with
  | here next w => exact ⟨w.ids, rfl⟩
  | edit _ ih | announce _ ih | draw _ ih | request _ _ ih | store _ ih => exact ih

theorem Draws.bind_left {program : Program R σ α}
    (h : program.Draws handle body w id) (f : α → Program R σ β) :
    (program >>= f).Draws handle body w id := by
  change (program.bind f).Draws handle body w id
  induction h with
  | here next w => exact .here _ w
  | edit _ ih => exact .edit ih
  | announce _ ih => exact .announce ih
  | draw _ ih => exact .draw ih
  | request hanswer _ ih => exact .request hanswer ih
  | store _ ih => exact .store ih

theorem Draws.bind_right {program : Program R σ α} {f : α → Program R σ β} {w' : World R σ ε}
    {a : α} (hrun : program.runWith handle w = .ok (a, w'))
    (h : (f a).Draws handle body w' id) : (program >>= f).Draws handle body w id := by
  change (program.bind f).Draws handle body w id
  induction program generalizing w with
  | done value =>
    cases hrun
    exact h
  | edit edit next ih => exact .edit (ih _ hrun)
  | announce event next ih => exact .announce (ih hrun)
  | draw drawing next ih => exact .draw (ih _ hrun)
  | request call next ih =>
    rw [runWith] at hrun
    cases hanswer : handle call w with
    | error fault =>
      rw [hanswer] at hrun
      cases hrun
    | ok answered =>
      rw [hanswer] at hrun
      exact .request hanswer (ih _ hrun)
  | store access next ih => exact .store (ih _ hrun)
  | abort fault => cases hrun

end Program

/-- Ids that were made up here, for nodes and for connections. -/
structure Origins where
  node : NodeId → Prop
  connection : ConnectionId → Prop

section Runs

variable [Scalar R] {α β : Type} {made : Origins} {w : LocalWorld R}

/-- What the program makes up in its run is among the ids that were made up here. -/
structure Program.Licensed (made : Origins) (program : Program R MemoryStore α)
    (w : LocalWorld R) : Prop where
  node : ∀ id, program.Draws Link.handle freshLocalNode w id → made.node id
  connection : ∀ id, program.Draws Link.handle freshLocalConnection w id → made.connection id

/-- If the program may make up what it does, it ends only with a value and in a world that are as
told. -/
def Program.Yields (made : Origins) (program : Program R MemoryStore α) (w : LocalWorld R)
    (post : α → LocalWorld R → Prop) : Prop :=
  program.Licensed made w → ∀ a w', w.run program = .ok (a, w') → post a w'

namespace Program

variable {program : Program R MemoryStore α} {post : α → LocalWorld R → Prop}

theorem Yields.mono {weaker : α → LocalWorld R → Prop}
    (h : program.Yields made w post) (himp : ∀ a w', post a w' → weaker a w') :
    program.Yields made w weaker :=
  fun hlicensed a w' hrun => himp a w' (h hlicensed a w' hrun)

theorem Yields.of_ends (h : program.Ends Link.handle w post) : program.Yields made w post :=
  fun _ _ _ hrun => (ends_iff_of_run hrun).1 h

/-- The parts of a program may make up what the whole may. -/
theorem Yields.bind {f : α → Program R MemoryStore β} {post : β → LocalWorld R → Prop}
    (h : program.Yields made w fun a w' => (f a).Yields made w' post) :
    (program >>= f).Yields made w post := by
  intro hlicensed b w'' hrun
  have hends : (program >>= f).Ends Link.handle w fun b' w' => b' = b ∧ w' = w'' :=
    ⟨b, w'', hrun, rfl, rfl⟩
  obtain ⟨a, w', hfirst, b', w₂, hrest, rfl, rfl⟩ := ends_bind.1 hends
  have hpart : program.Licensed made w :=
    ⟨fun id hid => hlicensed.node id (hid.bind_left f),
      fun id hid => hlicensed.connection id (hid.bind_left f)⟩
  refine h hpart a w' hfirst ⟨fun id hid => ?_, fun id hid => ?_⟩ b' w₂ hrest
  · exact hlicensed.node id (.bind_right hfirst hid)
  · exact hlicensed.connection id (.bind_right hfirst hid)

theorem yields_pure {a : α} (h : post a w) :
    (pure a : Program R MemoryStore α).Yields made w post :=
  .of_ends (ends_pure.2 h)

theorem yields_send {r : Request R} {post : Except RequestError r.Reply → LocalWorld R → Prop}
    (h : post (w.remote.answer r).1 { w with remote := (w.remote.answer r).2 }) :
    (send r : Program R MemoryStore _).Yields made w post := by
  refine .of_ends ?_
  rw [Link.handle_eq]
  exact ends_send.2 h

/-- What is made up for a node counts as such. -/
theorem yields_freshNode {post : NodeId → LocalWorld R → Prop}
    (h : ∀ id ids, made.node id → IsLocalId id → post id { w with ids }) :
    (fresh freshLocalNode : Program R MemoryStore _).Yields made w post := by
  intro hlicensed id w' hrun
  cases hrun
  exact h _ _ (hlicensed.node _ (.here _ w)) (isLocalId_freshLocalNode w.ids)

theorem yields_freshConnection {post : ConnectionId → LocalWorld R → Prop}
    (h : ∀ id ids, made.connection id → IsLocalId id → post id { w with ids }) :
    (fresh freshLocalConnection : Program R MemoryStore _).Yields made w post := by
  intro hlicensed id w' hrun
  cases hrun
  exact h _ _ (hlicensed.connection _ (.here _ w)) (isLocalId_freshLocalConnection w.ids)

end Program

/-- The same of a program that may fail. -/
def Attempt.Yields (made : Origins) (attempt : Attempt R MemoryStore α) (w : LocalWorld R)
    (post : Except ClientError α → LocalWorld R → Prop) : Prop :=
  Program.Yields made attempt.run w post

namespace Attempt

variable {post : Except ClientError α → LocalWorld R → Prop}

theorem Yields.of_ends {attempt : Attempt R MemoryStore α} (h : attempt.Ends Link.handle w post) :
    attempt.Yields made w post :=
  Program.Yields.of_ends h

theorem Yields.bind {attempt : Attempt R MemoryStore α} {f : α → Attempt R MemoryStore β}
    {post : Except ClientError β → LocalWorld R → Prop}
    (h : attempt.Yields made w fun result w' =>
      match result with
      | .ok a => (f a).Yields made w' post
      | .error error => post (.error error) w') :
    (attempt >>= f).Yields made w post := by
  refine Program.Yields.bind (Program.Yields.mono h fun result w' hrest => ?_)
  cases result with
  | ok a => exact hrest
  | error error => exact Program.yields_pure hrest

theorem yields_always {program : Program R MemoryStore α}
    (h : program.Yields made w fun a w' => post (.ok a) w') :
    (always program).Yields made w post :=
  Program.Yields.bind (h.mono fun _ _ hrest => Program.yields_pure hrest)

end Attempt

/-! ## Traced worlds -/

/-- Whatever is on a graph was made up here, which its mark tells, or was given out by the backend;
and the backend was asked about nothing but the latter. -/
structure Traced (made : Origins) (g : Graph R) (link : Link R) : Prop where
  tidy : g.Tidy
  orderly : link.Orderly
  madeNode : ∀ id, made.node id → IsLocalId id
  madeConnection : ∀ id, made.connection id → IsLocalId id
  node : ∀ id, g.nodes.contains id = true →
    made.node id ∨ Issued "node" link.backend.allocated id
  connection : ∀ id, g.connections.contains id = true →
    made.connection id ∨ Issued "conn" link.backend.allocated id
  calls : ∀ call ∈ link.backend.calls, call.Clean

namespace Traced

variable {g : Graph R} {link : Link R}

omit [Scalar R] in
/-- A node that was not made up here was given out by the backend. -/
theorem issued_node (h : Traced made g link) {id : NodeId} (hid : g.nodes.contains id = true)
    (hlocal : ¬ IsLocalId id) : Issued "node" link.backend.allocated id :=
  (h.node id hid).resolve_left fun hmade => hlocal (h.madeNode id hmade)

omit [Scalar R] in
theorem issued_connection (h : Traced made g link) {id : ConnectionId}
    (hid : g.connections.contains id = true) (hlocal : ¬ IsLocalId id) :
    Issued "conn" link.backend.allocated id :=
  (h.connection id hid).resolve_left fun hmade => hlocal (h.madeConnection id hmade)

/-- **Asking about what was given out leaves everything traced.** -/
theorem answer (h : Traced made g link) {r : Request R}
    (hr : r.Foreign link.backend.allocated) : Traced made g (link.answer r).2 := by
  have hle : link.backend.allocated ≤ (link.answer r).2.backend.allocated := by
    obtain ⟨cause, b', hanswer, heffect⟩ | ⟨done, -, hanswer, heffect, -⟩ := link.answer_cases r
    · rw [hanswer]
      exact heffect.allocated_le
    · rw [hanswer]
      exact heffect.allocated_le
  refine ⟨h.tidy, h.orderly.answer r, h.madeNode, h.madeConnection, fun id hid => ?_,
    fun id hid => ?_, fun call hcall => ?_⟩
  · exact (h.node id hid).imp_right fun hissued => hissued.mono hle
  · exact (h.connection id hid).imp_right fun hissued => hissued.mono hle
  · rw [link.calls_answer r] at hcall
    obtain hold | hnew := List.mem_append.1 hcall
    · exact h.calls call hold
    · rw [List.mem_singleton.1 hnew]
      exact hr.clean

/-- **A change that adds nothing but what was given out leaves everything traced.** -/
theorem alter (h : Traced made g link) {ch : GraphChange R}
    (hch : ch.AddsIssued link.backend.allocated) : Traced made (g.alter ch) link where
  tidy := h.tidy.alter hch.remote
  orderly := h.orderly
  madeNode := h.madeNode
  madeConnection := h.madeConnection
  node id hid := by
    obtain hold | hput := Graph.contains_of_alter hid
    · exact h.node id hold
    · cases ch with
      | put node =>
        cases hput
        exact .inr hch
      | _ => cases hput
  connection id hid := by
    obtain ⟨c, hc⟩ := Table.contains_iff.1 hid
    obtain hold | ⟨rfl, rfl⟩ := Graph.connection_of_alter h.tidy.keyed hc
    · exact h.connection id (Table.contains_iff.2 ⟨c, hold⟩)
    · exact .inr hch.1
  calls := h.calls

theorem replaceAll (h : Traced made g link) :
    Traced made (g.replaceAll link.backend.nodes.values link.backend.connections.values) link where
  tidy := (g.mirrors_replaceAll h.orderly.sound).1
  orderly := h.orderly
  madeNode := h.madeNode
  madeConnection := h.madeConnection
  node id hid := by
    rw [g.nodes_replaceAll h.orderly.sound] at hid
    obtain ⟨n, hn⟩ := Table.contains_iff.1 hid
    exact .inr (h.orderly.sound.nodesIssued id n hn)
  connection id hid := by
    rw [g.connections_replaceAll h.orderly.sound] at hid
    obtain ⟨c, hc⟩ := Table.contains_iff.1 hid
    exact .inr (h.orderly.sound.connectionsIssued id c hc)
  calls := h.calls

/-- A node may be placed under an id that was made up for one. -/
theorem placeHere (h : Traced made g link) (node : Node R) {id : NodeId} (hid : made.node id) :
    Traced made (g.place node (.localOnly id)) link where
  tidy := by
    have hlocal : IsLocalId ({ node with id } : Node R).id := h.madeNode id hid
    exact h.tidy.putHere hlocal
  orderly := h.orderly
  madeNode := h.madeNode
  madeConnection := h.madeConnection
  node k hk := by
    obtain rfl | hold := (g.contains_place node (.localOnly id) k).1 hk
    · exact .inl hid
    · exact h.node k hold
  connection k hk := by
    rw [Graph.connections_place] at hk
    exact h.connection k hk
  calls := h.calls

/-- A connection may be placed under an id that was made up for one. -/
theorem linkHere (h : Traced made g link) {c : Connection} (hid : made.connection c.id)
    (hloop : c.isSelfLoop = false) :
    Traced made ((g.alter (.link c)).markLocalConnection c.id) link where
  tidy := h.tidy.linkHere (h.madeConnection _ hid) hloop
  orderly := h.orderly
  madeNode := h.madeNode
  madeConnection := h.madeConnection
  node k hk := by
    change (g.alter (.link c)).nodes.contains k = true at hk
    rw [Graph.nodes_link] at hk
    exact h.node k hk
  connection k hk := by
    obtain ⟨d, hd⟩ := Table.contains_iff.1 hk
    obtain hold | ⟨hlink, rfl⟩ := Graph.connection_of_alter (g := g) h.tidy.keyed hd
    · exact h.connection k (Table.contains_iff.2 ⟨d, hold⟩)
    · cases hlink
      exact .inl hid
  calls := h.calls

theorem placeConnectionHere (h : Traced made g link) {c : Connection} (hid : made.connection c.id)
    (hloop : c.isSelfLoop = false) : Traced made (g.placeConnection c true) link := by
  rw [Graph.placeConnection_eq, if_pos rfl]
  exact h.linkHere hid hloop

end Traced

end Runs

end NodeCanvas
