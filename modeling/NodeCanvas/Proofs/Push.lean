import NodeCanvas.Proofs.Graph
import NodeCanvas.Proofs.Program
import NodeCanvas.Proofs.Section
import NodeCanvas.Session
/-!
# What pushes do to the graph

A push changes the graph in one of seven ways or not at all (`PushEvent.change?`), and applying it
makes that change (`Client.applyChange_becomes`), except for the announcement of a clearing that a
restore owes. What the queue will do to a graph is then a fold of changes, `Graph.settle`, which says
for each id what is stored under it afterwards (`Graph.nodes_alter`, `Graph.connections_alter`).
-/

namespace NodeCanvas

variable {R : Type} [Scalar R]

/-- A way in which a push changes the graph. -/
inductive GraphChange (R : Type) where
  | put (node : Node R)
  | drop (node : NodeId)
  | patch (node : NodeId) (parts : NodePatch R)
  | merge (node : NodeId) (changes : Table Json)
  | link (connection : Connection)
  | unlink (connection : ConnectionId)
  | wipe

/-- What a push changes in the graph, if anything. -/
def PushEvent.change? : PushEvent R → Option (GraphChange R)
  | .nodeAdded node => some (.put node)
  | .nodeRemoved node => some (.drop node)
  | .nodeMoved node position => some (.patch node { position := some position })
  | .nodeUpdated node changes => some (.merge node changes)
  | .nodeParametersUpdated node parameters => some (.patch node { parameters := some parameters })
  | .nodeMetadataUpdated node metadata => some (.patch node { metadata := some metadata })
  | .nodePortsUpdated node inputs outputs =>
    some (.patch node { inputs := some inputs, outputs := some outputs })
  | .connectionAdded connection => some (.link connection)
  | .connectionRemoved connection => some (.unlink connection)
  | .canvasCleared => some .wipe
  | _ => none

/-- Whether a push announces a clearing. -/
def PushEvent.isClear : PushEvent R → Bool
  | .canvasCleared => true
  | _ => false

omit [Scalar R] in
theorem PushEvent.isClear_iff {p : PushEvent R} : p.isClear = true ↔ p.change? = some .wipe := by
  cases p <;> simp [isClear, change?]

/-- Whether applying a push cannot fail. -/
def PushEvent.Safe : PushEvent R → Prop
  | .execution _ => False
  | _ => True

namespace Graph

/-- The graph after a change. -/
def alter (g : Graph R) : GraphChange R → Graph R
  | .put node => (g.upsertNode node).1
  | .drop node => (g.removeNode node).1
  | .patch node parts => (g.patchNode node parts).1
  | .merge node changes =>
    match g.nodes.get? node with
    | some found => (g.patchNode node (Client.patchOfChanges found changes)).1
    | none => g
  | .link connection =>
    match g.upsertConnection connection with
    | .ok (g, _) => g
    | .error _ => g
  | .unlink connection => (g.removeConnection connection).1
  | .wipe => g.clear.1

/-- The graph after several changes. -/
def settle (g : Graph R) (changes : List (GraphChange R)) : Graph R := changes.foldl alter g

@[simp] theorem settle_nil (g : Graph R) : g.settle [] = g := rfl

@[simp] theorem settle_cons (g : Graph R) (ch : GraphChange R) (changes : List (GraphChange R)) :
    g.settle (ch :: changes) = (g.alter ch).settle changes := rfl

theorem settle_append (g : Graph R) (first second : List (GraphChange R)) :
    g.settle (first ++ second) = (g.settle first).settle second :=
  List.foldl_append

end Graph

/-! ## Sections that make one change -/

/-- The section makes a change of the graph, and does nothing else that has to do with it. -/
def Edit.Alters {α : Type} (edit : Edit R α) (ch : GraphChange R) : Prop :=
  ∀ (m : Moment) (c : Canvas R),
    c.Becomes (edit m c).canvas (c.graph.alter ch) c.saving.owedClears

namespace Client

theorem alters_patchNode (node : NodeId) (patch : NodePatch R) :
    (Edit.patchNode node patch).Alters (.patch node patch) :=
  fun _ _ => Edit.patchNode_becomes _ _

theorem alters_deletion (node : NodeId) :
    (do
      let removed ← Edit.onGraph (·.removeNode node)
      if removed.isSome then
        Edit.onOverlay (·.clearNode node)
        Edit.graphChanged : Edit R Unit).Alters (.drop node) := by
  refine fun m c => Canvas.Becomes.andThen ⟨rfl, rfl, rfl⟩ fun removed => ?_
  split
  · exact .bind (Edit.quiet_onOverlay _) fun _ => Edit.quiet_graphChanged
  · exact Edit.quiet_pure _

theorem alters_disconnection (connection : ConnectionId) :
    (do
      let removed ← Edit.onGraph (·.removeConnection connection)
      if removed.isSome then Edit.graphChanged : Edit R Unit).Alters (.unlink connection) :=
  fun _ _ => Canvas.Becomes.andThen ⟨rfl, rfl, rfl⟩ fun removed =>
    Edit.quiet_graphChangedIf removed.isSome

theorem alters_clearing :
    (do
      Edit.onOverlay (·.reset)
      if ← Edit.onGraph (·.clear) then Edit.graphChanged : Edit R Unit).Alters .wipe :=
  fun _ _ => (Edit.quiet_onOverlay _).andThen
    (Canvas.Becomes.andThen ⟨rfl, rfl, rfl⟩ Edit.quiet_graphChangedIf)

end Client

/-! ## Entity by entity -/

namespace GraphChange

/-- What a change makes of what is stored under the id of a node. -/
def onNode (ch : GraphChange R) (id : NodeId) (stored : Option (Node R)) : Option (Node R) :=
  match ch with
  | .put node => if id = node.id then if stored == some node then stored else some node else stored
  | .drop node => if id = node then none else stored
  | .patch node parts => if id = node then stored.map fun n => (parts.apply n).1 else stored
  | .merge node changes =>
    if id = node then stored.map fun n => ((Client.patchOfChanges n changes).apply n).1 else stored
  | .link _ | .unlink _ => stored
  | .wipe => none

/-- What a change makes of what is stored under the id of a connection, given which nodes there
are. -/
def onConnection (ch : GraphChange R) (present : NodeId → Bool) (id : ConnectionId)
    (stored : Option Connection) : Option Connection :=
  match ch with
  | .put _ | .patch _ _ | .merge _ _ => stored
  | .drop node => if present node then stored.filter (!·.touches node) else stored
  | .link connection =>
    if connection.isSelfLoop = false ∧ id = connection.id then some connection else stored
  | .unlink connection => if id = connection then none else stored
  | .wipe => none

end GraphChange

namespace Graph

variable {g : Graph R}

theorem nodes_link (g : Graph R) (c : Connection) : (g.alter (.link c)).nodes = g.nodes := by
  simp only [alter, upsertConnection]
  split <;> rename_i heq
  · split at heq
    · cases heq
    · split at heq <;> cases heq <;> rfl
  · rfl

theorem nodes_alter (g : Graph R) (ch : GraphChange R) (id : NodeId) :
    (g.alter ch).nodes.get? id = ch.onNode id (g.nodes.get? id) := by
  cases ch with
  | put node => exact nodes_upsertNode g node id
  | drop node => exact nodes_removeNode g node id
  | patch node parts => exact nodes_patchNode g node parts id
  | merge node changes =>
    simp only [alter, GraphChange.onNode]
    by_cases hid : id = node
    · subst hid
      rw [if_pos rfl]
      cases hn : g.nodes.get? id with
      | none => exact hn
      | some found => rw [nodes_patchNode, if_pos rfl, hn]; rfl
    · rw [if_neg hid]
      cases hn : g.nodes.get? node with
      | none => rfl
      | some found => rw [nodes_patchNode, if_neg hid]
  | link connection => rw [nodes_link]; rfl
  | unlink connection => rw [alter, nodes_removeConnection]; rfl
  | wipe => exact nodes_clear g id

/-- A change other than a clearing puts one node, drops one node, or keeps what nodes there are. -/
theorem contains_alter (g : Graph R) {ch : GraphChange R} (hwipe : ch ≠ .wipe) (id : NodeId) :
    (g.alter ch).nodes.contains id = true ↔
      (∃ node, ch = .put node ∧ node.id = id) ∨ g.nodes.contains id = true ∧ ch ≠ .drop id := by
  rw [Table.contains, nodes_alter, Table.contains]
  cases ch with
  | put node =>
    rw [GraphChange.onNode]
    by_cases hid : id = node.id
    · rw [if_pos hid]
      have hput : ∃ n, GraphChange.put node = .put n ∧ n.id = id := ⟨node, rfl, hid.symm⟩
      simp only [hput, true_or, iff_true]
      split
      · rename_i hsame
        cases hstored : g.nodes.get? id with
        | none => rw [hstored] at hsame; cases hsame
        | some stored => rfl
      · rfl
    · rw [if_neg hid]
      simp [Ne.symm hid]
  | drop node =>
    rw [GraphChange.onNode]
    by_cases hid : id = node
    · simp [hid]
    · simp [hid, Ne.symm hid]
  | patch node parts =>
    rw [GraphChange.onNode]
    split <;> simp
  | merge node changes =>
    rw [GraphChange.onNode]
    split <;> simp
  | link c => simp [GraphChange.onNode]
  | unlink c => simp [GraphChange.onNode]
  | wipe => exact (hwipe rfl).elim

theorem connections_link (g : Graph R) (c : Connection) (id : ConnectionId) :
    (g.alter (.link c)).connections.get? id =
      if c.isSelfLoop = false ∧ id = c.id then some c else g.connections.get? id := by
  simp only [alter, upsertConnection]
  cases hloop : c.isSelfLoop with
  | true => simp
  | false =>
    by_cases hsame : g.connections.get? c.id = some c
    · by_cases hid : id = c.id
      · simp [hsame, hid]
      · simp [hsame, hid]
    · simp [hsame, Table.get?_insert]

/-- A connection between two nodes is accepted. -/
theorem upsertConnection_of_not_loop (g : Graph R) {c : Connection} (hloop : c.isSelfLoop = false) :
    ∃ changed, g.upsertConnection c = .ok (g.alter (.link c), changed) := by
  simp only [alter, upsertConnection, hloop]
  by_cases hsame : g.connections.get? c.id = some c
  · exact ⟨false, by simp [hsame]⟩
  · exact ⟨true, by simp [hsame]⟩

theorem connections_alter (h : g.Keyed) (ch : GraphChange R) (id : ConnectionId) :
    (g.alter ch).connections.get? id =
      ch.onConnection g.nodes.contains id (g.connections.get? id) := by
  cases ch with
  | put node => rw [alter, connections_upsertNode]; rfl
  | drop node => exact connections_removeNode h node id
  | patch node parts => rw [alter, connections_patchNode]; rfl
  | merge node changes =>
    rw [alter]
    split
    · rw [connections_patchNode]; rfl
    · rfl
  | link connection => exact connections_link g connection id
  | unlink connection => exact connections_removeConnection g connection id
  | wipe => exact connections_clear g id

/-- A change makes only the connection that it links. -/
theorem connection_of_alter (h : g.Keyed) {ch : GraphChange R} {id : ConnectionId}
    {c : Connection} (hc : (g.alter ch).connections.get? id = some c) :
    g.connections.get? id = some c ∨ ch = .link c ∧ id = c.id := by
  rw [connections_alter h] at hc
  cases ch with
  | put node => exact .inl hc
  | patch node parts => exact .inl hc
  | merge node changes => exact .inl hc
  | drop node =>
    simp only [GraphChange.onConnection] at hc
    split at hc
    · exact .inl (Option.filter_eq_some_iff.1 hc).1
    · exact .inl hc
  | link connection =>
    simp only [GraphChange.onConnection] at hc
    split at hc
    · rename_i hlink
      cases hc
      exact .inr ⟨rfl, hlink.2⟩
    · exact .inl hc
  | unlink connection =>
    simp only [GraphChange.onConnection] at hc
    split at hc
    · cases hc
    · exact .inl hc
  | wipe => cases hc

theorem Keyed.alter (h : g.Keyed) (ch : GraphChange R) : (g.alter ch).Keyed := by
  intro id c hc
  obtain hc | ⟨-, hid⟩ := connection_of_alter h hc
  · exact h id c hc
  · exact hid.symm

theorem Keyed.settle (h : g.Keyed) (changes : List (GraphChange R)) : (g.settle changes).Keyed := by
  induction changes generalizing g with
  | nil => exact h
  | cons ch changes ih => exact ih (h.alter ch)

end Graph

/-! ## Connecting -/

/-- A connection that is made here alone is stored and marked. -/
theorem Client.exists_connectHere {connection : Connection}
    (hloop : connection.isSelfLoop = false) :
    ∃ body : Edit R (Except ClientError ConnectionId),
      (∀ σ : Type, (connectHere connection : Attempt R σ ConnectionId) = .checked body) ∧
      ∀ (m : Moment) (c : Canvas R), c.Becomes (body m c).canvas
        ((c.graph.alter (.link connection)).markLocalConnection connection.id)
        c.saving.owedClears := by
  refine ⟨_, fun σ => rfl, fun m c => (Edit.quiet_read _).andThen ?_⟩
  obtain ⟨changed, hadded⟩ := c.graph.upsertConnection_of_not_loop hloop
  simp only [Edit.read, hadded]
  exact Canvas.Becomes.andThen ⟨rfl, rfl, rfl⟩ fun _ =>
    .bind Edit.quiet_graphChanged fun _ => Edit.quiet_pure _

/-! ## Applying pushes -/

namespace Client

variable {m : Moment} {c : Canvas R}

/-- **A push makes its change of the graph.** A clearing does so unless it is owed or comes during a
restore. -/
theorem applyChange_becomes (p : PushEvent R)
    (hwipe : p.change? = some .wipe → c.saving.owedClears = 0 ∧ c.saving.restoring = false) :
    c.Becomes (applyChange p m c).canvas (c.graph.settle p.change?.toList)
      c.saving.owedClears := by
  cases p with
  | nodeAdded node => exact Canvas.Becomes.ifChanged ⟨rfl, rfl, rfl⟩
  | nodeRemoved node =>
    exact (Edit.quiet_onOverlay _).andThen (Canvas.Becomes.ifChanged ⟨rfl, rfl, rfl⟩)
  | nodeMoved node position => exact Edit.patchNode_becomes _ _
  | nodeUpdated node changes =>
    refine (Edit.quiet_read _).andThen ?_
    change c.Becomes (Outcome.canvas ((match c.graph.nodes.get? node with
      | some found => Edit.patchNode node (patchOfChanges found changes)
      | none => pure ()) m c)) _ _
    simp only [PushEvent.change?, Option.toList, Graph.settle_cons, Graph.settle_nil, Graph.alter]
    cases c.graph.nodes.get? node with
    | none => exact ⟨rfl, rfl, rfl⟩
    | some found => exact Edit.patchNode_becomes _ _
  | nodeParametersUpdated node parameters => exact Edit.patchNode_becomes _ _
  | nodeMetadataUpdated node metadata => exact Edit.patchNode_becomes _ _
  | nodePortsUpdated node inputs outputs => exact Edit.patchNode_becomes _ _
  | connectionAdded connection =>
    refine Canvas.Becomes.ifChanged ⟨?_, rfl, rfl⟩
    simp only [PushEvent.change?, Option.toList, Graph.settle_cons, Graph.settle_nil, Graph.alter,
      Edit.onGraph, Edit.apply]
    cases c.graph.upsertConnection connection <;> rfl
  | connectionRemoved connection => exact Canvas.Becomes.ifChanged ⟨rfl, rfl, rfl⟩
  | canvasCleared =>
    obtain ⟨howed, hrestoring⟩ := hwipe rfl
    refine (Edit.quiet_read _).andThen ?_
    simp only [Edit.read, howed, hrestoring, gt_iff_lt, Nat.lt_irrefl, if_false]
    exact (Edit.quiet_onOverlay _).andThen (Canvas.Becomes.ifChanged ⟨rfl, howed, rfl⟩)
  | viewportChanged update =>
    refine Edit.Quiet.bind (Edit.quiet_onViewport _) (fun changed => ?_) m c
    split
    · exact .bind Edit.quiet_markDirty fun _ => .bind (Edit.quiet_read _) fun _ => Edit.quiet_emit _
    · exact Edit.quiet_pure _
  | paradigmChanged paradigm =>
    refine Edit.Quiet.bind (Edit.quiet_read _) (fun current => ?_) m c
    split
    · exact .bind (Edit.quiet_modify (fun _ => rfl) fun _ => rfl) fun _ => Edit.quiet_emit _
    · exact Edit.quiet_pure _
  | execution event => exact Edit.quiet_pure _ m c
  | debugSessionStarted session state =>
    exact Edit.Quiet.bind (Edit.quiet_onDebug _) Edit.quiet_sessionsChanged m c
  | debugStepExecuted session result =>
    exact Edit.Quiet.bind Edit.quiet_now
      (fun _ => .bind (Edit.quiet_applyDebugStep _ _ _) Edit.quiet_sessionsChanged) m c
  | debugSessionStopped session =>
    exact Edit.Quiet.bind (Edit.quiet_removeDebugSession _) Edit.quiet_sessionsChanged m c
  | allSessionsCompleted results =>
    exact Edit.Quiet.bind (Edit.quiet_onDebug _) Edit.quiet_sessionsChanged m c

/-- The announcement of a clearing that is owed is only counted. -/
theorem applyChange_owed (howed : 0 < c.saving.owedClears) :
    c.Becomes (applyChange .canvasCleared m c).canvas c.graph (c.saving.owedClears - 1) := by
  refine (Edit.quiet_read _).andThen ?_
  have hbranch : (Edit.read (R := R) (·.saving) m c).value.owedClears > 0 := howed
  rw [if_pos hbranch]
  exact ⟨rfl, rfl, rfl⟩

/-- None clears a canvas that is being restored. -/
theorem applyChange_restoring (howed : c.saving.owedClears = 0)
    (hrestoring : c.saving.restoring = true) :
    applyChange .canvasCleared m c = ⟨(), c, []⟩ := by
  simp only [applyChange, applyCleared, bind, Edit.read, howed, hrestoring]
  rfl

/-- Whatever is owed, a push makes its change or leaves the graph as it is. -/
theorem applyChange_outcome (p : PushEvent R) :
    ∃ g owed, c.Becomes (applyChange p m c).canvas g owed ∧
      (g = c.graph ∨ ∃ ch, p.change? = some ch ∧ g = c.graph.alter ch) := by
  have hchange (hwipe : p.change? = some .wipe →
      c.saving.owedClears = 0 ∧ c.saving.restoring = false) :
      ∃ g owed, c.Becomes (applyChange p m c).canvas g owed ∧
        (g = c.graph ∨ ∃ ch, p.change? = some ch ∧ g = c.graph.alter ch) := by
    refine ⟨_, _, applyChange_becomes p hwipe, ?_⟩
    cases p.change? with
    | none => exact .inl rfl
    | some ch => exact .inr ⟨ch, rfl, rfl⟩
  by_cases hclear : p = .canvasCleared
  · subst hclear
    rcases Nat.eq_zero_or_pos c.saving.owedClears with howed | howed
    · cases hrestoring : c.saving.restoring with
      | true =>
        rw [applyChange_restoring howed hrestoring]
        exact ⟨c.graph, _, ⟨rfl, rfl, rfl⟩, .inl rfl⟩
      | false => exact hchange fun _ => ⟨howed, hrestoring⟩
    · exact ⟨_, _, applyChange_owed howed, .inl rfl⟩
  · refine hchange fun hwipe => (hclear ?_).elim
    cases p <;> first | rfl | cases hwipe

theorem applySection_of_safe {p : PushEvent R} (h : p.Safe) :
    applySection p m c = ⟨.ok (), (applyChange p m c).canvas, (applyChange p m c).events⟩ := by
  cases p with
  | execution event => exact h.elim
  | _ => exact congrArg (Outcome.mk _ _) (List.append_nil _)

end Client

namespace World

variable {w : LocalWorld R}

theorem exec_applyPush {p : PushEvent R} (h : p.Safe) :
    w.exec (Client.applyPush p) = .ok (w.after (Client.applyChange p w.moment w.canvas)) := by
  have hends : (Client.applyPush p).Ends Link.handle w fun _ w' =>
      w' = w.after (Client.applyChange p w.moment w.canvas) := by
    rw [Client.applyPush, Program.ends_bind, Program.ends_atomically,
      Client.applySection_of_safe h]
    exact Program.ends_pure.2 rfl
  obtain ⟨_, w', hrun, rfl⟩ := hends
  rw [exec, run, hrun]
  rfl

/-- What becomes of the canvas and the far side of a world. -/
structure Becomes (w w' : LocalWorld R) (graph : Graph R) (owed : Nat) (link : Link R) : Prop where
  canvas : w.canvas.Becomes w'.canvas graph owed
  remote : w'.remote = link

/-- All pushes make their changes, unless one of them is a clearing that is owed or comes while a
restore is under way. -/
theorem applyAll_becomes (pushes : List (PushEvent R)) (hsafe : ∀ p ∈ pushes, p.Safe)
    (hwipe : ∀ p ∈ pushes, p.change? = some .wipe →
      w.canvas.saving.owedClears = 0 ∧ w.canvas.saving.restoring = false) :
    ∃ w', w.applyAll pushes = .ok w' ∧
      w.Becomes w' (w.canvas.graph.settle (pushes.filterMap (·.change?)))
        w.canvas.saving.owedClears w.remote := by
  induction pushes generalizing w with
  | nil => exact ⟨w, rfl, ⟨rfl, rfl, rfl⟩, rfl⟩
  | cons p pushes ih =>
    have hp := Client.applyChange_becomes (m := w.moment) (c := w.canvas) p
      (hwipe p List.mem_cons_self)
    obtain ⟨w', hrun, ⟨hgraph, howed, hrest⟩, hremote⟩ :=
      ih (w := w.after (Client.applyChange p w.moment w.canvas))
        (fun q hq => hsafe q (List.mem_cons_of_mem p hq)) fun q hq hclear =>
          (hwipe q (List.mem_cons_of_mem p hq) hclear).imp hp.owed.trans hp.restoring.trans
    refine ⟨w', ?_, ⟨hgraph.trans ?_, howed.trans hp.owed, hrest.trans hp.restoring⟩, hremote⟩
    · rw [applyAll, exec_applyPush (hsafe p List.mem_cons_self)]
      exact hrun
    · change Graph.settle (Client.applyChange p w.moment w.canvas).canvas.graph _ = _
      rw [hp.graph, ← Graph.settle_append]
      congr 1
      cases hchange : p.change? <;> simp [hchange]

/-- Pumping without a limit takes the whole queue. -/
theorem pump_none {w' : LocalWorld R}
    (h : World.applyAll { w with remote := { w.remote with pushes := [] } } w.remote.pushes =
      .ok w') : w.pump none = .ok (w.remote.pushes.length, w') := by
  have hcount : ((none : Option Nat).getD w.remote.pushes.length).min w.remote.pushes.length =
      w.remote.pushes.length := Nat.min_self _
  simp only [pump, hcount, List.take_length, List.drop_length]
  rw [h]
  rfl

/-- A clearing that is owed at the head of the queue is only counted. -/
theorem pump_owed {added : List (PushEvent R)} (hpushes : w.remote.pushes = .canvasCleared :: added)
    (hsafe : ∀ p ∈ added, p.Safe) (honce : ∀ p ∈ added, p.change? ≠ some .wipe)
    (howed : w.canvas.saving.owedClears > 0) :
    ∃ n w', w.pump none = .ok (n, w') ∧
      w.Becomes w' (w.canvas.graph.settle (added.filterMap (·.change?)))
        (w.canvas.saving.owedClears - 1) { w.remote with pushes := [] } := by
  have hcounted := Client.applyChange_owed (m := w.moment) howed
  -- No other clearing is queued, so it does not matter what is still owed.
  obtain ⟨w', hrun, ⟨hgraph, howed', hrestoring⟩, hremote⟩ := applyAll_becomes
    (w := World.after { w with remote := { w.remote with pushes := [] } }
      (Client.applyChange .canvasCleared w.moment w.canvas)) added hsafe
    fun p hp hclear => (honce p hp hclear).elim
  refine ⟨_, w', pump_none ?_, ⟨hgraph.trans ?_, howed'.trans hcounted.owed,
    hrestoring.trans hcounted.restoring⟩, hremote⟩
  · rw [hpushes, applyAll, exec_applyPush (p := .canvasCleared) trivial]
    exact hrun
  · exact congrArg (Graph.settle · _) hcounted.graph

/-- Pumping takes pushes off the head of the queue and makes their changes. -/
theorem pump_becomes (most : Option Nat) (hsafe : ∀ p ∈ w.remote.pushes, p.Safe)
    (howed : w.canvas.saving.owedClears = 0) (hrestoring : w.canvas.saving.restoring = false) :
    ∃ n w', w.pump most = .ok (n, w') ∧
      n = (most.getD w.remote.pushes.length).min w.remote.pushes.length ∧
      w.Becomes w' (w.canvas.graph.settle ((w.remote.pushes.take n).filterMap (·.change?))) 0
        { w.remote with pushes := w.remote.pushes.drop n } := by
  obtain ⟨n, hn⟩ : ∃ n, n = (most.getD w.remote.pushes.length).min w.remote.pushes.length :=
    ⟨_, rfl⟩
  obtain ⟨w', hrun, hcanvas, hremote⟩ :=
    applyAll_becomes (w := { w with remote := { w.remote with pushes := w.remote.pushes.drop n } })
      (w.remote.pushes.take n) (fun p hp => hsafe p (List.mem_of_mem_take hp))
      fun _ _ _ => ⟨howed, hrestoring⟩
  refine ⟨n, w', ?_, hn, ⟨hcanvas.graph, hcanvas.owed.trans howed, hcanvas.restoring⟩, hremote⟩
  simp only [pump, ← hn]
  rw [hrun]
  rfl

/-- With nothing queued there is nothing to deliver. -/
theorem pump_one_nil (h : w.remote.pushes = []) : w.pump (some 1) = .ok (0, w) := by
  obtain ⟨canvas, store, ids, moment, events, ⟨backend, pushes, subscribed⟩⟩ := w
  cases h
  rfl

/-- The oldest push is taken off the queue and applied. -/
theorem pump_one_cons {p : PushEvent R} {rest : List (PushEvent R)}
    (hpushes : w.remote.pushes = p :: rest) (hsafe : p.Safe) :
    w.pump (some 1) = .ok (1, World.after { w with remote := { w.remote with pushes := rest } }
      (Client.applyChange p w.moment w.canvas)) := by
  have hcount : 1 = ((some 1).getD w.remote.pushes.length).min w.remote.pushes.length := by
    rw [hpushes, Option.getD_some, List.length_cons]
    exact (Nat.min_eq_left (by omega)).symm
  simp only [pump, ← hcount]
  rw [hpushes, List.take_succ_cons, List.take_zero, List.drop_one, List.tail_cons, applyAll,
    exec_applyPush hsafe]
  rfl

end World

end NodeCanvas
