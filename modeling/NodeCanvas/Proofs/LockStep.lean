import NodeCanvas.Proofs.Settled
import NodeCanvas.Proofs.Worlds
/-!
# Agreement in lock step

A round is one operation of a client, an edit of the graph, a load from the backend or one of the
three kinds of restore, under any rules by which the backend refuses requests; then everything that
the backend announced is delivered. After every round, what the client does not mark as its own is
what the backend has, and no announcement of a clearing is owed (`Session.agrees_in_lockStep`).
The one condition is that a restore gets the backend to clear its canvas: otherwise what was there
before stays on the backend and is no longer on the canvas.
-/

namespace NodeCanvas

variable {R : Type} [Scalar R]

/-! ## Rounds -/

/-- An operation of a client that is about its graph. -/
inductive CanvasOp (R : Type) where
  | edit (e : GraphEdit R)
  | load
  | restore (snapshot : Snapshot R)
  | restoreSaved
  | importText (text : String)

namespace CanvasOp

/-- What the client does; answers the report of a restore. -/
def program : CanvasOp R → Program R MemoryStore (Option RestoreReport)
  | .edit e => do
    let _ ← (e.attempt : Attempt R MemoryStore Unit).run
    return none
  | .load => do
    let _ ← (Client.loadFromBackend : Attempt R MemoryStore Unit).run
    return none
  | .restore snapshot => do return some (← Client.restoreSnapshot snapshot)
  | .restoreSaved => do
    return (← (Client.restoreSaved : Attempt R MemoryStore (Option RestoreReport)).run).toOption.join
  | .importText text => do
    return (← (Client.importText text : Attempt R MemoryStore RestoreReport).run).toOption

/-- The parameters that the operation is given are such as reading produces. -/
def Readable : CanvasOp R → Prop
  | .edit (.createNode spec) => Bag.Decodable spec.parameters
  | .restore snapshot => snapshot.Readable
  | _ => True

/-- **Every operation ends, and its announcements settle what it left**, if it is no restore that left
the backend as it was. -/
theorem program_ends {w : LocalWorld R} (h : w.Settled) {op : CanvasOp R} (hop : op.Readable) :
    op.program.Ends Link.handle w fun report w' =>
      report.all (·.remoteCleared) = true → w'.Settles := by
  cases op with
  | edit e =>
    refine Program.ends_bind.2 ((h.edit e ?_).mono fun _ w' hw' => ?_)
    · rintro spec rfl
      exact hop
    · exact Program.ends_pure.2 fun _ => hw'
  | load =>
    refine Program.ends_bind.2 (h.load.mono fun _ w' hw' => ?_)
    exact Program.ends_pure.2 fun _ => hw'.settles
  | restore s =>
    exact Program.ends_bind.2 ((h.restore hop).mono fun _ w' hw' => Program.ends_pure.2 hw')
  | restoreSaved =>
    refine Program.ends_bind.2 (h.restoreSaved.mono fun result w' hw' => Program.ends_pure.2 ?_)
    refine fun hcleared => hw' fun report hreport => ?_
    rw [hreport] at hcleared
    exact hcleared
  | importText text =>
    refine Program.ends_bind.2 ((h.importText text).mono fun result w' hw' =>
      Program.ends_pure.2 ?_)
    refine fun hcleared => hw' fun report hreport => ?_
    rw [hreport] at hcleared
    exact hcleared

end CanvasOp

/-- An operation, and the rules by which the backend refuses requests meanwhile. -/
structure Round (R : Type) where
  rules : List FailureRule := []
  op : CanvasOp R

namespace World

/-- The backend refuses requests by these rules from now on. -/
def refusing (w : LocalWorld R) (rules : List FailureRule) : LocalWorld R :=
  { w with remote := { w.remote with backend := { w.remote.backend with failures := rules } } }

/-- The world after a round: the operation is run, and then all that is announced is delivered. -/
def playRound (w : LocalWorld R) (round : Round R) : Except OverlayFault (LocalWorld R) := do
  let (_, w) ← (w.refusing round.rules).run round.op.program
  return (← w.pump none).2

/-- The world after several rounds. -/
def playRounds (w : LocalWorld R) : List (Round R) → Except OverlayFault (LocalWorld R)
  | [] => .ok w
  | round :: rounds => do playRounds (← w.playRound round) rounds

/-- Whether the round is no restore that leaves the backend as it was. -/
def clearsInRound (w : LocalWorld R) (round : Round R) : Bool :=
  match (w.refusing round.rules).run round.op.program with
  | .ok (report, _) => report.all (·.remoteCleared)
  | .error _ => true

/-- Whether none of the rounds is. -/
def clearsInRounds (w : LocalWorld R) : List (Round R) → Bool
  | [] => true
  | round :: rounds =>
    w.clearsInRound round &&
      match w.playRound round with
      | .ok w' => w'.clearsInRounds rounds
      | .error _ => true

variable {w : LocalWorld R}

theorem Settled.refusing (h : w.Settled) (rules : List FailureRule) :
    (w.refusing rules).Settled := by
  have hkeep : w.remote.backend.Effect { w.remote.backend with failures := rules } [] :=
    .keep rfl rfl rfl
  exact h.still hkeep ⟨rfl, rfl, rfl⟩ rfl

/-- **A round ends, and leaves a settled world settled.** -/
theorem Settled.playRound (h : w.Settled) {round : Round R} (hop : round.op.Readable)
    (hclears : w.clearsInRound round = true) :
    ∃ w', w.playRound round = .ok w' ∧ w'.Settled := by
  obtain ⟨report, w₁, hrun, hsettles⟩ := CanvasOp.program_ends (h.refusing round.rules) hop
  have hrun : (w.refusing round.rules).run round.op.program = .ok (report, w₁) := hrun
  rw [clearsInRound, hrun] at hclears
  obtain ⟨n, w₂, hpump, hsettled⟩ := hsettles hclears
  refine ⟨w₂, ?_, hsettled⟩
  rw [World.playRound, hrun]
  change (do return (← w₁.pump none).2) = _
  rw [hpump]
  rfl

/-- **So do any number of rounds.** -/
theorem Settled.playRounds (h : w.Settled) (rounds : List (Round R))
    (hops : ∀ round ∈ rounds, round.op.Readable) (hclears : w.clearsInRounds rounds = true) :
    ∃ w', w.playRounds rounds = .ok w' ∧ w'.Settled := by
  induction rounds generalizing w with
  | nil => exact ⟨w, rfl, h⟩
  | cons round rounds ih =>
    rw [clearsInRounds, Bool.and_eq_true] at hclears
    obtain ⟨w₁, hround, h₁⟩ := h.playRound (hops round List.mem_cons_self) hclears.1
    rw [hround] at hclears
    obtain ⟨w₂, hrounds, h₂⟩ := ih h₁ (fun r hr => hops r (List.mem_cons_of_mem round hr)) hclears.2
    refine ⟨w₂, ?_, h₂⟩
    rw [World.playRounds, hround]
    exact hrounds

end World

/-! ## Agreement -/

namespace Graph

/-- The nodes that are not marked as only here. -/
def remoteNodes (g : Graph R) : Table (Node R) := g.nodes.filter fun id _ => !g.isLocalNode id

/-- The connections that are not marked as only here. -/
def remoteConnections (g : Graph R) : Table Connection :=
  g.connections.filter fun id _ => !g.isLocalConnection id

variable {g : Graph R} {b : Backend R}

/-- Outside of what is from here, all that mirrors the backend is unmarked, and nothing else is. -/
theorem Mirrors.remoteNodes_get? (h : g.Mirrors False b) (ht : g.Tidy) (hs : b.Sound)
    (id : NodeId) : Option.Rel NodeLike (g.remoteNodes.get? id) (b.nodes.get? id) := by
  rw [remoteNodes, Table.get?_filter]
  by_cases hid : IsLocalId id
  -- What is from here is marked, and the backend does not have it.
  · have hb : b.nodes.get? id = none := Option.not_isSome_iff_eq_none.1 fun hstored =>
      hs.not_isLocalId hstored hid
    have hg : (g.nodes.get? id).filter (fun _ => !g.isLocalNode id) = none := by
      refine Option.filter_eq_none_iff.2 fun n hn => ?_
      simpa using (ht.nodeMarks id).2 ⟨hid, Table.contains_iff.2 ⟨n, hn⟩⟩
    rw [hb, hg]
    exact .none
  · have hmark : g.isLocalNode id = false :=
      Bool.eq_false_iff.2 fun hmark => hid ((ht.nodeMarks id).1 hmark).1
    have hg : (g.nodes.get? id).filter (fun _ => !g.isLocalNode id) = g.nodes.get? id := by
      rw [hmark]
      cases g.nodes.get? id <;> rfl
    rw [hg]
    exact h.nodes id hid

theorem Mirrors.remoteConnections_eq (h : g.Mirrors False b) (ht : g.Tidy) (hs : b.Sound) :
    g.remoteConnections = b.connections := by
  refine Table.ext_get? fun id => Option.ext fun c => ?_
  rw [remoteConnections, Table.get?_filter, Option.filter_eq_some_iff]
  constructor
  · rintro ⟨hc, hmark⟩
    have hid : ¬ IsLocalId id := fun hid => by
      rw [(ht.connectionMarks id).2 ⟨hid, Table.contains_iff.2 ⟨c, hc⟩⟩] at hmark
      cases hmark
    obtain hb | ⟨hfalse, -⟩ := h.excess id c hid hc
    · exact hb
    · exact hfalse.elim
  · intro hc
    have hid : ¬ IsLocalId id := (hs.connectionsIssued id c hc).not_isLocalId_of_conn
    refine ⟨h.covered id c hc, ?_⟩
    rw [Bool.eq_false_iff.2 fun hmark => hid ((ht.connectionMarks id).1 hmark).1]
    rfl

end Graph

/-- All is delivered, no announcement of a clearing is owed, and what the client does not mark as its
own is what the backend has. -/
structure World.Agrees (w : LocalWorld R) : Prop where
  delivered : w.remote.pushes = []
  owed : w.canvas.saving.owedClears = 0
  nodes : ∀ id, Option.Rel NodeLike (w.canvas.graph.remoteNodes.get? id)
    (w.remote.backend.nodes.get? id)
  parameters : ∀ id n m, w.canvas.graph.remoteNodes.get? id = some n →
    w.remote.backend.nodes.get? id = some m → Alike n.parameters m.parameters
  connections : w.canvas.graph.remoteConnections = w.remote.backend.connections

theorem World.Settled.agrees {w : LocalWorld R} (h : w.Settled) : w.Agrees := by
  have hfollowing := h.follows.following
  have hnodes := h.mirrors.remoteNodes_get? hfollowing.tidy hfollowing.sound
  refine ⟨h.delivered, h.follows.owed, hnodes, fun id n m hn hm => ?_,
    h.mirrors.remoteConnections_eq hfollowing.tidy hfollowing.sound⟩
  have hlike := hnodes id
  rw [hn, hm] at hlike
  cases hlike with
  | some hlike => exact hlike.parameters (h.readable id m hm)

namespace Session

/-- A session starts settled, whatever is in its store. -/
theorem settled_initial (settings : Settings) (ids : IdSource) (clock : Timestamp)
    (store : MemoryStore) :
    World.Settled { (Session.initial settings ids clock : Session R).world with store } where
  follows := ⟨Following.empty False rfl rfl, rfl, by simp [Session.initial], rfl, rfl⟩
  delivered := rfl
  readable _ _ h := by cases h

/-- **Agreement in lock step.** Let a client and its backend start empty, and play any rounds in which
no restore leaves the backend as it was and the parameters that are handed in are such as reading
produces. They end, and in the end both sides agree. -/
theorem agrees_in_lockStep (settings : Settings) (ids : IdSource) (clock : Timestamp)
    (store : MemoryStore) (rounds : List (Round R))
    (hops : ∀ round ∈ rounds, round.op.Readable)
    (hclears : World.clearsInRounds
      { (Session.initial settings ids clock : Session R).world with store } rounds = true) :
    ∃ w, World.playRounds { (Session.initial settings ids clock : Session R).world with store }
      rounds = .ok w ∧ w.Agrees := by
  obtain ⟨w, hrun, hsettled⟩ :=
    (settled_initial settings ids clock store).playRounds rounds hops hclears
  exact ⟨w, hrun, hsettled.agrees⟩

/-- Rounds of every kind. A clearing is refused, and so is the first node of the saved canvas. -/
def mixedRounds : List (Round Rat) :=
  [{ op := .edit (.createNode { type := "a", position := ⟨0, 0⟩ }) },
    { op := .edit (.createNode { type := "b", position := ⟨10, 0⟩ }) },
    { op := .edit (.connect "node-1" "output" "node-2" "input") },
    { op := .load },
    { op := .importText "\x7b\"nodes\": [\x7b\"id\": 1\x7d]\x7d" },
    { rules := [{ name := "clear_canvas", error := .transport "lost" }], op := .edit .clearCanvas },
    { op := .restore Client.rowSnapshot },
    { rules := [{ name := "create_node", remaining := some 1, error := .transport "lost" }],
      op := .restoreSaved }]

/-- In the end one node and one connection are only here, and the others are those of the backend. -/
theorem agrees_in_lockStep_mixed :
    let start : LocalWorld Rat :=
      { (Session.initial {} .counting ⟨0, 0⟩ : Session Rat).world with store := {} }
    (∀ round ∈ mixedRounds, round.op.Readable) ∧ start.clearsInRounds mixedRounds = true ∧
      (start.playRounds mixedRounds).toOption.map (fun w =>
          (w.canvas.graph.nodes.keys, w.remote.backend.nodes.keys,
            w.canvas.graph.connections.keys, w.remote.backend.connections.keys)) =
        some (["local-00000000-0000-4000-8000-000000000002", "node-10", "node-11"],
          ["node-10", "node-11"], ["conn-12", "local-conn-00000000-0000-4000-8000-000000000003"],
          ["conn-12"]) ∧
      ∃ w, start.playRounds mixedRounds = .ok w ∧ w.Agrees := by
  have hops : ∀ round ∈ mixedRounds, round.op.Readable := by
    simp [mixedRounds, Client.rowSnapshot, CanvasOp.Readable, Snapshot.Readable,
      Parameters.decodable_empty]
  have hclears : World.clearsInRounds
      { (Session.initial {} .counting ⟨0, 0⟩ : Session Rat).world with store := {} } mixedRounds =
        true := by
    decide +kernel
  exact ⟨hops, hclears, by decide +kernel,
    agrees_in_lockStep {} .counting ⟨0, 0⟩ {} mixedRounds hops hclears⟩

end Session

end NodeCanvas
