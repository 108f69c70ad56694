import NodeCanvas.Proofs.Origins
import NodeCanvas.Proofs.Rebuild
/-!
# What is local stays local

A client marks what its backend does not have, and does not ask the backend about it. Every operation
and every delivery leaves a world traced (`Client.Operation.traces`, `World.Traced.deliver`):
an edit because it asks about a node only if this is not marked, a restore because it places a node
under the id that the backend gave out for it or under one of its own, and connects two nodes on the
backend only if neither is marked. So in every run (`World.Chronicle`, which records the ids that are
made up) the marks tell exactly what was made up (`local_stays_local`).
-/

namespace NodeCanvas

variable {R α β : Type} [Scalar R] {made : Origins} {w : LocalWorld R}

/-- Everything in the world is traced. -/
def World.Traced (made : Origins) (w : LocalWorld R) : Prop :=
  NodeCanvas.Traced made w.canvas.graph w.remote

/-! ## Programs that leave everything traced -/

theorem Program.Within.traced {program : Program R MemoryStore α} {w' : LocalWorld R} {a : α}
    (h : program.Within .aside) (hw : w.Traced made) (hrun : w.run program = .ok (a, w')) :
    w'.Traced made := by
  rw [World.run] at hrun
  induction program generalizing w with
  | done value =>
    cases hrun
    exact hw
  | edit body next ih =>
    refine ih _ (w := w.after (body w.moment w.canvas)) (h.2 _) ?_ hrun
    rw [World.Traced, World.after, (h.1 _ _).1]
    exact hw
  | announce event next ih => exact ih (w := w.telling event) h hw hrun
  | draw body next ih =>
    exact ih _ (w := { w with ids := (body.run w.ids).2 }) (h _) hw hrun
  | request call next ih =>
    refine ih _ (w := { w with remote := (w.remote.answer call).2 }) (h.2 _) ?_ hrun
    exact hw.answer (Request.foreign_of_not_isAimed h.1 _)
  | store body next ih =>
    exact ih _ (w := { w with store := (body w.store).2 }) (h _) hw hrun
  | abort fault => cases hrun

/-- The program leaves everything traced if it may make up what it does. -/
def Program.Traces (made : Origins) (program : Program R MemoryStore α) : Prop :=
  ∀ w : LocalWorld R, w.Traced made → program.Yields made w fun _ w' => w'.Traced made

namespace Program

theorem Traces.bind {program : Program R MemoryStore α} {f : α → Program R MemoryStore β}
    (h : program.Traces made) (hf : ∀ a, (f a).Traces made) : (program >>= f).Traces made :=
  fun w hw => .bind ((h w hw).mono fun a w' hw' => hf a w' hw')

/-- What leaves the graph alone and asks for nothing about it leaves everything traced. -/
theorem Within.traces {program : Program R MemoryStore α} (h : program.Within .aside) :
    program.Traces made :=
  fun _ hw _ _ _ hrun => h.traced hw hrun

/-- Programs that ask for nothing about the graph are closed under leaving everything traced. -/
theorem closed_traces :
    Closed (R := R) (fun call => call.isAimed = false) (Traces made) where
  pure _ := (within_pure _).traces
  bind := .bind
  read _ := (closed_within.read _).traces
  fresh _ := (closed_within.fresh _).traces
  send hcall := (within_send hcall).traces
  notify _ _ := (within_tell _).traces
  consult _ := (closed_within.consult _).traces

/-- A section may change the graph if it adds nothing. -/
theorem traces_atomically {body : Edit R α}
    (h : ∀ (m : Moment) (c : Canvas R), (body m c).canvas.graph = c.graph ∨
      ∃ ch, (∀ n, ch.AddsIssued n) ∧ (body m c).canvas.graph = c.graph.alter ch) :
    (atomically body : Program R MemoryStore α).Traces made := by
  intro w hw
  refine .of_ends (ends_atomically.2 ?_)
  rw [World.Traced, World.after]
  obtain hsame | ⟨ch, hch, halter⟩ := h w.moment w.canvas
  · rw [hsame]
    exact hw
  · rw [halter]
    exact hw.alter (hch _)

end Program

/-- The same of a program that may fail. -/
def Attempt.Traces (made : Origins) (attempt : Attempt R MemoryStore α) : Prop :=
  ∀ w : LocalWorld R, w.Traced made → attempt.Yields made w fun _ w' => w'.Traced made

namespace Attempt

variable {attempt : Attempt R MemoryStore α}

theorem Traces.bind {f : α → Attempt R MemoryStore β}
    (h : attempt.Traces made) (hf : ∀ a, (f a).Traces made) : (attempt >>= f).Traces made := by
  refine Program.Traces.bind h fun result => ?_
  cases result with
  | ok a => exact hf a
  | error error => exact (Program.within_pure _).traces

theorem Within.traces (h : attempt.Within .aside) : attempt.Traces made :=
  Program.Within.traces h

theorem traces_always {program : Program R MemoryStore α} (h : program.Traces made) :
    (always program).Traces made :=
  Program.Traces.bind h fun _ => (Program.within_pure _).traces

theorem traces_alters {edit : Edit R Unit} {ch : GraphChange R} (h : edit.Alters ch)
    (hch : ∀ n, ch.AddsIssued n) : (atomically edit : Attempt R MemoryStore Unit).Traces made :=
  traces_always (Program.traces_atomically fun m c => .inr ⟨ch, hch, (h m c).graph⟩)

/-- Asking about what the backend gave out. -/
theorem yields_ask (h : w.Traced made) {complaint : String} {r : Request R}
    (hr : r.Foreign w.remote.backend.allocated) :
    (ask complaint r : Attempt R MemoryStore r.Reply).Yields made w fun _ w' => w'.Traced made := by
  refine .of_ends ?_
  rw [Link.handle_eq, ends_ask]
  have hanswered : World.Traced made { w with remote := (w.remote.answer r).2 } := h.answer hr
  rw [Link.answering]
  rcases hanswer : w.remote.answer r with ⟨_ | reply, remote⟩ <;> rw [hanswer] at hanswered <;>
    exact hanswered

theorem Yields.traces {f : α → Attempt R MemoryStore β}
    (h : attempt.Yields made w fun _ w' => w'.Traced made) (hf : ∀ a, (f a).Traces made) :
    (attempt >>= f).Yields made w fun _ w' => w'.Traced made := by
  refine .bind (Program.Yields.mono h fun result w' hw' => ?_)
  cases result with
  | ok a => exact hf a w' hw'
  | error error => exact hw'

end Attempt

/-! ## Edits -/

namespace Client

variable {node : NodeId}

theorem yields_nodeIdentity_bind (h : w.Traced made) {next : NodeIdentity → Attempt R MemoryStore α}
    (hlocal : ∀ identity, identity.isLocal = true → (next identity).Traces made)
    (hremote : ∀ identity, identity.isLocal = false →
      Issued "node" w.remote.backend.allocated node →
      (next identity).Yields made w fun _ w' => w'.Traced made) :
    (nodeIdentity node >>= next).Yields made w fun _ w' => w'.Traced made := by
  have hends : (nodeIdentity node : Attempt R MemoryStore NodeIdentity).Ends Link.handle w
      fun result w' => w' = w ∧ ∀ identity, result = .ok identity → identity.isLocal = false →
        Issued "node" w.remote.backend.allocated node := by
    rw [nodeIdentity]
    obtain hnone | ⟨identity, hsome, hstored, hiff⟩ := w.canvas.graph.identity?_cases h.tidy node
    · refine (Attempt.ends_look (.error (.unknownNode node)) ?_).2 ⟨rfl, by simp⟩
      simp [bind, Edit.read, hnone, pure]
    · refine (Attempt.ends_look (.ok identity) ?_).2 ⟨rfl, fun _ heq hid => ?_⟩
      · simp [bind, Edit.read, hsome, pure]
      · cases heq
        exact h.issued_node hstored fun hlocal => by simp [hiff.2 hlocal] at hid
  refine .bind (Program.Yields.mono (.of_ends hends) fun result w' hresult => ?_)
  obtain ⟨rfl, hissued⟩ := hresult
  cases result with
  | error cause => exact h
  | ok identity =>
    cases hidentity : identity.isLocal with
    | true => exact hlocal identity hidentity w' h
    | false => exact hremote identity hidentity (hissued identity rfl hidentity)

theorem traces_unlessLocal {complaint : String} {r : Request R}
    {edit : Edit R Unit} {ch : GraphChange R} (hedit : edit.Alters ch) (hch : ∀ n, ch.AddsIssued n)
    (hr : ∀ n, Issued "node" n node → r.Foreign n) :
    (do
      let identity ← nodeIdentity node
      unless identity.isLocal do
        let _ ← .ask complaint r
      .atomically edit : Attempt R MemoryStore Unit).Traces made := by
  intro w h
  refine yields_nodeIdentity_bind h (fun identity hlocal => ?_) fun identity hremote hissued => ?_
  · rw [if_pos hlocal]
    exact Attempt.traces_alters hedit hch
  · rw [if_neg (by simp [hremote])]
    exact (Attempt.yields_ask h (hr _ hissued)).traces fun _ => Attempt.traces_alters hedit hch

theorem traces_patchEdit {complaint : String} {r : Request R}
    {here : Attempt R MemoryStore r.Reply} {parts : r.Reply → NodePatch R}
    (hhere : here.Within .aside) (hr : ∀ n, Issued "node" n node → r.Foreign n) :
    (do
      let identity ← nodeIdentity node
      let reply ← if identity.isLocal then here else .ask complaint r
      .atomically (Edit.patchNode node (parts reply)) : Attempt R MemoryStore Unit).Traces made := by
  have hpatch (reply : r.Reply) : (Attempt.atomically (Edit.patchNode node (parts reply)) :
      Attempt R MemoryStore Unit).Traces made :=
    Attempt.traces_alters (alters_patchNode _ _) fun _ => trivial
  intro w h
  refine yields_nodeIdentity_bind h (fun identity hlocal => ?_) fun identity hremote hissued => ?_
  · rw [if_pos hlocal]
    exact .bind hhere.traces hpatch
  · rw [if_neg (by simp [hremote])]
    exact (Attempt.yields_ask h (hr _ hissued)).traces hpatch

theorem traces_connect (source : NodeId) (sourcePort : String) (target : NodeId)
    (targetPort : String) :
    (connect source sourcePort target targetPort : Attempt R MemoryStore _).Traces made := by
  intro w h
  refine .bind (Attempt.yields_always (Program.yields_freshConnection fun id ids hmade _ => ?_))
  have h' : World.Traced made { w with ids } := h
  generalize { w with ids } = w' at h' ⊢
  dsimp only
  split
  · exact .bind (.of_ends (Attempt.ends_throw.2 h'))
  · rename_i hloop
    rw [Bool.not_eq_true] at hloop
    have hhere : (connectHere { id, source, sourcePort, target, targetPort } :
        Attempt R MemoryStore ConnectionId).Traces made := by
      obtain ⟨body, hbody, hbecomes⟩ := exists_connectHere (R := R) hloop
      rw [hbody]
      refine fun w hw => .of_ends (Attempt.ends_checked.2 ?_)
      rw [World.Traced, World.after, (hbecomes _ _).graph]
      exact hw.linkHere hmade hloop
    refine yields_nodeIdentity_bind h' (fun first hfirst => ?_) fun first hfirst hsource => ?_
    · refine .bind (aside_nodeIdentity target).traces fun second => ?_
      rw [hfirst, Bool.true_or, if_pos rfl]
      exact hhere
    · refine yields_nodeIdentity_bind h' (fun second hsecond => ?_) fun second hsecond htarget => ?_
      · rw [hsecond, Bool.or_true, if_pos rfl]
        exact hhere
      · rw [hfirst, hsecond, if_neg (by simp)]
        exact Attempt.yields_ask h' ⟨hsource, htarget⟩

theorem traces_disconnect (connection : ConnectionId) :
    (disconnect connection : Attempt R MemoryStore Unit).Traces made := by
  have hremove : (Attempt.atomically (do
      let removed ← Edit.onGraph (·.removeConnection connection)
      if removed.isSome then Edit.graphChanged) : Attempt R MemoryStore Unit).Traces made :=
    Attempt.traces_alters (alters_disconnection connection) fun _ => trivial
  intro w h
  cases hfound : w.canvas.graph.connection? connection with
  | none =>
    refine .bind (.of_ends ((Attempt.ends_look (.error (.unknownConnection connection)) ?_).2 h))
    simp [bind, Edit.read, hfound, pure]
  | some c =>
    refine .bind (.of_ends ((Attempt.ends_look
      (.ok (w.canvas.graph.isLocalConnection connection)) ?_).2 ?_))
    · simp [bind, Edit.read, hfound, pure]
    · have hstored : w.canvas.graph.connections.contains connection = true :=
        Table.contains_iff.2 ⟨c, hfound⟩
      dsimp only
      split
      · exact hremove w h
      · rename_i hlocal
        have hissued := h.issued_connection hstored fun hid =>
          hlocal ((h.tidy.connectionMarks connection).2 ⟨hid, hstored⟩)
        exact (Attempt.yields_ask (r := .deleteConnection connection) h hissued).traces
          fun _ => hremove

theorem traces_loadFromBackend : (loadFromBackend : Attempt R MemoryStore Unit).Traces made := by
  intro w h
  refine .of_ends ?_
  rw [Link.handle_eq, loadFromBackend, Attempt.ends_bind, Attempt.ends_ask]
  have hanswered : World.Traced made { w with remote := (w.remote.answer .fetchCanvas).2 } :=
    h.answer (r := .fetchCanvas) trivial
  obtain ⟨cause, b', hanswer, -⟩ | ⟨done, hperform, hanswer, -, -⟩ :=
    w.remote.answer_cases .fetchCanvas
  · rw [hanswer] at hanswered
    simp only [Link.answering, hanswer]
    exact hanswered
  · cases hperform
    rw [hanswer] at hanswered
    simp only [Link.answering, hanswer]
    refine Attempt.ends_bind.2 (Attempt.ends_atomically.2 ?_)
    refine Attempt.ends_bind.2 (Attempt.ends_tell.2 (Attempt.ends_tell.2 ?_))
    exact hanswered.replaceAll

/-- **Every edit leaves everything traced.** -/
theorem Operation.traces_of_editing {op : Operation R} (h : op.role = .editing) :
    (op.program : Program R MemoryStore op.Result).Traces made := by
  cases op with
  | call c =>
    cases c with
    | loadFromBackend => exact traces_loadFromBackend
    | moveNode node position =>
      exact traces_unlessLocal (r := .moveNode node position) (alters_patchNode _ _)
        (fun _ => trivial) fun _ h => h
    | deleteNode node =>
      exact traces_unlessLocal (r := .deleteNode node) (alters_deletion node) (fun _ => trivial)
        fun _ h => h
    | updateParameters node changes =>
      exact traces_patchEdit (r := .updateParameters node changes) (aside_mergedHere _ _)
        fun _ h => h
    | updateMetadata node changes =>
      exact traces_patchEdit (r := .updateMetadata node changes) (aside_mergedHere _ _)
        fun _ h => h
    | updatePorts node ports =>
      exact traces_patchEdit (r := .updatePorts node ports) (Program.within_pure _) fun _ h => h
    | connect source sourcePort target targetPort => exact traces_connect _ _ _ _
    | disconnect connection => exact traces_disconnect connection
    | clearCanvas =>
      exact Attempt.Traces.bind (Program.closed_within.ask rfl).traces fun _ =>
        Attempt.traces_alters alters_clearing fun _ => trivial
    | _ => cases h
  | _ => cases h

end Client

/-! ## Restores -/

/-- The id was given out by the backend for a node, or is marked. -/
def World.Knows (w : LocalWorld R) (id : NodeId) : Prop :=
  Issued "node" w.remote.backend.allocated id ∨ w.canvas.graph.isLocalNode id = true

/-- Everything is traced, and the nodes that were known still are. -/
structure World.Replays (made : Origins) (w w' : LocalWorld R) : Prop where
  traced : w'.Traced made
  knows : ∀ id, w.Knows id → w'.Knows id

omit [Scalar R] in
/-- What is known stays known as long as the backend goes on and marks stay. -/
theorem World.Knows.mono {w' : LocalWorld R} {id : NodeId} (h : w.Knows id)
    (hle : w.remote.backend.allocated ≤ w'.remote.backend.allocated)
    (hmark : w.canvas.graph.isLocalNode id = true → w'.canvas.graph.isLocalNode id = true) :
    w'.Knows id :=
  h.imp (fun hissued => hissued.mono hle) hmark

namespace Client

/-- A node is placed under an id that the backend has given out or that was made up. -/
theorem yields_replayNode (h : w.Traced made) (node : Node R) :
    (replayNode node : Program R MemoryStore NodeIdentity).Yields made w
      fun identity w' => w.Replays made w' ∧ w'.Knows identity.id := by
  have hanswered : NodeCanvas.Traced made w.canvas.graph
      (w.remote.answer (.createNode (.ofNode node))).2 := h.answer trivial
  refine .bind (.bind (Program.yields_send ?_))
  obtain ⟨cause, b', hanswer, heffect⟩ | ⟨id, b', hanswer, hid, -, -, hallocated⟩ :=
    w.remote.createNode_cases h.orderly.subscribed (.ofNode node)
  · rw [hanswer] at hanswered ⊢
    refine .bind (Program.yields_freshNode fun id ids hmade _ => Program.yields_pure ?_)
    refine .bind (.of_ends (Program.ends_atomically.2 (Program.yields_pure ⟨⟨?_, ?_⟩, ?_⟩)))
    · exact hanswered.placeHere node hmade
    · intro k hk
      exact hk.mono heffect.allocated_le fun hmark =>
        (Graph.isLocalNode_place _ _ _ _).2 (.inr hmark)
    · exact .inr ((Graph.isLocalNode_place _ _ _ _).2 (.inl rfl))
  · rw [hanswer] at hanswered ⊢
    have hissued : Issued "node" b'.allocated id := by
      rw [hid, hallocated]
      exact .next _ _
    have hput : (GraphChange.put { node with id }).AddsIssued b'.allocated := hissued
    have hle : w.remote.backend.allocated ≤ b'.allocated := by omega
    refine Program.yields_pure (.bind (.of_ends (Program.ends_atomically.2
      (Program.yields_pure ⟨⟨?_, ?_⟩, .inl hissued⟩))))
    · exact hanswered.alter hput
    · intro k hk
      exact hk.mono hle fun hmark => (Graph.isLocalNode_place _ _ _ _).2 (.inr hmark)

theorem yields_replayNodes (nodes : List (Node R)) (h : w.Traced made) {replay : Replay}
    (hnames : ∀ k id, replay.names.get? k = some id → w.Knows id) :
    (replayNodes nodes replay : Program R MemoryStore Replay).Yields made w fun replay' w' =>
      w'.Traced made ∧ ∀ k id, replay'.names.get? k = some id → w'.Knows id := by
  induction nodes generalizing w replay with
  | nil => exact Program.yields_pure ⟨h, hnames⟩
  | cons node nodes ih =>
    refine .bind ((yields_replayNode h node).mono fun identity w' hplaced => ?_)
    obtain ⟨hreplays, hknown⟩ := hplaced
    refine ih hreplays.traced fun k id hid => ?_
    rw [Table.get?_insert] at hid
    split at hid
    · cases hid
      exact hknown
    · exact hreplays.knows id (hnames k id hid)

/-- What is done with a connection that the backend does not have. -/
theorem yields_keepHere (h : w.Traced made) {c : Connection} (hloop : c.isSelfLoop = false) :
    Program.Yields made
        (do
          let id ← .fresh freshLocalConnection
          .atomically (placeConnection { c with id } true)
          return false) w
      fun _ w' => w.Replays made w' := by
  refine .bind (Program.yields_freshConnection fun id ids hmade _ => ?_)
  rw [placeConnection_eq]
  refine .bind (.of_ends (Program.ends_atomically.2 (Program.yields_pure ⟨?_, ?_⟩)))
  · exact h.placeConnectionHere (c := { c with id }) hmade hloop
  · intro k hk
    refine hk.mono (Nat.le_refl _) fun hmark => ?_
    change (w.canvas.graph.placeConnection { c with id } true).isLocalNode k = true
    rw [Graph.isLocalNode_placeConnection]
    exact hmark

theorem yields_replayConnection (h : w.Traced made) {c : Connection}
    (hloop : c.isSelfLoop = false) (hsource : w.Knows c.source) (htarget : w.Knows c.target) :
    (replayConnection c : Program R MemoryStore Bool).Yields made w
      fun _ w' => w.Replays made w' := by
  refine .bind (.bind (.of_ends (Program.ends_read.2 ?_)))
  split
  · exact Program.yields_pure (yields_keepHere h hloop)
  · rename_i hmarks
    rw [Bool.or_eq_true, not_or] at hmarks
    -- Neither end is marked, so the backend has given out both.
    have hissued : Issued "node" w.remote.backend.allocated c.source ∧
        Issued "node" w.remote.backend.allocated c.target :=
      ⟨hsource.resolve_right hmarks.1, htarget.resolve_right hmarks.2⟩
    have hanswered : NodeCanvas.Traced made w.canvas.graph
        (w.remote.answer (.createConnection (.ofConnection c))).2 := h.answer hissued
    refine .bind (Program.yields_send ?_)
    obtain ⟨cause, b', hanswer, heffect⟩ | ⟨id, b', hanswer, hid, -, -, -, -, -, hallocated⟩ :=
      w.remote.createConnection_cases h.orderly.subscribed (.ofConnection c)
    · rw [hanswer] at hanswered ⊢
      refine Program.yields_pure ((yields_keepHere
        (w := { w with remote := { w.remote with backend := b' } }) hanswered hloop).mono
          fun _ w' hkept => ?_)
      exact ⟨hkept.traced, fun k hk =>
        hkept.knows k (hk.mono heffect.allocated_le fun hmark => hmark)⟩
    · rw [hanswer] at hanswered ⊢
      have hle : w.remote.backend.allocated ≤ b'.allocated := by omega
      have hlink : (GraphChange.link { c with id } : GraphChange R).AddsIssued b'.allocated := by
        refine ⟨?_, hissued.1.mono hle, hissued.2.mono hle⟩
        rw [hid, hallocated]
        exact .next _ _
      refine Program.yields_pure ?_
      dsimp only
      rw [placeConnection_eq]
      refine .bind (.of_ends (Program.ends_atomically.2 (Program.yields_pure ⟨?_, ?_⟩)))
      · exact hanswered.alter hlink
      · intro k hk
        refine hk.mono hle fun hmark => ?_
        change (w.canvas.graph.placeConnection { c with id } false).isLocalNode k = true
        rw [Graph.isLocalNode_placeConnection]
        exact hmark

theorem yields_replayConnections {names : Table NodeId} (connections : List Connection)
    (h : w.Traced made) (hnames : ∀ k id, names.get? k = some id → w.Knows id)
    (report : RestoreReport) :
    (replayConnections names connections report : Program R MemoryStore RestoreReport).Yields made w
      fun _ w' => w'.Traced made := by
  induction connections generalizing w report with
  | nil => exact Program.yields_pure h
  | cons saved connections ih =>
    rw [replayConnections]
    split
    · exact ih h hnames _
    · rename_i c hrenamed
      have hend (a : NodeId) (ha : c.touches a = true) : w.Knows a := by
        obtain ⟨k, hk⟩ := names_of_renamed hrenamed ha
        exact hnames k a hk
      refine .bind ((yields_replayConnection h (isSelfLoop_of_renamed hrenamed)
        (hend _ (by simp [Connection.touches])) (hend _ (by simp [Connection.touches]))).mono
          fun kept w' hreplays => ?_)
      have hrest := fun report => ih hreplays.traced
        (fun k id hid => hreplays.knows id (hnames k id hid)) report
      split
      · exact hrest _
      · exact hrest _

theorem traces_restoreSnapshot (s : Snapshot R) :
    (restoreSnapshot s : Program R MemoryStore RestoreReport).Traces made := by
  refine .bind (Program.traces_atomically fun _ _ => .inl rfl) fun _ => .bind ?_ fun cleared =>
    .bind (Program.traces_atomically fun _ _ => .inr ⟨.wipe, fun _ => trivial, rfl⟩) fun _ => ?_
  · exact Program.closed_traces.clearRemote rfl (Program.traces_atomically fun _ _ => .inl rfl)
  · intro w h
    have hnone : ∀ (k : String) (id : NodeId), (∅ : Table NodeId).get? k = some id → w.Knows id := by
      simp
    refine .bind ((yields_replayNodes s.nodes h hnone).mono fun replay w' hreplayed => ?_)
    refine .bind ((yields_replayConnections s.connections hreplayed.1 hreplayed.2 _).mono
      fun report w'' h'' => ?_)
    refine Program.Traces.bind (Program.traces_atomically fun _ _ => .inl rfl) (fun _ => ?_) w'' h''
    refine .bind (Program.within_tell _).traces fun _ => .bind (Program.within_tell _).traces
      fun _ => .bind (Program.Within.traces aside_saveNow) fun saved => ?_
    dsimp only
    split
    · exact .bind (Program.within_tell _).traces fun _ => (Program.within_pure _).traces
    · exact (Program.within_pure _).traces

/-- **Every restore leaves everything traced.** -/
theorem Operation.traces_of_restoring {op : Operation R} (h : op.role = .restoring) :
    (op.program : Program R MemoryStore op.Result).Traces made := by
  have hnamed (f : Saving → Saving) :
      (Program.atomically (Edit.onSaving f) : Program R MemoryStore Unit).Traces made :=
    Program.traces_atomically fun _ _ => .inl rfl
  cases op with
  | restoreSnapshot s => exact traces_restoreSnapshot s
  | restoreSaved =>
    exact Program.closed_traces.restoreSaved traces_restoreSnapshot fun _ => hnamed _
  | importText text =>
    exact Program.closed_traces.importText traces_restoreSnapshot fun _ _ => hnamed _
  | call c => cases c <;> cases h
  | _ => cases h

/-! ## Runs -/

/-- **Every operation but a push leaves everything traced.** -/
theorem Operation.traces {op : Operation R} (h : op.role ≠ .pushing) :
    (op.program : Program R MemoryStore op.Result).Traces made := by
  cases hrole : op.role with
  | aside => exact (within_aside hrole).traces
  | editing => exact traces_of_editing hrole
  | restoring => exact traces_of_restoring hrole
  | pushing => exact absurd hrole h

end Client

/-- The backend is told what to refuse and how to answer, and is otherwise as it was. -/
structure Backend.Instructed (b b' : Backend R) : Prop where
  nodes : b'.nodes = b.nodes
  connections : b'.connections = b.connections
  allocated : b'.allocated = b.allocated
  calls : b'.calls = b.calls

/-- Nothing was made up. -/
def Origins.none : Origins := ⟨fun _ => False, fun _ => False⟩

/-- The ids that were made up before and in the run of a program. -/
def Origins.joined (made : Origins) (program : Program R MemoryStore α) (w : LocalWorld R) :
    Origins where
  node id := made.node id ∨ program.Draws Link.handle freshLocalNode w id
  connection id := made.connection id ∨ program.Draws Link.handle freshLocalConnection w id

namespace World

/-- A run of a client over a link leads to a world, and these ids were made up in it. Pushes come by
deliveries alone. -/
def Chronicle (w : LocalWorld R) (made : Origins) : Prop :=
  RunKind.Reaches
    { answer := Link.answering
      starts w made :=
        (∃ settings ids clock, w = (Session.initial settings ids clock).world) ∧ made = .none
      allows op := op.role ≠ .pushing
      note made op w _ _ := made.joined op.program w
      between := Meanwhile Backend.Instructed } w made

theorem Traced.operate {op : Client.Operation R} {w' : LocalWorld R} {a : op.Result}
    (h : w.Traced made) (hop : op.role ≠ .pushing) (hrun : w.run op.program = .ok (a, w')) :
    w'.Traced (made.joined op.program w) := by
  have hlocal {body : Drawing String} (hbody : ∀ ids, IsLocalId (body.run ids).1) {id : String}
      (hid : (op.program : Program R MemoryStore op.Result).Draws Link.handle body w id) :
      IsLocalId id := by
    obtain ⟨ids, rfl⟩ := hid.exists_run
    exact hbody ids
  have hjoined : w.Traced (made.joined op.program w) :=
    ⟨h.tidy, h.orderly, fun id hid => hid.elim (h.madeNode id) (hlocal isLocalId_freshLocalNode),
      fun id hid => hid.elim (h.madeConnection id) (hlocal isLocalId_freshLocalConnection),
      fun id hid => (h.node id hid).imp_left .inl,
      fun id hid => (h.connection id hid).imp_left .inl, h.calls⟩
  exact Client.Operation.traces hop w hjoined ⟨fun _ => .inr, fun _ => .inr⟩ a w' hrun

/-- What was queued adds nothing but what was given out. -/
theorem Traced.deliver {w' : LocalWorld R} {most : Option Nat} {n : Nat} (h : w.Traced made)
    (hpump : w.pump most = .ok (n, w')) : w'.Traced made := by
  have hinduction : w'.Traced made ∧
      w'.remote.backend.allocated = w.remote.backend.allocated := by
    refine pump_induction (fun v => v.Traced made ∧
        v.remote.backend.allocated = w.remote.backend.allocated)
      (fun v count hv => ⟨?_, hv.2⟩) (fun p hp v v' a hv hrun => ?_) ⟨h, rfl⟩ hpump
    · exact { hv.1 with orderly := hv.1.orderly.drop count }
    · have hexec : v.exec (Client.applyPush p) = .ok v' := by
        rw [exec, hrun]
        rfl
      rw [exec_applyPush (h.orderly.safe p hp)] at hexec
      cases hexec
      refine ⟨?_, hv.2⟩
      obtain ⟨g, owed, hbecomes, hg⟩ :=
        Client.applyChange_outcome (m := v.moment) (c := v.canvas) p
      rw [World.Traced, World.after, hbecomes.graph]
      obtain rfl | ⟨ch, hchange, rfl⟩ := hg
      · exact hv.1
      · refine hv.1.alter ?_
        rw [hv.2]
        exact (h.orderly.issued p hp ch hchange).addsIssued
  exact hinduction.1

omit [Scalar R] in
theorem Traced.instruct {b' : Backend R} (h : w.Traced made)
    (hinstructed : w.remote.backend.Instructed b') :
    World.Traced made { w with remote := { w.remote with backend := b' } } := by
  have heffect : w.remote.backend.Effect b' [] :=
    .keep hinstructed.nodes hinstructed.connections hinstructed.allocated
  refine ⟨h.tidy, h.orderly.of_keep heffect, h.madeNode, h.madeConnection, fun id hid => ?_,
    fun id hid => ?_, ?_⟩
  · exact (h.node id hid).imp_right fun hissued => hissued.mono heffect.allocated_le
  · exact (h.connection id hid).imp_right fun hissued => hissued.mono heffect.allocated_le
  · intro call hcall
    rw [hinstructed.calls] at hcall
    exact h.calls call hcall

/-- **In every run everything stays traced.** -/
theorem Chronicle.traced (h : w.Chronicle made) : w.Traced made := by
  induction h with
  | start hstart =>
    obtain ⟨⟨settings, ids, clock, rfl⟩, rfl⟩ := hstart
    refine ⟨Graph.tidy_empty _, ⟨rfl, Backend.sound_of_isEmpty rfl rfl, List.forall_mem_nil _,
      List.forall_mem_nil _⟩, fun _ => False.elim, fun _ => False.elim, fun id hid => ?_,
      fun id hid => ?_, List.forall_mem_nil _⟩
    · cases hid
    · cases hid
  | operate _ op hop hrun ih => exact ih.operate hop hrun
  | meanwhile _ hbetween ih =>
    cases hbetween with
    | deliver hpump => exact ih.deliver hpump
    | instruct hinstructed => exact ih.instruct hinstructed
    | wait => exact ih

end World

/-- **What is local stays local.** After every run of a client over a link, with any refusals and any
delay of the pushes, a node is marked as existing only here if and only if it is on the canvas and
its id was made up for a node in this run, and likewise a connection. And no request about a node or a
connection that the backend has recorded mentions an id that was made up. -/
theorem local_stays_local (h : w.Chronicle made) :
    (∀ id, w.canvas.graph.isLocalNode id = true ↔
      w.canvas.graph.nodes.contains id = true ∧ made.node id) ∧
    (∀ id, w.canvas.graph.isLocalConnection id = true ↔
      w.canvas.graph.connections.contains id = true ∧ made.connection id) ∧
    ∀ call ∈ w.remote.backend.calls, call.name ∈ aimedNames →
      ∀ id, made.node id ∨ made.connection id → ¬ call.Mentions id := by
  have htraced := h.traced
  refine ⟨fun id => ?_, fun id => ?_, fun call hcall hname id hid => ?_⟩
  · rw [htraced.tidy.nodeMarks]
    constructor
    · rintro ⟨hlocal, hstored⟩
      exact ⟨hstored, (htraced.node id hstored).resolve_right fun hissued =>
        hissued.not_isLocalId_of_node hlocal⟩
    · rintro ⟨hstored, hmade⟩
      exact ⟨htraced.madeNode id hmade, hstored⟩
  · rw [htraced.tidy.connectionMarks]
    constructor
    · rintro ⟨hlocal, hstored⟩
      exact ⟨hstored, (htraced.connection id hstored).resolve_right fun hissued =>
        hissued.not_isLocalId_of_conn hlocal⟩
    · rintro ⟨hstored, hmade⟩
      exact ⟨htraced.madeConnection id hmade, hstored⟩
  · exact htraced.calls call hcall hname id (hid.elim (htraced.madeNode id)
      (htraced.madeConnection id))

namespace Client

/-- A client whose backend will refuse a node, once. -/
def refusedWorld : LocalWorld Rat :=
  let rule := { name := "create_node", remaining := some 1, error := .transport "refused" }
  { freshWorld with remote := { freshWorld.remote with
    backend := { freshWorld.remote.backend with failures := [rule] } } }

/-- The same after a restore: the first node exists only here, and the others do not. -/
def rowWorld : LocalWorld Rat := refusedWorld.runAt 0 (restoreSnapshot rowSnapshot)

end Client

theorem local_stays_local_row :
    ∃ made, Client.rowWorld.Chronicle made ∧
      made.node "local-00000000-0000-4000-8000-000000000001" ∧
      made.connection "local-conn-00000000-0000-4000-8000-000000000002" ∧
      (Client.rowWorld.remote.backend.calls.filter fun call => call.name ∈ aimedNames) =
        [⟨"create_connection", some "node-1->node-2"⟩] ∧
      ∀ call ∈ Client.rowWorld.remote.backend.calls, call.name ∈ aimedNames →
        ¬ call.Mentions "local-00000000-0000-4000-8000-000000000001" := by
  have hfresh : Client.freshWorld.Chronicle .none :=
    RunKind.Reaches.start ⟨⟨{}, .counting, ⟨0, 0⟩, rfl⟩, rfl⟩
  have hrefused : Client.refusedWorld.Chronicle .none :=
    hfresh.meanwhile (.instruct ⟨rfl, rfl, rfl, rfl⟩)
  have hok : ({ Client.refusedWorld with moment := ⟨0, ⟨0, 0⟩⟩ }.run
      (Client.restoreSnapshot Client.rowSnapshot)).isOk = true := by decide +kernel
  obtain ⟨report, hrun⟩ := World.exists_runAt hok
  have hrow : Client.rowWorld.Chronicle _ :=
    hrefused.operate (.restoreSnapshot Client.rowSnapshot) (by decide) hrun
  obtain ⟨hnodes, hconnections, hcalls⟩ := local_stays_local hrow
  have hnode := (hnodes "local-00000000-0000-4000-8000-000000000001").1 (by decide +kernel)
  have hconnection :=
    (hconnections "local-conn-00000000-0000-4000-8000-000000000002").1 (by decide +kernel)
  refine ⟨_, hrow, hnode.2, hconnection.2, by decide +kernel, fun call hcall hname => ?_⟩
  exact hcalls call hcall hname _ (.inl hnode.2)

end NodeCanvas
