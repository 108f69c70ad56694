import NodeCanvas.Proofs.Decoding
import NodeCanvas.Proofs.Operation
import NodeCanvas.Proofs.Restoring
/-!
# Settled worlds

A world is settled when everything that the backend announced is delivered and the graph of the
client mirrors the backend. Whatever the client then does to its graph, it ends, and delivering what
was announced settles the world again (`World.Settles`): for an edit because the client goes on
following its backend, for a load because the graph becomes the backend's, and for a restore because
what it leaves is being rebuilt (`Rebuilding.settles`). A restore for which the backend did not clear
its canvas is left out: the backend keeps nodes that the canvas has no more.
-/

namespace NodeCanvas

variable {R : Type} [Scalar R] {w : LocalWorld R}

/-- Everything is delivered, and the client mirrors its backend. -/
structure World.Settled (w : LocalWorld R) : Prop where
  follows : w.Follows False
  delivered : w.remote.pushes = []
  readable : w.remote.backend.Readable

theorem World.Settled.mirrors (h : w.Settled) : w.canvas.graph.Mirrors False w.remote.backend := by
  have hfollowing := h.follows.following
  rw [h.delivered] at hfollowing
  exact hfollowing.mirrors

theorem World.Settled.of_mirrors (ht : w.canvas.graph.Tidy)
    (hs : w.remote.backend.Sound) (hm : w.canvas.graph.Mirrors False w.remote.backend)
    (hr : w.remote.backend.Readable) (hsub : w.remote.subscribed = true)
    (hdelivered : w.remote.pushes = []) (howed : w.canvas.saving.owedClears = 0)
    (hrestoring : w.canvas.saving.restoring = false) : w.Settled where
  follows := by
    refine ⟨?_, hsub, ?_, howed, hrestoring⟩
    · rw [hdelivered]
      exact .of_mirrors ht hs hm
    · rw [hdelivered]
      simp
  delivered := hdelivered
  readable := hr

/-- Once all that is queued is delivered, the world is settled. -/
def World.Settles (w : LocalWorld R) : Prop :=
  ∃ n w', w.pump none = .ok (n, w') ∧ w'.Settled

theorem World.Follows.settles (h : w.Follows False)
    (hr : w.remote.backend.Readable) : w.Settles := by
  obtain ⟨n, w', hrun, hn, hbecomes, hfollows⟩ := h.pump none
  have hall : n = w.remote.pushes.length := hn.trans (Nat.min_self _)
  refine ⟨n, w', hrun, hfollows, ?_, ?_⟩
  · rw [hbecomes.remote, hall]
    exact List.drop_length
  · rw [hbecomes.remote]
    exact hr

/-- **After a restore, its announcements settle what it left.** The first is owed and only counted;
the others make the graph the mirror of the backend. -/
theorem Rebuilding.settles {added : List (PushEvent R)}
    (h : Rebuilding w.canvas.graph w.remote added) (howed : w.canvas.saving.owedClears = 1)
    (hrestoring : w.canvas.saving.restoring = false) : w.Settles := by
  obtain ⟨n, w', hrun, ⟨hgraph, howed', hrestoring'⟩, hremote⟩ :=
    World.pump_owed h.pushes (fun p hp => (h.adds p hp).safe)
      (fun p hp => (h.adds p hp).not_wipe) (by omega)
  refine ⟨n, w', hrun, .of_mirrors ?_ ?_ ?_ ?_ ?_ ?_ (howed'.trans (by omega))
    (hrestoring'.trans hrestoring)⟩
  · rw [hgraph]
    exact h.tidy.settle h.remote
  · rw [hremote]
    exact h.sound
  · rw [hgraph, hremote]
    exact h.mirrors
  · rw [hremote]
    exact h.readable
  · rw [hremote]
    exact h.subscribed
  · rw [hremote]

/-! ## Loading -/

omit [Scalar R] in
/-- Connections that lead from one node to another are all taken over. -/
theorem Backend.Sound.values_filter_loops {b : Backend R} (h : b.Sound) :
    b.connections.values.filter (!·.isSelfLoop) = b.connections.values := by
  refine List.filter_eq_self.2 fun c hc => ?_
  obtain ⟨id, hid⟩ := Table.mem_values_iff.1 hc
  simpa [Connection.isSelfLoop] using (h.ends id c hid).2.2

namespace Graph

variable {b : Backend R}

omit [Scalar R] in
theorem nodes_replaceAll (g : Graph R) (hs : b.Sound) :
    (g.replaceAll b.nodes.values b.connections.values).nodes = b.nodes :=
  Table.ofList_values hs.nodeIds

omit [Scalar R] in
theorem connections_replaceAll (g : Graph R) (hs : b.Sound) :
    (g.replaceAll b.nodes.values b.connections.values).connections = b.connections := by
  rw [replaceAll, hs.values_filter_loops]
  exact Table.ofList_values hs.connectionIds

/-- **What is loaded from a backend mirrors it**, and nothing from here is left. -/
theorem mirrors_replaceAll (g : Graph R) (hs : b.Sound) :
    (g.replaceAll b.nodes.values b.connections.values).Tidy ∧
      (g.replaceAll b.nodes.values b.connections.values).Mirrors False b := by
  have hnodes := g.nodes_replaceAll hs
  have hconnections := g.connections_replaceAll hs
  have hremoteNode : ∀ id, b.nodes.contains id = true → ¬ IsLocalId id :=
    fun id hid => hs.not_isLocalId hid
  -- No id of the backend is one from here, so a graph without marks is in order.
  refine ⟨⟨fun id c hc => ?_, fun id => ?_, fun id => ?_, fun id c hc _ => ?_⟩, ⟨fun id _ => ?_,
    fun id c hc => ?_, fun id c _ hc => .inl ?_⟩⟩
  · rw [hconnections] at hc
    exact hs.connectionIds id c hc
  · rw [hnodes]
    refine ⟨fun hmark => ?_, fun hlocal => (hremoteNode id hlocal.2 hlocal.1).elim⟩
    cases hmark
  · rw [hconnections]
    refine ⟨fun hmark => ?_, fun hlocal => ?_⟩
    · cases hmark
    · obtain ⟨c, hc⟩ := Table.contains_iff.1 hlocal.2
      exact ((hs.connectionsIssued id c hc).not_isLocalId_of_conn hlocal.1).elim
  · rw [hconnections] at hc
    obtain ⟨hsource, htarget, -⟩ := hs.ends id c hc
    exact ⟨hremoteNode _ hsource, hremoteNode _ htarget⟩
  · rw [hnodes]
    cases b.nodes.get? id with
    | none => exact .none
    | some n => exact .some (.refl n)
  · rw [hconnections]
    exact hc
  · rw [hconnections] at hc
    exact hc

end Graph

namespace World.Settled

variable {w : LocalWorld R}

/-- A request that is refused or changes nothing leaves a settled world settled. -/
theorem still {w' : LocalWorld R} (h : w.Settled) {b' : Backend R}
    (heffect : w.remote.backend.Effect b' [])
    (hcanvas : w.canvas.Becomes w'.canvas w.canvas.graph w.canvas.saving.owedClears)
    (hremote : w'.remote = { w.remote with backend := b' }) : w'.Settled := by
  have hfollowing := h.follows.following
  refine .of_mirrors ?_ ?_ ?_ ?_ ?_ ?_ (hcanvas.owed.trans h.follows.owed)
    (hcanvas.restoring.trans h.follows.restoring)
  · rw [hcanvas.graph]
    exact hfollowing.tidy
  · rw [hremote]
    exact hfollowing.sound.of_effect heffect
  · rw [hcanvas.graph, hremote]
    exact h.mirrors.announced hfollowing.sound hfollowing.tidy.keyed heffect
  · rw [hremote]
    exact h.readable.of_effect heffect (by simp)
  · rw [hremote]
    exact h.follows.subscribed
  · rw [hremote]
    exact h.delivered

/-- **Loading the canvas of the backend ends, and leaves a settled world settled.** -/
theorem load (h : w.Settled) :
    (Client.loadFromBackend : Attempt R MemoryStore Unit).Ends Link.handle w
      fun _ w' => w'.Settled := by
  rw [Link.handle_eq, Client.loadFromBackend, Attempt.ends_bind, Attempt.ends_ask]
  obtain ⟨cause, b', hanswer, heffect⟩ | ⟨done, hperform, hanswer, heffect, -⟩ :=
    w.remote.answer_cases .fetchCanvas
  · simp only [Link.answering, hanswer]
    exact h.still heffect ⟨rfl, rfl, rfl⟩ rfl
  · cases hperform
    rw [if_pos h.follows.subscribed] at hanswer
    simp only [Link.answering, hanswer]
    refine Attempt.ends_bind.2 (Attempt.ends_atomically.2 ?_)
    refine Attempt.ends_bind.2 (Attempt.ends_tell.2 (Attempt.ends_tell.2 ?_))
    have hsound := h.follows.following.sound.of_effect heffect
    obtain ⟨htidy, hmirrors⟩ := w.canvas.graph.mirrors_replaceAll hsound
    exact .of_mirrors htidy hsound hmirrors (h.readable.of_effect heffect (by simp))
      h.follows.subscribed ((List.append_nil _).trans h.delivered) rfl h.follows.restoring

/-- **Each edit ends, and its announcements settle what it left.** -/
theorem edit (h : w.Settled) (e : GraphEdit R)
    (hcreate : ∀ spec, e = .createNode spec → Bag.Decodable spec.parameters) :
    (e.attempt : Attempt R MemoryStore Unit).Ends Link.handle w fun _ w' => w'.Settles := by
  obtain ⟨result, w', hrun, hedited, hfollows⟩ := h.follows.edit e (.inr fun a _ c hc => by
    rw [h.delivered] at hc
    cases hc)
  exact ⟨result, w', hrun, hfollows.settles (h.readable.edited hcreate hedited.edited)⟩

/-- **A restore ends, and if it cleared the backend, its announcements settle what it left.** -/
theorem restore (h : w.Settled) {s : Snapshot R} (hs : s.Readable) :
    (Client.restoreSnapshot s : Program R MemoryStore RestoreReport).Ends Link.handle w
      fun report w' => report.remoteCleared = true → w'.Settles := by
  rw [Link.handle_eq]
  refine (Client.restoreSnapshot_ends s).mono fun report w' hend hcleared => ?_
  obtain ⟨hreport, hgraph, hremote, howed, hrestoring⟩ := hend
  obtain ⟨cause, b', hanswer, -⟩ | ⟨b', hanswer, hnodes, hconnections⟩ :=
    w.remote.clearCanvas_cases h.follows.subscribed
  -- The backend was not cleared, and nothing is promised.
  · rw [hreport] at hcleared
    simp only [Link.answering, hanswer] at hcleared
    cases hcleared
  · simp only [Link.answering, hanswer] at hgraph hremote howed
    have hstart : Rebuilding w.canvas.graph.clear.1 { w.remote with
        backend := b', pushes := w.remote.pushes ++ [.canvasCleared] } [] := by
      refine .start h.follows.following.tidy h.follows.subscribed ?_ hnodes hconnections
      rw [h.delivered]
      rfl
    obtain ⟨added, hrebuilding⟩ := hstart.restore hs w.ids
    rw [h.follows.owed] at howed
    rw [← hgraph, ← hremote] at hrebuilding
    exact hrebuilding.settles howed hrestoring

/-- A world that differs in nothing but what is not about the graph. -/
theorem of_still {w' : LocalWorld R} (h : w.Settled) (hstill : w.Still w') : w'.Settled := by
  obtain ⟨hcanvas, hremote⟩ := hstill
  exact h.still (.keep rfl rfl rfl) hcanvas hremote

theorem after_quiet {α : Type} (h : w.Settled) {body : Edit R α} (hquiet : body.Quiet) :
    World.Settled (w.after (body w.moment w.canvas)) :=
  h.of_still ⟨hquiet w.moment w.canvas, rfl⟩

theorem settles (h : w.Settled) : w.Settles := h.follows.settles h.readable

/-- The restore of a document, if there is one that holds something. -/
theorem restoreDocument (h : w.Settled) :
    (Client.restoreDocument : Attempt R MemoryStore (Option RestoreReport)).Ends Link.handle w
      fun result w' =>
        (∀ report, result = .ok (some report) → report.remoteCleared = true) → w'.Settles := by
  refine Attempt.ends_bind.2 (Attempt.ends_consult.2 ?_)
  refine Attempt.ends_bind.2 (Attempt.ends_document.2 ?_)
  cases Document.loadVersioned w.store canvasKey canvasVersion with
  | error cause => exact fun _ => h.settles
  | ok document =>
    refine Attempt.ends_bind.2 (Attempt.ends_fresh.2 ?_)
    have hdrawn : World.Settled { w with
        ids := ((Document.decodeSnapshot? (R := R) document).run w.ids).2 } :=
      h.of_still ⟨⟨rfl, rfl, rfl⟩, rfl⟩
    refine Attempt.ends_bind.2 (Attempt.ends_document.2 ?_)
    cases hfound : ((Document.decodeSnapshot? (R := R) document).run w.ids).1 with
    | error cause => exact fun _ => hdrawn.settles
    | ok found =>
      cases found with
      | none => exact Attempt.ends_pure.2 fun _ => hdrawn.settles
      | some s =>
        dsimp only [Except.mapError]
        split
        · exact Attempt.ends_pure.2 fun _ => hdrawn.settles
        · have hs : s.Readable := Document.readable_of_decodeSnapshot? hfound
          refine Attempt.ends_bind.2 (Attempt.ends_always.2 ?_)
          refine (hdrawn.restore hs).mono fun report w' hend => ?_
          exact Attempt.ends_pure.2 fun hcleared => hend (hcleared report rfl)

/-- **The saved canvas is restored like any other.** -/
theorem restoreSaved (h : w.Settled) :
    (Client.restoreSaved : Attempt R MemoryStore (Option RestoreReport)).Ends Link.handle w
      fun result w' =>
        (∀ report, result = .ok (some report) → report.remoteCleared = true) → w'.Settles := by
  rw [Client.restoreSaved]
  refine Attempt.ends_bind.2 (Attempt.ends_consult.2 ?_)
  refine Attempt.ends_bind.2 (Attempt.ends_document.2 ?_)
  cases Document.loadProject w.store with
  | error cause => exact fun _ => h.settles
  | ok project =>
    cases project with
    | none => exact h.restoreDocument
    | some project =>
      refine Attempt.ends_bind.2 (Attempt.ends_atomically.2 ?_)
      exact restoreDocument (h.after_quiet (Edit.quiet_onSaving (fun _ => rfl) fun _ => rfl))

/-- **So is one that is imported.** -/
theorem importText (h : w.Settled) (text : String) :
    (Client.importText text : Attempt R MemoryStore RestoreReport).Ends Link.handle w
      fun result w' =>
        (∀ report, result = .ok report → report.remoteCleared = true) → w'.Settles := by
  rw [Client.importText]
  cases Json.parse? text with
  | none => exact Attempt.ends_throw.2 fun _ => h.settles
  | some value =>
    refine Attempt.ends_bind.2 (Attempt.ends_fresh.2 ?_)
    have hdrawn : World.Settled { w with
        ids := ((Import.project (R := R) value).run w.ids).2 } :=
      h.of_still ⟨⟨rfl, rfl, rfl⟩, rfl⟩
    cases hread : ((Import.project (R := R) value).run w.ids).1 with
    | error cause => exact Attempt.ends_throw.2 fun _ => hdrawn.settles
    | ok imported =>
      refine Attempt.ends_bind.2 (Attempt.ends_atomically.2 (Attempt.ends_always.2 ?_))
      have hnamed := hdrawn.after_quiet (Edit.quiet_onSaving (f := fun s => { s with
        projectName := imported.name.getD s.projectName, tabs := imported.tabs })
        (fun _ => rfl) fun _ => rfl)
      refine (hnamed.restore (Import.readable_of_project hread)).mono fun report w' hend => ?_
      exact fun hcleared => hend (hcleared report rfl)

end World.Settled

end NodeCanvas
