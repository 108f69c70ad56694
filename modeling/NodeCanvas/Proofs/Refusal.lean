import NodeCanvas.Client.Operation
import NodeCanvas.Proofs.Operation
/-!
# Refused calls

A call of the client that fails has changed nothing. There are two ways to fail, `World.Refused`:
the backend refuses the one request that was sent, of which the user is told once, or the client
finds out by itself that the call makes no sense and says so to the caller alone.

A call consists of a part that only looks (`Attempt.Looks`), of at most one request, and of a part
that cannot fail (`Attempt.Succeeds`), in this order. Whatever is put together in this order fails
in one of the two ways (`Attempt.Refusable`), and `Client.Call.refusable` goes through the calls.
-/

namespace NodeCanvas

variable {R σ ε α β : Type}

/-- A failure that the client finds out by itself. -/
inductive ClientError.FoundHere : ClientError → Prop where
  | selfLoop (connection : ConnectionId) (node : NodeId) :
      FoundHere (.graph (.selfLoop connection node))
  | unknownNode (node : NodeId) : FoundHere (.unknownNode node)
  | unknownConnection (connection : ConnectionId) : FoundHere (.unknownConnection connection)
  | unknownSession (session : SessionId) : FoundHere (.unknownSession session)

/-- How a call fails, and what the world is after it. Identifiers may have been drawn in vain. -/
inductive World.Refused (answer : Answering R ε) (w : World R σ ε) :
    ClientError → World R σ ε → Prop where
  /-- One request was sent, the backend refused it, and the user has been told so. -/
  | byBackend (call : Request R) (complaint : String) (cause : RequestError) (remote : ε)
      (ids : IdSource) (hanswer : answer call w.remote = (.error cause, remote)) :
      Refused answer w (.request cause)
        { w with
          ids, remote
          events := w.events ++ [.notification .error (complaint ++ ": " ++ cause.message)] }
  /-- Nothing was sent and nothing was told. -/
  | here (error : ClientError) (ids : IdSource) (hfound : error.FoundHere) :
      Refused answer w error { w with ids }

/-- If the result is a failure, the client has found it out by itself. -/
def FailsHere (result : Except ClientError α) : Prop :=
  ∀ error, result = .error error → error.FoundHere

theorem failsHere_ok (a : α) : FailsHere (.ok a) := by
  intro error herror
  cases herror

theorem failsHere_error {error : ClientError} (h : error.FoundHere) :
    FailsHere (.error error : Except ClientError α) := by
  intro error' herror
  cases herror
  exact h

namespace Edit

/-- The section leaves the canvas as it is and tells nothing. -/
def Inspects (edit : Edit R (Except ClientError α)) : Prop :=
  ∀ m c, ∃ result, edit m c = ⟨result, c, []⟩ ∧ FailsHere result

theorem inspects_pure {result : Except ClientError α} (h : FailsHere result) :
    (pure result : Edit R (Except ClientError α)).Inspects := by
  intro m c
  exact ⟨result, rfl, h⟩

theorem inspects_read_bind {g : Canvas R → β} {next : β → Edit R (Except ClientError α)}
    (h : ∀ b, (next b).Inspects) : (Edit.read g >>= next).Inspects := by
  intro m c
  obtain ⟨result, hnext, hfails⟩ := h (g c) m c
  refine ⟨result, ?_, hfails⟩
  simp only [bind, Edit.read, hnext, List.append_nil]

end Edit

namespace Attempt

/-- The attempt looks at the canvas and may draw identifiers, and does nothing else. -/
def Looks (attempt : Attempt R σ α) : Prop :=
  ∀ (ε : Type) (answer : Answering R ε) (w : World R σ ε),
    attempt.Ends answer.handler w fun result w' =>
      (∃ ids, w' = { w with ids }) ∧ FailsHere result

/-- The attempt does not fail. -/
def Succeeds (attempt : Attempt R σ α) : Prop :=
  ∀ (ε : Type) (answer : Answering R ε) (w : World R σ ε),
    attempt.Ends answer.handler w fun result _ => ∃ a, result = .ok a

/-- If the attempt fails, it has been refused and has changed nothing. -/
def Refusable (attempt : Attempt R σ α) : Prop :=
  ∀ (ε : Type) (answer : Answering R ε) (w : World R σ ε),
    attempt.Ends answer.handler w fun result w' =>
      ∀ error, result = .error error → w.Refused answer error w'

variable {attempt : Attempt R σ α} {f : α → Attempt R σ β}

/-! ## Looking -/

theorem looks_pure (a : α) : (pure a : Attempt R σ α).Looks := by
  intro ε answer w
  exact ends_pure.2 ⟨⟨w.ids, rfl⟩, failsHere_ok a⟩

theorem looks_throw {error : ClientError} (h : error.FoundHere) :
    (throw error : Attempt R σ α).Looks := by
  intro ε answer w
  exact ends_throw.2 ⟨⟨w.ids, rfl⟩, failsHere_error h⟩

theorem looks_read (g : Canvas R → α) : (read g : Attempt R σ α).Looks := by
  intro ε answer w
  exact ends_read.2 ⟨⟨w.ids, rfl⟩, failsHere_ok _⟩

theorem looks_fresh (body : Drawing α) : (fresh body : Attempt R σ α).Looks := by
  intro ε answer w
  exact ends_fresh.2 ⟨⟨_, rfl⟩, failsHere_ok _⟩

theorem looks_checked {body : Edit R (Except ClientError α)} (h : body.Inspects) :
    (checked body : Attempt R σ α).Looks := by
  intro ε answer w
  obtain ⟨result, hbody, hfails⟩ := h w.moment w.canvas
  exact (ends_look result hbody).2 ⟨⟨w.ids, rfl⟩, hfails⟩

/-! ## Not failing -/

theorem succeeds_pure (a : α) : (pure a : Attempt R σ α).Succeeds := by
  intro ε answer w
  exact ends_pure.2 ⟨a, rfl⟩

theorem succeeds_atomically (body : Edit R α) : (atomically body : Attempt R σ α).Succeeds := by
  intro ε answer w
  exact ends_atomically.2 ⟨_, rfl⟩

theorem succeeds_tell (event : Event R) : (tell event : Attempt R σ Unit).Succeeds := by
  intro ε answer w
  exact ends_tell.2 ⟨(), rfl⟩

theorem Succeeds.bind (h : attempt.Succeeds) (hf : ∀ a, (f a).Succeeds) :
    (attempt >>= f).Succeeds := by
  intro ε answer w
  refine ends_bind.2 ((h ε answer w).mono ?_)
  rintro result w' ⟨a, rfl⟩
  exact hf a ε answer w'

/-! ## Being refused -/

theorem Looks.refusable (h : attempt.Looks) : attempt.Refusable := by
  intro ε answer w
  refine (h ε answer w).mono ?_
  rintro result w' ⟨⟨ids, rfl⟩, hfails⟩ error herror
  exact .here error ids (hfails error herror)

theorem Succeeds.refusable (h : attempt.Succeeds) : attempt.Refusable := by
  intro ε answer w
  refine (h ε answer w).mono ?_
  rintro result w' ⟨a, rfl⟩ error herror
  cases herror

theorem refusable_ask (complaint : String) (call : Request R) :
    (ask complaint call : Attempt R σ call.Reply).Refusable := by
  intro ε answer w
  rw [ends_ask]
  obtain ⟨reply, remote, hanswer⟩ : ∃ reply remote, answer call w.remote = (reply, remote) :=
    ⟨_, _, rfl⟩
  rw [hanswer]
  cases reply with
  | ok reply =>
    intro error herror
    cases herror
  | error cause =>
    intro error herror
    cases herror
    exact .byBackend call complaint cause remote w.ids hanswer

/-- What has been looked at before does not matter. -/
theorem Looks.bind_refusable (h : attempt.Looks) (hf : ∀ a, (f a).Refusable) :
    (attempt >>= f).Refusable := by
  intro ε answer w
  refine ends_bind.2 ((h ε answer w).mono ?_)
  rintro result w' ⟨⟨ids, rfl⟩, hfails⟩
  cases result with
  | error error =>
    intro error' herror
    cases herror
    exact .here error ids (hfails error rfl)
  | ok a =>
    -- what was looked at has at most drawn identifiers, which a refusal may have done anyway
    refine (hf a ε answer _).mono ?_
    intro result w'' hrefused error herror
    cases hrefused error herror with
    | byBackend call complaint cause remote ids' hanswer =>
      exact .byBackend call complaint cause remote ids' hanswer
    | here error ids' hfound => exact .here error ids' hfound

/-- What follows must not fail. -/
theorem Refusable.bind (h : attempt.Refusable) (hf : ∀ a, (f a).Succeeds) :
    (attempt >>= f).Refusable := by
  intro ε answer w
  refine ends_bind.2 ((h ε answer w).mono ?_)
  intro result w' hrefused
  cases result with
  | error error =>
    intro error' herror
    cases herror
    exact hrefused error rfl
  | ok a =>
    refine (hf a ε answer w').mono ?_
    rintro result w'' ⟨b, rfl⟩ error herror
    cases herror

end Attempt

/-! ## Pieces of the calls -/

namespace Client

open Attempt

theorem looks_nodeIdentity (node : NodeId) : (nodeIdentity node : Attempt R σ _).Looks := by
  refine looks_checked (Edit.inspects_read_bind fun identity => ?_)
  split
  · exact Edit.inspects_pure (failsHere_ok _)
  · exact Edit.inspects_pure (failsHere_error (.unknownNode node))

theorem looks_mergedHere (node : NodeId) (merge : Node R → α) :
    (mergedHere node merge : Attempt R σ α).Looks := by
  refine looks_checked (Edit.inspects_read_bind fun found => ?_)
  split
  · exact Edit.inspects_pure (failsHere_ok _)
  · exact Edit.inspects_pure (failsHere_error (.unknownNode node))

theorem looks_requireSession (session : SessionId) :
    (requireSession session : Attempt R σ Unit).Looks := by
  refine looks_checked (Edit.inspects_read_bind fun found => ?_)
  split
  · exact Edit.inspects_pure (failsHere_ok ())
  · exact Edit.inspects_pure (failsHere_error (.unknownSession session))

theorem failsHere_debugNodes (graph : Graph R) (nodes : List NodeId) :
    FailsHere (debugNodes graph nodes) := by
  induction nodes with
  | nil => exact failsHere_ok []
  | cons id ids ih =>
    rw [debugNodes]
    cases graph.node? id with
    | none => exact failsHere_error (.unknownNode id)
    | some node =>
      cases hrest : debugNodes graph ids with
      | error cause => exact failsHere_error (ih cause hrest)
      | ok specs => exact failsHere_ok _

/-- An edit of a node that is asked for first if the backend has the node. -/
theorem refusable_unlessLocal {node : NodeId} {complaint : String} {call : Request R}
    {edit : Edit R Unit} :
    (do
      let identity ← nodeIdentity node
      unless identity.isLocal do
        let _ ← .ask complaint call
      .atomically edit : Attempt R σ Unit).Refusable := by
  refine (looks_nodeIdentity node).bind_refusable fun identity => ?_
  dsimp only
  split
  · exact (succeeds_atomically _).refusable
  · exact (refusable_ask _ _).bind fun _ => succeeds_atomically _

theorem succeeds_changeSessions (change : Edit R Bool) :
    (changeSessions change : Attempt R σ Unit).Succeeds := by
  refine (succeeds_atomically _).bind fun changed => ?_
  split
  · exact succeeds_tell _
  · exact succeeds_pure _

theorem refusable_disconnect (connection : ConnectionId) :
    (disconnect connection : Attempt R σ Unit).Refusable := by
  refine Looks.bind_refusable (looks_checked (Edit.inspects_read_bind fun graph => ?_))
    fun isLocal => ?_
  · split
    · exact Edit.inspects_pure (failsHere_error (.unknownConnection connection))
    · exact Edit.inspects_pure (failsHere_ok _)
  · dsimp only
    split
    · exact (succeeds_atomically _).refusable
    · exact (refusable_ask _ _).bind fun _ => succeeds_atomically _

theorem refusable_setParadigm (paradigm : String) :
    (setParadigm paradigm : Attempt R σ Unit).Refusable := by
  refine (refusable_ask _ _).bind fun answered => (succeeds_atomically _).bind fun changed => ?_
  split
  · exact succeeds_tell _
  · exact succeeds_pure _

theorem refusable_createSession (nodes : List NodeId) (options : Table Json) :
    (createSession nodes options : Attempt R σ SessionId).Refusable := by
  refine Looks.bind_refusable (looks_checked fun m c => ?_) fun specs =>
    (looks_fresh _).bind_refusable fun session => (refusable_ask _ _).bind fun ack => ?_
  · exact ⟨_, rfl, failsHere_debugNodes c.graph nodes⟩
  · exact (succeeds_atomically _).bind fun _ => (succeeds_tell _).bind fun _ => succeeds_pure _

/-- A session that the backend does not know any more is no failure. -/
theorem refusable_stopSession (session : SessionId) :
    (stopSession session : Attempt R σ Unit).Refusable := by
  refine (looks_requireSession session).bind_refusable fun _ ε answer w => ?_
  have hforgets (w₁ : World R σ ε) :
      (changeSessions (Edit.apply (·.removeDebugSession session)) : Attempt R σ Unit).Ends
        answer.handler w₁ fun result w' =>
          ∀ error, result = .error error → w.Refused answer error w' := by
    refine (succeeds_changeSessions _ ε answer w₁).mono ?_
    rintro result w' ⟨a, rfl⟩ error herror
    cases herror
  rw [ends_bind, send, ends_always, Program.ends_send]
  obtain ⟨reply, remote, hanswer⟩ :
      ∃ reply remote, answer (.stopSession session) w.remote = (reply, remote) := ⟨_, _, rfl⟩
  rw [hanswer]
  cases reply with
  | ok reply => exact hforgets _
  | error cause =>
    dsimp only
    split
    · exact hforgets _
    · rw [ends_bind, refuse, ends_bind, ends_tell]
      refine ends_throw.2 ?_
      intro error herror
      cases herror
      exact .byBackend _ _ cause remote w.ids hanswer

variable [Scalar R]

/-- A patch that the backend works out if it has the node. -/
theorem refusable_patchEdit {node : NodeId} {complaint : String} {call : Request R}
    {here : Attempt R σ call.Reply} {parts : call.Reply → NodePatch R} (hhere : here.Looks) :
    (do
      let identity ← nodeIdentity node
      let reply ← if identity.isLocal then here else .ask complaint call
      .atomically (Edit.patchNode node (parts reply)) : Attempt R σ Unit).Refusable := by
  refine (looks_nodeIdentity node).bind_refusable fun identity => ?_
  dsimp only
  split
  · exact hhere.refusable.bind fun _ => succeeds_atomically _
  · exact (refusable_ask _ _).bind fun _ => succeeds_atomically _

/-- A connection that is not made leaves the graph as it was. -/
theorem refusable_connectHere (connection : Connection) :
    (connectHere connection : Attempt R σ ConnectionId).Refusable := by
  cases hloop : connection.isSelfLoop with
  | true =>
    refine Looks.refusable (looks_checked fun m c => ?_)
    refine ⟨_, ?_, failsHere_error (.selfLoop connection.id connection.source)⟩
    simp [Bind.bind, Edit.read, Graph.upsertConnection, hloop, pure]
  | false =>
    refine Succeeds.refusable fun ε answer w => ends_checked.2 ⟨connection.id, ?_⟩
    obtain ⟨changed, hadded⟩ := w.canvas.graph.upsertConnection_of_not_loop hloop
    simp [Bind.bind, Edit.read, hadded, pure]

theorem refusable_loadFromBackend : (loadFromBackend : Attempt R σ Unit).Refusable :=
  (refusable_ask _ _).bind fun _ => (succeeds_atomically _).bind fun _ =>
    (succeeds_tell _).bind fun _ => succeeds_tell _

theorem refusable_connect (source : NodeId) (sourcePort : String) (target : NodeId)
    (targetPort : String) :
    (connect source sourcePort target targetPort : Attempt R σ ConnectionId).Refusable := by
  refine (looks_fresh _).bind_refusable fun id => ?_
  have hrest (connection : Connection) : (do
      let sourceIdentity ← nodeIdentity source
      let targetIdentity ← nodeIdentity target
      if sourceIdentity.isLocal || targetIdentity.isLocal then connectHere connection
      else .ask "Could not connect nodes" (.createConnection (.ofConnection connection)) :
      Attempt R σ ConnectionId).Refusable := by
    refine (looks_nodeIdentity _).bind_refusable fun _ =>
      (looks_nodeIdentity _).bind_refusable fun _ => ?_
    split
    · exact refusable_connectHere _
    · exact refusable_ask _ _
  dsimp only
  split
  · exact (looks_throw (.selfLoop id source)).bind_refusable fun _ => hrest _
  · exact hrest _

/-- **Every call is refused or succeeds.** -/
theorem Call.refusable (call : Call R) : (call.attempt : Attempt R σ call.Result).Refusable := by
  cases call with
  | loadFromBackend => exact refusable_loadFromBackend
  | createNode spec => exact refusable_ask _ _
  | moveNode node position => exact refusable_unlessLocal
  | deleteNode node => exact refusable_unlessLocal
  | updateParameters node changes => exact refusable_patchEdit (looks_mergedHere _ _)
  | updateMetadata node changes => exact refusable_patchEdit (looks_mergedHere _ _)
  | updatePorts node ports => exact refusable_patchEdit (looks_pure ports)
  | connect source sourcePort target targetPort => exact refusable_connect _ _ _ _
  | disconnect connection => exact refusable_disconnect connection
  | clearCanvas => exact (refusable_ask _ _).bind fun _ => succeeds_atomically _
  | setParadigm paradigm => exact refusable_setParadigm paradigm
  | startExecution mode => exact refusable_ask _ _
  | stepExecution => exact refusable_ask _ _
  | stopExecution =>
    exact (refusable_ask _ _).bind fun _ => (succeeds_atomically _).bind fun _ =>
      (succeeds_tell _).bind fun _ => succeeds_pure _
  | searchPattern pattern language =>
    exact (looks_read _).bind_refusable fun _ => refusable_ask _ _
  | refactorPattern spec => exact refusable_ask _ _
  | exportCode language options => exact (looks_read _).bind_refusable fun _ => refusable_ask _ _
  | createSession nodes options => exact refusable_createSession nodes options
  | startSession session =>
    exact (looks_requireSession session).bind_refusable fun _ =>
      (refusable_ask _ _).bind fun _ => succeeds_changeSessions _
  | stepSession session kind =>
    exact (looks_requireSession session).bind_refusable fun _ =>
      (refusable_ask _ _).bind fun _ => (succeeds_changeSessions _).bind fun _ => succeeds_pure _
  | stopSession session => exact refusable_stopSession session
  | runAllSessions settings =>
    exact (refusable_ask _ _).bind fun _ => (succeeds_changeSessions _).bind fun _ =>
      succeeds_pure _

end Client

/-! ## The backend in this process -/

/-- A backend has at most recorded a call: what it keeps is the same, and so is what it has
announced. -/
structure Link.Undisturbed (link link' : Link R) : Prop where
  nodes : link'.backend.nodes = link.backend.nodes
  connections : link'.backend.connections = link.backend.connections
  view : link'.backend.view = link.backend.view
  sessions : link'.backend.sessions = link.backend.sessions
  paradigm : link'.backend.paradigm = link.backend.paradigm
  pushes : link'.pushes = link.pushes

variable [Scalar R]

theorem Link.answer_refused {link link' : Link R} {call : Request R} {cause : RequestError}
    (h : link.answer call = (.error cause, link')) :
    link' = { link with backend := link.recorded call } := by
  obtain ⟨_, hanswer⟩ | ⟨_, -, hanswer⟩ := link.answer_outcome call
  · rw [h] at hanswer
    cases hanswer
    rfl
  · rw [h] at hanswer
    cases hanswer

theorem World.Refused.undisturbed {w w' : World R σ (Link R)} {error : ClientError}
    (h : w.Refused Link.answering error w') : w.remote.Undisturbed w'.remote := by
  cases h with
  | byBackend call complaint cause remote ids hanswer =>
    rw [Link.answer_refused hanswer]
    exact ⟨rfl, rfl, rfl, rfl, rfl, rfl⟩
  | here error ids hfound => exact ⟨rfl, rfl, rfl, rfl, rfl, rfl⟩

/-- **A call that fails has changed nothing**, whatever the canvas and whatever the backend: it
comes to an end, and if that is a failure, the call was refused in one of two ways, `World.Refused`,
both of which leave the canvas and the documents exactly as they were. A backend in this process
keeps what it had and announces nothing. -/
theorem refused_call_changes_nothing (call : Client.Call R) :
    (∀ (ε : Type) (answer : Answering R ε) (w : World R σ ε),
      call.attempt.Ends answer.handler w fun result w' =>
        ∀ error, result = .error error → w.Refused answer error w') ∧
    ∀ w : World R σ (Link R), call.attempt.Ends Link.answering.handler w fun result w' =>
      ∀ error, result = .error error → w.remote.Undisturbed w'.remote := by
  refine ⟨call.refusable, fun w => (call.refusable _ Link.answering w).mono ?_⟩
  intro result w' hrefused error herror
  exact (hrefused error herror).undisturbed

/-- A canvas that still shows a node which the backend has lost. -/
def strandedWorld : LocalWorld Rat :=
  let w := (Session.initial {} .counting ⟨0, 0⟩ : Session Rat).world
  { w with canvas := { w.canvas with
    graph := (w.canvas.graph.upsertNode (.fresh "a" "input" .origin)).1 } }

theorem refused_call_changes_nothing_stranded :
    ∃ cause w', strandedWorld.run (Client.deleteNode "a").run = .ok (.error cause, w') ∧
      strandedWorld.Refused Link.answering cause w' ∧
      strandedWorld.remote.Undisturbed w'.remote := by
  obtain ⟨hrefused, hundisturbed⟩ :=
    refused_call_changes_nothing (σ := MemoryStore) (.deleteNode "a" : Client.Call Rat)
  obtain ⟨result, w', hrun, hresult⟩ := hrefused _ Link.answering strandedWorld
  obtain ⟨_, _, hrun', hresult'⟩ := hundisturbed strandedWorld
  cases hrun.symm.trans hrun'
  have hfails : (strandedWorld.run (Client.Call.deleteNode "a").attempt.run).toOption.map (·.1) =
      some (.error (.request (.notFound "node a not found"))) := by rfl
  rw [World.run, Link.handle_eq, hrun] at hfails
  cases hfails
  exact ⟨_, w', hrun, hresult _ rfl, hresult' _ rfl⟩

end NodeCanvas
