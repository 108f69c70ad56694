import NodeCanvas.Client.Operation
/-!
# Properties that are shown along the text of a program

A property of programs is `Program.Closed` if it holds of what operations do by the way, such as
looking at the canvas, sending a request or telling the user, and of whatever is put together from
programs that have it. Such a property holds of an operation as soon as it holds of the sections in
which the operation changes the canvas and of what it tells: the lemmas here say so for what several
operations are made of, once for all these properties. Operations that need no other care are
`Client.Operation.isOrdinary`, and those that move the view `Client.Operation.isGesture`.
-/

namespace NodeCanvas

variable {R σ α β : Type}

theorem Client.isSelfLoop_of_renamed {names : Table NodeId} {c renamed : Connection}
    (h : renamed? names c = some renamed) : renamed.isSelfLoop = false := by
  obtain ⟨source, -, h⟩ := Option.bind_eq_some_iff.1 h
  obtain ⟨target, -, h⟩ := Option.bind_eq_some_iff.1 h
  obtain ⟨_, hguard, h⟩ := Option.bind_eq_some_iff.1 h
  cases h
  unfold guard at hguard
  split at hguard
  · rename_i hends
    exact beq_eq_false_iff_ne.2 hends
  · cases hguard

/-- The request is about a node or a connection that there is already. -/
def Request.isAimed : Request R → Bool
  | .moveNode _ _ | .deleteNode _ | .updateParameters _ _ | .updateMetadata _ _ | .updatePorts _ _
  | .createConnection _ | .deleteConnection _ => true
  | _ => false

/-- The call patches a node. -/
def Client.Call.patches : Call R → Bool
  | .moveNode _ _ | .updateParameters _ _ | .updateMetadata _ _ | .updatePorts _ _ => true
  | _ => false

/-- The operation asks for something, notes what is new of debug sessions, or loads settings. -/
def Client.Operation.isOrdinary : Operation R → Bool
  | .call (.createNode _) | .call (.startExecution _) | .call .stepExecution
  | .call (.searchPattern _ _) | .call (.refactorPattern _) | .call (.exportCode _ _)
  | .call (.createSession _ _) | .call (.startSession _) | .call (.stepSession _ _)
  | .call (.runAllSessions _) | .refreshSessions | .loadUiSettings _ => true
  | _ => false

/-- The operation moves the view. -/
def Client.Operation.isGesture : Operation R → Bool
  | .setZoom _ _ | .zoomIn _ | .zoomOut _ | .panBy _ _ | .fitToContent => true
  | _ => false

/-- A way to move the view. -/
inductive Motion (R : Type)
  | setZoom (zoom : R) (anchor : Option (R × R))
  | panBy (dx dy : R)
  | fit (bounds : Rect R)

/-- The moved view, and whether that is a change. -/
def Motion.apply [Scalar R] : Motion R → Viewport R → Viewport R × Bool
  | setZoom zoom anchor, v => v.setZoom zoom anchor
  | panBy dx dy, v => v.panBy dx dy
  | fit bounds, v => v.fit bounds Client.fitPadding

/-- A section that moves the viewport, and answers something about the view if that is a change. -/
def Edit.moving (f : Viewport R → Viewport R × Bool) (answered : View R → β) :
    Edit R (Option β) := do
  if ← Edit.onViewport f then
    Edit.markDirty
    return some (answered (← Edit.read (·.viewport.view)))
  else return none

/-- The section looks at the canvas and then moves the view or leaves it. -/
inductive Edit.Moves [Scalar R] (shown : β → View R) : Edit R (Option β) → Prop
  | still : Edit.Moves shown (pure none)
  | move (motion : Motion R) {answered : View R → β} (h : ∀ view, shown (answered view) = view) :
    Edit.Moves shown (Edit.moving motion.apply answered)
  | look {α : Type} (f : Canvas R → α) {next : α → Edit R (Option β)}
    (h : ∀ a, Edit.Moves shown (next a)) : Edit.Moves shown (Edit.read f >>= next)

/-- The property is closed under the ways to build a program. It may mind some requests. -/
structure Program.Closed (asks : Request R → Prop) (P : {α : Type} → Program R σ α → Prop) :
    Prop where
  pure {α : Type} (a : α) : P (Pure.pure a : Program R σ α)
  bind {α β : Type} {program : Program R σ α} {f : α → Program R σ β} :
    P program → (∀ a, P (f a)) → P (program >>= f)
  read {α : Type} (f : Canvas R → α) : P (Program.read f)
  fresh {α : Type} (body : Drawing α) : P (Program.fresh body)
  send {call : Request R} : asks call → P (Program.send call)
  notify (level : NotificationLevel) (message : String) : P (Program.notify level message)
  consult {α : Type} (body : σ → α) : P (Program.consult body)

namespace Program.Closed

variable {asks : Request R → Prop} {P : {α : Type} → Program R σ α → Prop} (h : Closed asks P)
  {complaint : String}

include h

/-! ## Attempts -/

theorem always {program : Program R σ α} (hprogram : P program) : P (Attempt.always program).run :=
  h.bind hprogram fun _ => h.pure _

theorem attempt {attempt : Attempt R σ α} {f : α → Attempt R σ β} (hattempt : P attempt.run)
    (hf : ∀ a, P (f a).run) : P (attempt >>= f).run := by
  refine h.bind hattempt fun result => ?_
  cases result with
  | ok a => exact hf a
  | error error => exact h.pure _

theorem refuse (complaint : String) (cause : RequestError) :
    P (Attempt.refuse complaint cause : Attempt R σ α).run :=
  h.attempt (h.always (h.notify _ _)) fun _ => h.pure _

theorem ask {call : Request R} (hcall : asks call) :
    P (Attempt.ask complaint call : Attempt R σ call.Reply).run := by
  refine h.attempt (h.always (h.send hcall)) fun answered => ?_
  split
  · exact h.pure _
  · exact h.refuse _ _

theorem document (result : Except DocumentError α) :
    P (Attempt.document result : Attempt R σ α).run := by
  cases result with
  | ok value => exact h.pure _
  | error cause => exact h.pure _

/-- A section that only looks. -/
theorem looking {body : Edit R (Except ClientError α)} (f : Canvas R → Except ClientError α)
    (hbody : ∀ m c, body m c = Edit.read f m c) :
    P (Attempt.checked body : Attempt R σ α).run := by
  obtain rfl : body = Edit.read f := funext fun m => funext fun c => hbody m c
  exact h.read f

/-! ## Edits of the graph -/

theorem nodeIdentity (node : NodeId) : P (Client.nodeIdentity node : Attempt R σ _).run := by
  refine h.looking (fun c => (c.graph.identity? node).elim (.error (.unknownNode node)) .ok)
    fun m c => ?_
  cases hfound : c.graph.identity? node <;> simp [Bind.bind, Pure.pure, Edit.read, hfound]

theorem mergedHere (node : NodeId) (merge : Node R → α) :
    P (Client.mergedHere node merge : Attempt R σ α).run := by
  refine h.looking
    (fun c => (c.graph.node? node).elim (.error (.unknownNode node)) fun n => .ok (merge n))
    fun m c => ?_
  cases hfound : c.graph.node? node <;> simp [Bind.bind, Pure.pure, Edit.read, hfound]

/-- An edit of a node that is asked for first if the backend has the node. -/
theorem unlessLocal {node : NodeId} {r : Request R} {edit : Edit R Unit}
    (hr : asks r) (hedit : P (Program.atomically edit)) :
    P (do
      let identity ← Client.nodeIdentity node
      unless identity.isLocal do
        let _ ← .ask complaint r
      .atomically edit : Attempt R σ Unit).run := by
  refine h.attempt (h.nodeIdentity node) fun identity => ?_
  dsimp only
  split
  · exact h.always hedit
  · exact h.attempt (h.ask hr) fun _ => h.always hedit

/-- A patch that the backend works out if it has the node. -/
theorem patchEdit [Scalar R] {node : NodeId} {r : Request R}
    {here : Attempt R σ r.Reply} {parts : r.Reply → NodePatch R} (hr : asks r) (hhere : P here.run)
    (hpatch : ∀ patch, P (Program.atomically (Edit.patchNode node patch))) :
    P (do
      let identity ← Client.nodeIdentity node
      let reply ← if identity.isLocal then here else .ask complaint r
      .atomically (Edit.patchNode node (parts reply)) : Attempt R σ Unit).run := by
  refine h.attempt (h.nodeIdentity node) fun identity => ?_
  dsimp only
  split
  · exact h.attempt hhere fun _ => h.always (hpatch _)
  · exact h.attempt (h.ask hr) fun _ => h.always (hpatch _)

/-- All calls that patch nodes. -/
theorem patching [Scalar R] (hr : ∀ r, asks r)
    (hpatch : ∀ node patch, P (Program.atomically (Edit.patchNode node patch)))
    {call : Client.Call R} (hcall : call.patches = true) :
    P (call.attempt : Attempt R σ call.Result).run := by
  cases call with
  | moveNode node position =>
    exact h.unlessLocal (r := .moveNode node position) (hr _) (hpatch _ _)
  | updateParameters node changes =>
    exact h.patchEdit (r := .updateParameters node changes) (hr _) (h.mergedHere _ _) (hpatch node)
  | updateMetadata node changes =>
    exact h.patchEdit (r := .updateMetadata node changes) (hr _) (h.mergedHere _ _) (hpatch node)
  | updatePorts node ports =>
    exact h.patchEdit (r := .updatePorts node ports) (hr _) (h.pure _) (hpatch node)
  | _ => cases hcall

theorem connect [Scalar R] {source : NodeId} {sourcePort : String} {target : NodeId}
    {targetPort : String} (hr : ∀ spec, asks (.createConnection spec))
    (hhere : ∀ connection, P (Client.connectHere connection : Attempt R σ _).run) :
    P (Client.connect source sourcePort target targetPort : Attempt R σ _).run := by
  refine h.attempt (h.always (h.fresh _)) fun id => ?_
  have hrest (connection : Connection) : P (do
      let sourceIdentity ← Client.nodeIdentity source
      let targetIdentity ← Client.nodeIdentity target
      if sourceIdentity.isLocal || targetIdentity.isLocal then Client.connectHere connection
      else .ask "Could not connect nodes" (.createConnection (.ofConnection connection)) :
      Attempt R σ ConnectionId).run := by
    refine h.attempt (h.nodeIdentity _) fun _ => h.attempt (h.nodeIdentity _) fun _ => ?_
    split
    · exact hhere _
    · exact h.ask (hr _)
  dsimp only
  split
  · exact h.attempt (h.pure _) fun _ => hrest _
  · exact hrest _

theorem disconnect [Scalar R] {connection : ConnectionId} (hr : asks (.deleteConnection connection))
    (hremove : P (Program.atomically (R := R) (do
      let removed ← Edit.onGraph (·.removeConnection connection)
      if removed.isSome then Edit.graphChanged))) :
    P (Client.disconnect connection : Attempt R σ Unit).run := by
  refine h.attempt (h.looking (fun c =>
    (c.graph.connection? connection).elim (.error (.unknownConnection connection))
      fun _ => .ok (c.graph.isLocalConnection connection)) fun m c => ?_) fun isLocal => ?_
  · cases hfound : c.graph.connection? connection <;>
      simp [Bind.bind, Pure.pure, Edit.read, hfound]
  · dsimp only
    split
    · exact h.always hremove
    · exact h.attempt (h.ask hr) fun _ => h.always hremove

/-! ## The view -/

theorem anchorOrCenter [Scalar R] (anchor : Option (R × R)) :
    P (Client.anchorOrCenter anchor : Program R σ _) := by
  cases anchor with
  | none => exact h.read _
  | some anchor => exact h.pure _

theorem reportFit [Scalar R] {before after : View R}
    (hzoom : ∀ zoom center, asks (.setZoom zoom center))
    (hpan : ∀ dx dy, asks (.pan dx dy)) :
    P (Client.reportFit before after : Program R σ Unit) := by
  have hrest (zoomed : Bool) : P (do
      if zoomed then
        let dx := after.panX - before.panX
        let dy := after.panY - before.panY
        if dx != 0.0 || dy != 0.0 then
          let _ ← .send (.pan dx dy) : Program R σ Unit) := by
    split
    · dsimp only
      split
      · exact h.bind (h.send (hpan _ _)) fun _ => h.pure _
      · exact h.pure _
    · exact h.pure _
  rw [Client.reportFit]
  dsimp only
  split
  · exact h.bind (h.pure _) hrest
  · refine h.bind (h.send (hzoom _ _)) fun answered => ?_
    split
    · exact h.bind (h.pure _) hrest
    · exact h.bind (h.pure _) hrest

/-- All operations that move the view, of which they tell right after the section. -/
theorem gesture [Scalar R] [DocumentStore σ] (hr : ∀ r : Request R, r.isAimed = false → asks r)
    (hmove : ∀ {β : Type} (shown : β → View R) {body : Edit R (Option β)}
      {next : Option β → Program R σ Bool}, body.Moves shown → next none = Pure.pure false →
      (∀ b, ∃ rest, next (some b) = (Program.tell (.viewChanged (shown b)) >>= rest) ∧
        P (rest ())) → P (.atomically body >>= next))
    {op : Client.Operation R} (hop : op.isGesture = true) :
    P (op.program : Program R σ op.Result) := by
  have hzoom (target : R → R) (anchor : Option (R × R)) :
      P (Client.zoom target anchor : Program R σ Bool) := by
    refine hmove Prod.fst (.look _ fun before => .move (.setZoom _ _) fun _ => rfl) rfl ?_
    rintro ⟨view, center⟩
    exact ⟨_, rfl, h.bind (h.send (hr _ rfl)) fun _ => h.pure _⟩
  cases op with
  | setZoom factor anchor => exact hzoom (fun _ => factor) anchor
  | zoomIn anchor | zoomOut anchor => exact h.bind (h.anchorOrCenter _) fun _ => hzoom _ _
  | panBy dx dy =>
    change P (Client.panBy dx dy : Program R σ Bool)
    exact hmove id (.move (.panBy dx dy) fun _ => rfl) rfl fun _ =>
      ⟨_, rfl, h.bind (h.send (hr _ rfl)) fun _ => h.pure _⟩
  | fitToContent =>
    change P (Client.fitToContent : Program R σ Bool)
    refine hmove Prod.snd (.look _ fun bounds => ?_) rfl ?_
    · cases bounds with
      | none => exact .still
      | some bounds => exact .look _ fun before => .move (.fit bounds) fun _ => rfl
    · rintro ⟨before, after⟩
      exact ⟨_, rfl, h.bind (h.reportFit (fun _ _ => hr _ rfl) fun _ _ => hr _ rfl) fun _ =>
        h.pure _⟩
  | _ => cases hop

/-! ## Debug sessions -/

theorem requireSession (session : SessionId) :
    P (Client.requireSession session : Attempt R σ Unit).run := by
  refine h.looking (fun c =>
    if (c.debug.session? session).isSome then .ok () else .error (.unknownSession session))
    fun m c => ?_
  by_cases hfound : (c.debug.session? session).isSome = true <;>
    simp [Bind.bind, Pure.pure, Edit.read, hfound]

section Sessions

variable (htell : P (Program.tell .debugSessionsChanged : Program R σ Unit)) {session : SessionId}

include htell

theorem changeSessions {change : Edit R Bool} (hchange : P (Program.atomically change)) :
    P (Client.changeSessions change : Attempt R σ Unit).run := by
  refine h.attempt (h.always hchange) fun changed => ?_
  split
  · exact h.always htell
  · exact h.pure _

theorem createSession {nodes : List NodeId} {options : Table Json}
    (hr : ∀ spec, asks (.createSession spec))
    (hregister : ∀ session state, P (Program.atomically (R := R)
      (Edit.onDebug fun d => (d.register session nodes state, ())))) :
    P (Client.createSession nodes options : Attempt R σ SessionId).run :=
  h.attempt (h.looking _ fun _ _ => rfl) fun _ => h.attempt (h.always (h.fresh _)) fun _ =>
    h.attempt (h.ask (hr _)) fun _ => h.attempt (h.always (hregister _ _)) fun _ =>
      h.attempt (h.always htell) fun _ => h.pure _

theorem startSession (hr : asks (.startSession session))
    (hstart : ∀ state, P (Program.atomically (R := R) (Edit.onDebug (·.setState session state)))) :
    P (Client.startSession session : Attempt R σ Unit).run :=
  h.attempt (h.requireSession session) fun _ => h.attempt (h.ask hr) fun _ =>
    h.changeSessions htell (hstart _)

theorem stepSession {kind : StepKind} (hr : asks (.stepSession session kind))
    (hstep : ∀ result, P (Program.atomically (R := R) (do
      let now ← Edit.now
      Edit.apply (·.applyDebugStep session result now)))) :
    P (Client.stepSession session kind : Attempt R σ StepResult).run :=
  h.attempt (h.requireSession session) fun _ => h.attempt (h.ask hr) fun _ =>
    h.attempt (h.changeSessions htell (hstep _)) fun _ => h.pure _

theorem runAllSessions {settings : Settings} (hr : asks (.runAllSessions settings.runAllTimeout))
    (hrun : ∀ results, P (Program.atomically (R := R) (Edit.onDebug (·.applyRunAll results)))) :
    P (Client.runAllSessions settings : Attempt R σ RunAllReply).run :=
  h.attempt (h.ask hr) fun _ => h.attempt (h.changeSessions htell (hrun _)) fun _ => h.pure _

theorem refreshSessions (hr : asks .listSessions)
    (hlist : ∀ listing, P (Program.atomically (R := R) (Edit.onDebug (·.applyListing listing)))) :
    P (Client.refreshSessions : Attempt R σ Unit).run := by
  refine h.attempt (h.always (h.send hr)) fun answered => ?_
  split
  · exact h.pure _
  · exact h.changeSessions htell (hlist _)

variable (hr : ∀ session, asks (.stopSession session))
  (hforget : ∀ session,
    P (Program.atomically (Edit.apply (·.removeDebugSession session) : Edit R Bool)))

include hr hforget

theorem stopSession : P (Client.stopSession session : Attempt R σ Unit).run := by
  have hrest : P (Client.changeSessions (Edit.apply (·.removeDebugSession session)) :
      Attempt R σ Unit).run := h.changeSessions htell (hforget session)
  refine h.attempt (h.requireSession session) fun _ =>
    h.attempt (h.always (h.send (hr session))) fun answered => ?_
  dsimp only
  split
  · exact hrest
  · split
    · exact hrest
    · exact h.attempt (h.refuse _ _) fun _ => hrest

theorem stopAllSessions : P (Client.stopAllSessions : Program R σ StopAllReport) := by
  have hstop (sessions : List SessionId) : P (Client.stopSessions sessions : Program R σ _) := by
    induction sessions with
    | nil =>
      rw [Client.stopSessions]
      exact h.pure _
    | cons session sessions ih =>
      have hstopped : P (Client.stopSessions.stopped session sessions : Program R σ _) := by
        rw [Client.stopSessions.stopped]
        exact h.bind (hforget session) fun _ => h.bind ih fun _ => h.pure _
      rw [Client.stopSessions]
      refine h.bind (h.send (hr session)) fun answered => ?_
      split
      · exact hstopped
      · split
        · exact hstopped
        · exact h.bind ih fun _ => h.pure _
  refine h.bind (h.read _) fun sessions => h.bind (hstop sessions) fun report => ?_
  have hrest : P (do
      unless report.stopped.isEmpty do
        .tell .debugSessionsChanged
      return report : Program R σ StopAllReport) := by
    dsimp only
    split
    · exact h.pure _
    · exact h.bind htell fun _ => h.pure _
  dsimp only
  split
  · exact hrest
  · exact h.bind (h.notify _ _) fun _ => hrest

end Sessions

/-! ## Settings -/

theorem loadUiSettings [Scalar R] [DocumentStore σ] {settings : Settings}
    (hui : ∀ ui, P (Program.atomically (Edit.modify (·.applyUiSettings ui) : Edit R Unit))) :
    P (Client.loadUiSettings settings : Attempt R σ _).run :=
  h.attempt (h.always (h.consult _)) fun _ => h.attempt (h.document _) fun _ =>
    h.attempt (h.document _) fun _ => h.attempt (h.always (hui _)) fun _ => h.pure _

/-! ## Ordinary operations -/

theorem ordinary [Scalar R] [DocumentStore σ] (hr : ∀ r : Request R, r.isAimed = false → asks r)
    (htell : P (Program.tell .debugSessionsChanged : Program R σ Unit))
    (hdebug : ∀ {β : Type} (f : DebugSessions → DebugSessions × β),
      P (Program.atomically (R := R) (Edit.onDebug f)))
    (hstep : ∀ session result, P (Program.atomically (R := R) (do
      let now ← Edit.now
      Edit.apply (·.applyDebugStep session result now))))
    (hui : ∀ ui, P (Program.atomically (Edit.modify (·.applyUiSettings ui) : Edit R Unit)))
    {op : Client.Operation R} (hop : op.isOrdinary = true) :
    P (op.program : Program R σ op.Result) := by
  cases op with
  | call c =>
    cases c with
    | createNode | startExecution | stepExecution | refactorPattern => exact h.ask (hr _ rfl)
    | searchPattern | exportCode =>
      exact h.attempt (h.always (h.read _)) fun _ => h.ask (hr _ rfl)
    | createSession => exact h.createSession htell (fun _ => hr _ rfl) fun _ _ => hdebug _
    | startSession => exact h.startSession htell (hr _ rfl) fun _ => hdebug _
    | stepSession => exact h.stepSession htell (hr _ rfl) (hstep _)
    | runAllSessions => exact h.runAllSessions htell (hr _ rfl) fun _ => hdebug _
    | _ => cases hop
  | refreshSessions => exact h.refreshSessions htell (hr _ rfl) fun _ => hdebug _
  | loadUiSettings => exact h.loadUiSettings hui
  | _ => cases hop

/-! ## Restores -/

theorem clearRemote (hr : asks .clearCanvas)
    (howe : P (Program.atomically (Client.oweClear : Edit R Unit))) :
    P (Client.clearRemote : Program R σ Bool) := by
  refine h.bind (h.send hr) fun answered => ?_
  split
  · exact h.bind howe fun _ => h.pure _
  · exact h.pure _

theorem replayNodes [Scalar R] (hr : ∀ spec, asks (.createNode spec))
    (hplace : ∀ node identity, P (Program.atomically (Client.placeNode (R := R) node identity)))
    (nodes : List (Node R)) (replay : Client.Replay) :
    P (Client.replayNodes nodes replay : Program R σ _) := by
  induction nodes generalizing replay with
  | nil => exact h.pure _
  | cons node nodes ih =>
    refine h.bind (h.bind (h.bind (h.send (hr _)) fun answered => ?_) fun identity => ?_)
      fun identity => ih _
    · split
      · exact h.pure _
      · exact h.bind (h.fresh _) fun _ => h.pure _
    · exact h.bind (hplace _ _) fun _ => h.pure _

/-- No connection that is placed joins a node to itself. -/
theorem replayConnections (hr : ∀ spec, asks (.createConnection spec))
    (hplace : ∀ c isLocal, c.isSelfLoop = false →
      P (Program.atomically (Client.placeConnection (R := R) c isLocal)))
    (names : Table NodeId) (connections : List Connection) (report : RestoreReport) :
    P (Client.replayConnections names connections report : Program R σ _) := by
  have hreplay (c : Connection) (hloop : c.isSelfLoop = false) :
      P (Client.replayConnection c : Program R σ Bool) := by
    refine h.bind (h.bind (h.read _) fun touchesLocal => ?_) fun assigned => ?_
    · split
      · exact h.pure _
      · refine h.bind (h.send (hr _)) fun answered => ?_
        split <;> exact h.pure _
    · split
      · exact h.bind (hplace _ _ hloop) fun _ => h.pure _
      · exact h.bind (h.fresh _) fun _ => h.bind (hplace _ _ hloop) fun _ => h.pure _
  induction connections generalizing report with
  | nil => exact h.pure _
  | cons c connections ih =>
    rw [Client.replayConnections]
    split
    · exact ih _
    · rename_i hrenamed
      refine h.bind (hreplay _ (Client.isSelfLoop_of_renamed hrenamed)) fun answered => ?_
      split <;> exact ih _

theorem saveRestored [Scalar R] [DocumentStore σ]
    (hsave : P (Client.saveNow : Attempt R σ Unit).run) (report : RestoreReport) :
    P (Client.saveRestored report : Program R σ _) := by
  refine h.bind hsave fun saved => ?_
  dsimp only
  split
  · exact h.bind (h.notify _ _) fun _ => h.pure _
  · exact h.pure _

section Documents

variable [Scalar R] [DocumentStore σ]
  (hrestore : ∀ snapshot, P (Client.restoreSnapshot snapshot : Program R σ _))

include hrestore

theorem restoreSaved
    (hname : ∀ name, P (Program.atomically
      (Edit.onSaving (fun s => { s with projectName := name }) : Edit R Unit))) :
    P (Client.restoreSaved : Attempt R σ _).run := by
  have hdocument : P (Client.restoreDocument : Attempt R σ (Option RestoreReport)).run := by
    refine h.attempt (h.always (h.consult _)) fun _ => h.attempt (h.document _) fun _ =>
      h.attempt (h.always (h.fresh _)) fun _ => h.attempt (h.document _) fun snapshot => ?_
    cases snapshot with
    | none => exact h.pure _
    | some snapshot =>
      dsimp only
      split
      · exact h.pure _
      · exact h.attempt (h.always (hrestore _)) fun _ => h.pure _
  refine h.attempt (h.always (h.consult _)) fun _ => h.attempt (h.document _) fun project => ?_
  dsimp only
  split
  · exact h.attempt (h.always (hname _)) fun _ => hdocument
  · exact hdocument

theorem importText {text : String}
    (hname : ∀ name tabs, P (Program.atomically (Edit.onSaving (fun s =>
      { s with projectName := Option.getD name s.projectName, tabs }) : Edit R Unit))) :
    P (Client.importText text : Attempt R σ RestoreReport).run := by
  unfold Client.importText
  split
  · exact h.pure _
  · refine h.attempt (h.always (h.fresh _)) fun imported => ?_
    split
    · exact h.pure _
    · exact h.attempt (h.always (hname _ _)) fun _ => h.always (hrestore _)

end Documents

end Program.Closed

end NodeCanvas
