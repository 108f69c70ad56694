import NodeCanvas.Client.Execution
import NodeCanvas.Proofs.Following
/-!
# What the edits of a client do

There are ten edits of the graph that a client can be asked for. `GraphEdit.ends` says that each of
them ends and that it does one of four things to the client's graph and to the backend, `Edited`:
the backend announces something or nothing, or it accepts a change that is made here as well, or a
change is made here alone, or a connection is. So an edit keeps the client following its backend
(`Following.edited`).
-/

namespace NodeCanvas

variable {R : Type} [Scalar R] {link : Link R} {g : Graph R} {w : LocalWorld R} {complaint : String}
  {α : Type}

/-- An edit of the graph that a client can be asked for. -/
inductive GraphEdit (R : Type) where
  | createNode (spec : CreateNode R)
  | moveNode (node : NodeId) (position : Position R)
  | deleteNode (node : NodeId)
  | updateParameters (node : NodeId) (changes : Table Json)
  | updateMetadata (node : NodeId) (changes : Table Json)
  | updatePorts (node : NodeId) (ports : PortsUpdate)
  | connect (source : NodeId) (sourcePort : String) (target : NodeId) (targetPort : String)
  | disconnect (connection : ConnectionId)
  | clearCanvas
  | refactorPattern (spec : PatternRefactor)

namespace GraphEdit

/-- What the client does. -/
def attempt {σ : Type} : GraphEdit R → Attempt R σ Unit
  | .createNode spec => do let _ ← Client.createNode spec
  | .moveNode node position => Client.moveNode node position
  | .deleteNode node => Client.deleteNode node
  | .updateParameters node changes => Client.updateParameters node changes
  | .updateMetadata node changes => Client.updateMetadata node changes
  | .updatePorts node ports => Client.updatePorts node ports
  | .connect source sourcePort target targetPort => do
    let _ ← Client.connect source sourcePort target targetPort
  | .disconnect connection => Client.disconnect connection
  | .clearCanvas => Client.clearCanvas
  | .refactorPattern spec => do let _ ← Client.refactorPattern spec

end GraphEdit

/-- What an edit can do to the graph and the link of a client. -/
inductive Edited (e : GraphEdit R) (g : Graph R) (link : Link R) : Graph R → Link R → Prop where
  | announced (b' : Backend R) (new : List (PushEvent R)) (hsafe : ∀ p ∈ new, p.Safe)
      (hput : ∀ node, .nodeAdded node ∈ new →
        ∃ spec, e = .createNode spec ∧ node.parameters = spec.parameters)
      (heffect : link.backend.Effect b' (new.filterMap (·.change?))) :
      Edited e g link g { link with backend := b', pushes := link.pushes ++ new }
  | committed (b' : Backend R) (p : PushEvent R) (ch : GraphChange R)
      (hchange : p.change? = some ch) (hearly : ch.Early g)
      (hdeleted : ∀ a, ch = .drop a → e = .deleteNode a) (heffect : link.backend.Effect b' [ch]) :
      Edited e g link (g.alter ch) { link with backend := b', pushes := link.pushes ++ [p] }
  | here (ch : GraphChange R) (hlocal : ch.Local) : Edited e g link (g.alter ch) link
  | connectedHere (c : Connection) (hid : IsLocalId c.id) (hloop : c.isSelfLoop = false)
      (hend : ∃ a, c.touches a = true ∧ IsLocalId a ∧ g.nodes.contains a = true) :
      Edited e g link ((g.alter (.link c)).markLocalConnection c.id) link

omit [Scalar R] in
theorem mem_pushes_of_link {pushes : List (PushEvent R)} {c : Connection}
    (h : .link c ∈ pushes.filterMap (·.change?)) : .connectionAdded c ∈ pushes := by
  obtain ⟨p, hp, hchange⟩ := List.mem_filterMap.1 h
  cases p with
  | connectionAdded connection =>
    cases hchange
    exact hp
  | _ => cases hchange

/-- **Every edit keeps the client following**, strictly so unless a node is deleted while a
connection to it is still to be announced. -/
theorem Following.edited {lenient : Prop} {e : GraphEdit R} {link' : Link R} {g' : Graph R}
    (h : Following lenient g (link.pushes.filterMap (·.change?)) link.backend)
    (hedited : Edited e g link g' link')
    (hleft : lenient ∨ ∀ a, e = .deleteNode a → ∀ c, .connectionAdded c ∈ link.pushes →
      c.touches a = false) :
    Following lenient g' (link'.pushes.filterMap (·.change?)) link'.backend := by
  cases hedited with
  | announced b' new hsafe hput heffect =>
    rw [List.filterMap_append]
    exact h.announce heffect
  | committed b' p ch hchange hearly hdeleted heffect =>
    have happend : (link.pushes ++ [p]).filterMap (·.change?) =
        link.pushes.filterMap (·.change?) ++ [ch] := by
      rw [List.filterMap_append]
      simp [hchange]
    rw [happend]
    refine h.commit heffect hearly fun a ha => hleft.imp_right fun hnone c hc => ?_
    exact hnone a (hdeleted a ha) c (mem_pushes_of_link hc)
  | here ch hlocal => exact h.changeHere hlocal
  | connectedHere c hid hloop hend => exact h.connectHere hid hloop

/-- An edit brings in only the parameters of the node that it creates. -/
theorem Backend.Readable.edited {g' : Graph R} {e : GraphEdit R} {link' : Link R}
    (h : link.backend.Readable)
    (hcreate : ∀ spec, e = .createNode spec → Bag.Decodable spec.parameters)
    (hedited : Edited e g link g' link') : link'.backend.Readable := by
  cases hedited with
  | announced b' new hsafe hput heffect =>
    refine h.of_effect heffect fun node hnode => ?_
    obtain ⟨p, hp, hchange⟩ := List.mem_filterMap.1 hnode
    cases p with
    | nodeAdded added =>
      cases hchange
      obtain ⟨spec, rfl, hparameters⟩ := hput _ hp
      rw [hparameters]
      exact hcreate spec rfl
    | _ => cases hchange
  | committed b' p ch hchange hearly hdeleted heffect =>
    refine h.of_effect heffect fun node hnode => ?_
    cases List.mem_singleton.1 hnode
    exact hearly.elim
  | here => exact h
  | connectedHere => exact h

/-! ## Asking the backend -/

/-- The push that announces what a request did, where the client makes the change itself as soon as
it has the reply. -/
def Request.early? : (r : Request R) → r.Reply → Option (PushEvent R)
  | .moveNode node position, _ => some (.nodeMoved node position)
  | .deleteNode node, _ => some (.nodeRemoved node)
  | .updateParameters node _, parameters => some (.nodeParametersUpdated node parameters)
  | .updateMetadata node _, metadata => some (.nodeMetadataUpdated node metadata)
  | .updatePorts node _, ports => some (.nodePortsUpdated node ports.inputs ports.outputs)
  | .deleteConnection connection, _ => some (.connectionRemoved connection)
  | .clearCanvas, _ => some .canvasCleared
  | _, _ => none

theorem Backend.pushes_of_early {b : Backend R} {r : Request R} {done : Accepted R r.Reply}
    {p : PushEvent R} (h : b.perform r = .ok done) (hp : r.early? done.reply = some p) :
    done.pushes = [p] := by
  cases r with
  | moveNode | deleteNode | updateParameters | updateMetadata | updatePorts =>
    obtain ⟨_, -, h⟩ := findNode_bind_eq_ok h
    cases h
    cases hp
    rfl
  | deleteConnection connection =>
    obtain ⟨-, rfl⟩ := deleteConnection_eq_ok h
    cases hp
    rfl
  | clearCanvas =>
    cases h
    cases hp
    rfl
  | _ => cases hp

/-- Only a request for a new node makes one, and with the parameters that it asks for. -/
theorem Backend.nodeAdded_of_perform {b : Backend R} {r : Request R} {done : Accepted R r.Reply}
    {node : Node R} (h : b.perform r = .ok done) (hnode : .nodeAdded node ∈ done.pushes) :
    ∃ spec, r = .createNode spec ∧ node.parameters = spec.parameters := by
  cases r with
  | createNode spec =>
    cases h
    cases List.mem_singleton.1 hnode
    exact ⟨spec, rfl, rfl⟩
  | moveNode _ _ | deleteNode _ | updateParameters _ _ | updateMetadata _ _ | updatePorts _ _
  | deleteConnection _ | clearCanvas =>
    rw [pushes_of_early h rfl] at hnode
    cases List.mem_singleton.1 hnode
  | createConnection spec =>
    obtain ⟨-, -, -, rfl⟩ := createConnection_eq_ok h
    cases List.mem_singleton.1 hnode
  | refactorPattern spec =>
    cases h
    rw [refactorPattern] at hnode
    split at hnode
    · obtain ⟨entry, _, hentry⟩ := List.mem_map.1 hnode
      cases hentry
    · cases hnode
  | startSession _ | stepSession _ _ | stopSession _ =>
    obtain ⟨_, -, h⟩ := findSession_bind_eq_ok h
    cases h
    cases List.mem_singleton.1 hnode
  | fetchCanvas | startExecution _ | stepExecution | stopExecution | createSession _ | listSessions
  | searchPattern _ | exportCode _ =>
    cases h
    cases hnode
  | setZoom _ _ | pan _ _ | runAllSessions _ | setParadigm _ =>
    cases h
    cases List.mem_singleton.1 hnode

/-- What an edit makes of a world, as far as the graph and the backend go. -/
structure World.EditedTo (e : GraphEdit R) (w w' : LocalWorld R) : Prop where
  edited : Edited e w.canvas.graph w.remote w'.canvas.graph w'.remote
  owed : w'.canvas.saving.owedClears = w.canvas.saving.owedClears
  restoring : w'.canvas.saving.restoring = w.canvas.saving.restoring

theorem Edited.refused {e : GraphEdit R} {b' : Backend R} (heffect : link.backend.Effect b' []) :
    Edited e g link g { link with backend := b' } := by
  have h : Edited e g link g { link with backend := b', pushes := link.pushes ++ [] } :=
    .announced b' [] (by simp) (by simp) heffect
  rwa [List.append_nil] at h

/-- A request to a link is refused, and nothing changes, or carried out and announced. -/
theorem Attempt.ends_ask_link {r : Request R}
    {post : Except ClientError r.Reply → LocalWorld R → Prop} (hsub : w.remote.subscribed = true)
    (herror : ∀ cause b' event, w.remote.backend.Effect b' [] →
      post (.error cause) (World.telling { w with remote := { w.remote with backend := b' } } event))
    (hok : ∀ done, (w.remote.recorded r).perform r = .ok done →
      w.remote.backend.Effect done.backend (done.pushes.filterMap (·.change?)) →
      (∀ p ∈ done.pushes, p.Safe) →
      post (.ok done.reply) { w with remote := { w.remote with
        backend := done.backend
        pushes := w.remote.pushes ++ done.pushes } }) :
    (ask complaint r : Attempt R MemoryStore r.Reply).Ends Link.handle w post := by
  rw [Link.handle_eq, ends_ask]
  obtain ⟨cause, b', hanswer, heffect⟩ | ⟨done, hperform, hanswer, heffect, hsafe⟩ :=
    w.remote.answer_cases r
  · simp only [Link.answering, hanswer]
    exact herror _ b' _ heffect
  · rw [if_pos hsub] at hanswer
    simp only [Link.answering, hanswer]
    exact hok done hperform heffect hsafe

omit [Scalar R] in
theorem PushEvent.safe_of_change? {p : PushEvent R} {ch : GraphChange R}
    (h : p.change? = some ch) : p.Safe := by
  cases p with
  | execution event => cases h
  | _ => trivial

/-- An edit that asks the backend and then makes the change that it will announce. -/
theorem Attempt.ends_ask_then {r : Request R}
    {edit : r.Reply → Edit R Unit} {e : GraphEdit R} (hsub : w.remote.subscribed = true)
    (hready : ∀ reply, ∃ p ch, r.early? reply = some p ∧ p.change? = some ch ∧
      ch.Early w.canvas.graph ∧ (∀ a, ch = .drop a → e = .deleteNode a) ∧
      (edit reply).Alters ch) :
    (ask complaint r >>= fun reply => atomically (edit reply) : Attempt R MemoryStore Unit).Ends
      Link.handle w fun _ w' => w.EditedTo e w' := by
  rw [ends_bind]
  refine ends_ask_link hsub (fun cause b' event heffect => ?_) fun done hperform heffect hsafe => ?_
  · exact ⟨.refused heffect, rfl, rfl⟩
  · obtain ⟨p, ch, hearly?, hchange, hearly, hdeleted, hbecomes⟩ := hready done.reply
    -- What the backend announces is what the client does at once, and nothing else.
    have hpushes := Backend.pushes_of_early hperform hearly?
    rw [hpushes] at heffect ⊢
    have hone : [p].filterMap (·.change?) = [ch] := by simp [hchange]
    rw [hone] at heffect
    have hcanvas := hbecomes w.moment w.canvas
    refine ends_atomically.2 ⟨?_, hcanvas.owed, hcanvas.restoring⟩
    have hedited := Edited.committed done.backend p ch hchange hearly hdeleted heffect
    rw [← hcanvas.graph] at hedited
    exact hedited

/-! ## Identities -/

omit [Scalar R] in
/-- A section that only looks at the canvas. -/
theorem Attempt.ends_look {σ ε : Type} {handle : Handler R σ ε} {w : World R σ ε}
    {body : Edit R (Except ClientError α)} {post : Except ClientError α → World R σ ε → Prop}
    (result : Except ClientError α) (h : body w.moment w.canvas = ⟨result, w.canvas, []⟩) :
    (checked body : Attempt R σ α).Ends handle w post ↔ post result w := by
  have hsame : w.after (body w.moment w.canvas) = w := by simp [World.after, h]
  rw [ends_checked, hsame, h]

omit [Scalar R] in
theorem Graph.identity?_cases (h : g.Tidy) (node : NodeId) : g.identity? node = none ∨
      ∃ identity, g.identity? node = some identity ∧ g.nodes.contains node = true ∧
        (identity.isLocal = true ↔ IsLocalId node) := by
  rw [identity?]
  cases hcontains : g.nodes.contains node with
  | false => exact .inl rfl
  | true =>
    refine .inr ?_
    have hmark := h.nodeMarks node
    rw [hcontains] at hmark
    cases hlocal : g.isLocalNode node with
    | false => exact ⟨.remote node, rfl, rfl, by simpa [NodeIdentity.isLocal, hlocal] using hmark⟩
    | true => exact ⟨.localOnly node, rfl, rfl, by simpa [NodeIdentity.isLocal, hlocal] using hmark⟩

/-- What begins with finding out whether the backend has a node. -/
theorem Client.ends_nodeIdentity_bind {node : NodeId}
    {next : NodeIdentity → Attempt R MemoryStore α}
    {post : Except ClientError α → LocalWorld R → Prop} (ht : w.canvas.graph.Tidy)
    (herror : ∀ cause, post (.error cause) w)
    (hok : ∀ identity, w.canvas.graph.nodes.contains node = true →
      (identity.isLocal = true ↔ IsLocalId node) → (next identity).Ends Link.handle w post) :
    (nodeIdentity node >>= next : Attempt R MemoryStore α).Ends Link.handle w post := by
  rw [Attempt.ends_bind, nodeIdentity]
  obtain hnone | ⟨identity, hsome, hstored, hlocal⟩ := w.canvas.graph.identity?_cases ht node
  · refine (Attempt.ends_look (.error (.unknownNode node)) ?_).2 (herror _)
    simp [bind, Edit.read, hnone, pure]
  · refine (Attempt.ends_look (.ok identity) ?_).2 (hok identity hstored hlocal)
    simp [bind, Edit.read, hsome, pure]

/-! ## Edits -/

theorem World.EditedTo.same {e : GraphEdit R} (w : LocalWorld R) : w.EditedTo e w :=
  ⟨.refused (.keep rfl rfl rfl), rfl, rfl⟩

theorem World.EditedTo.of_becomes {e : GraphEdit R} {outcome : Outcome R α}
    (hbecomes : w.canvas.Becomes outcome.canvas g w.canvas.saving.owedClears)
    (h : Edited e w.canvas.graph w.remote g w.remote) :
    w.EditedTo e (w.after outcome) :=
  ⟨hbecomes.graph ▸ h, hbecomes.owed, hbecomes.restoring⟩

/-- An edit of what exists only here. -/
theorem Attempt.ends_here {edit : Edit R Unit} {e : GraphEdit R}
    {ch : GraphChange R} (hedit : edit.Alters ch) (hlocal : ch.Local) :
    (atomically edit : Attempt R MemoryStore Unit).Ends Link.handle w
      fun _ w' => w.EditedTo e w' :=
  ends_atomically.2 (.of_becomes (hedit _ _) (.here ch hlocal))

namespace Client

variable {w : LocalWorld R} {e : GraphEdit R}

/-- What a patch here would write of a node is found out without a change. -/
theorem ends_mergedHere_bind {node : NodeId} {α : Type} {merge : Node R → α}
    {next : α → Attempt R MemoryStore Unit}
    (hstored : w.canvas.graph.nodes.contains node = true)
    (hnext : ∀ a, (next a).Ends Link.handle w fun _ w' => w.EditedTo e w') :
    (mergedHere node merge >>= next : Attempt R MemoryStore Unit).Ends Link.handle w
      fun _ w' => w.EditedTo e w' := by
  obtain ⟨found, hfound⟩ := Table.contains_iff.1 hstored
  rw [Attempt.ends_bind, mergedHere]
  refine (Attempt.ends_look (.ok (merge found)) ?_).2 (hnext _)
  simp [bind, Edit.read, Graph.node?, hfound, pure]

/-- The edits that replace parts of one node: on the backend first if it has the node. -/
theorem patchEdit_ends {node : NodeId} {r : Request R} {complaint : String}
    {here : Attempt R MemoryStore r.Reply} {parts : r.Reply → NodePatch R}
    (hsub : w.remote.subscribed = true) (ht : w.canvas.graph.Tidy)
    (hearly : ∀ reply, ∃ p, r.early? reply = some p ∧ p.change? = some (.patch node (parts reply)))
    (hhere : w.canvas.graph.nodes.contains node = true →
      ∀ next : r.Reply → Attempt R MemoryStore Unit,
      (∀ reply, (next reply).Ends Link.handle w fun _ w' => w.EditedTo e w') →
      (here >>= next).Ends Link.handle w fun _ w' => w.EditedTo e w') :
    (do
      let identity ← nodeIdentity node
      let reply ← if identity.isLocal then here else .ask complaint r
      .atomically (Edit.patchNode node (parts reply)) : Attempt R MemoryStore Unit).Ends Link.handle w
      fun _ w' => w.EditedTo e w' := by
  refine ends_nodeIdentity_bind ht (fun _ => .same w) fun identity hstored hlocal => ?_
  cases hidentity : identity.isLocal with
  | false =>
    refine Attempt.ends_ask_then hsub fun reply => ?_
    obtain ⟨p, hp, hchange⟩ := hearly reply
    exact ⟨p, _, hp, hchange, hstored, by simp, alters_patchNode _ _⟩
  | true =>
    exact hhere hstored _ fun reply =>
      Attempt.ends_here (alters_patchNode _ _) (hlocal.1 hidentity)

theorem moveNode_ends (node : NodeId) (position : Position R) (hsub : w.remote.subscribed = true)
    (ht : w.canvas.graph.Tidy) :
    (moveNode node position : Attempt R MemoryStore Unit).Ends Link.handle w
      fun _ w' => w.EditedTo e w' := by
  refine ends_nodeIdentity_bind ht (fun _ => .same w) fun identity hstored hlocal => ?_
  cases hidentity : identity.isLocal with
  | false =>
    exact Attempt.ends_ask_then hsub fun _ => ⟨.nodeMoved node position, _, rfl, rfl, hstored,
      by simp, alters_patchNode _ _⟩
  | true =>
    refine Attempt.ends_bind.2 (Attempt.ends_pure.2 ?_)
    exact Attempt.ends_here (alters_patchNode _ _) (hlocal.1 hidentity)

theorem updateParameters_ends (node : NodeId) (changes : Table Json)
    (hsub : w.remote.subscribed = true) (ht : w.canvas.graph.Tidy) :
    (updateParameters node changes : Attempt R MemoryStore Unit).Ends Link.handle w
      fun _ w' => w.EditedTo e w' :=
  patchEdit_ends (r := .updateParameters node changes) hsub ht (fun _ => ⟨_, rfl, rfl⟩)
    fun hstored _ => ends_mergedHere_bind hstored

theorem updateMetadata_ends (node : NodeId) (changes : Table Json)
    (hsub : w.remote.subscribed = true) (ht : w.canvas.graph.Tidy) :
    (updateMetadata node changes : Attempt R MemoryStore Unit).Ends Link.handle w
      fun _ w' => w.EditedTo e w' :=
  patchEdit_ends (r := .updateMetadata node changes) hsub ht (fun _ => ⟨_, rfl, rfl⟩)
    fun hstored _ => ends_mergedHere_bind hstored

theorem updatePorts_ends (node : NodeId) (ports : PortsUpdate)
    (hsub : w.remote.subscribed = true) (ht : w.canvas.graph.Tidy) :
    (updatePorts node ports : Attempt R MemoryStore Unit).Ends Link.handle w
      fun _ w' => w.EditedTo e w' := by
  refine patchEdit_ends (r := .updatePorts node ports) hsub ht
    (fun _ => ⟨_, rfl, rfl⟩) fun _ next hnext => ?_
  exact Attempt.ends_bind.2 (Attempt.ends_pure.2 (hnext ports))

theorem deleteNode_ends (node : NodeId) (hsub : w.remote.subscribed = true)
    (ht : w.canvas.graph.Tidy) :
    (deleteNode node : Attempt R MemoryStore Unit).Ends Link.handle w
      fun _ w' => w.EditedTo (.deleteNode node) w' := by
  refine ends_nodeIdentity_bind ht (fun _ => .same w) fun identity hstored hlocal => ?_
  cases hidentity : identity.isLocal with
  | false =>
    exact Attempt.ends_ask_then hsub fun _ => ⟨.nodeRemoved node, _, rfl, rfl, hstored,
      fun a ha => by cases ha; rfl, alters_deletion node⟩
  | true =>
    refine Attempt.ends_bind.2 (Attempt.ends_pure.2 ?_)
    exact Attempt.ends_here (alters_deletion node) (hlocal.1 hidentity)

theorem clearCanvas_ends (hsub : w.remote.subscribed = true) :
    (clearCanvas : Attempt R MemoryStore Unit).Ends Link.handle w
      fun _ w' => w.EditedTo e w' := by
  exact Attempt.ends_ask_then hsub fun _ => ⟨.canvasCleared, _, rfl, rfl, trivial, by simp,
    alters_clearing⟩

/-- A connection that ends at a node which exists only here. -/
theorem connectHere_ends {c : Connection} (hid : IsLocalId c.id) (hloop : c.isSelfLoop = false)
    (hend : ∃ a, c.touches a = true ∧ IsLocalId a ∧ w.canvas.graph.nodes.contains a = true) :
    (connectHere c : Attempt R MemoryStore ConnectionId).Ends Link.handle w
      fun _ w' => w.EditedTo e w' := by
  obtain ⟨body, hbody, hbecomes⟩ := exists_connectHere (R := R) hloop
  rw [hbody]
  exact Attempt.ends_checked.2 (.of_becomes (hbecomes _ _) (.connectedHere c hid hloop hend))

theorem connect_ends (source : NodeId) (sourcePort : String) (target : NodeId) (targetPort : String)
    (hsub : w.remote.subscribed = true) (ht : w.canvas.graph.Tidy) :
    (connect source sourcePort target targetPort : Attempt R MemoryStore ConnectionId).Ends
      Link.handle w fun _ w' => w.EditedTo e w' := by
  have hid := isLocalId_freshLocalConnection w.ids
  rw [connect, Attempt.ends_bind, Attempt.ends_fresh]
  dsimp only
  generalize (freshLocalConnection.run w.ids).1 = id at hid ⊢
  by_cases hloop : ({ id, source, sourcePort, target, targetPort } : Connection).isSelfLoop = true
  · rw [if_pos hloop, Attempt.ends_bind, Attempt.ends_throw]
    exact ⟨.refused (.keep rfl rfl rfl), rfl, rfl⟩
  · rw [if_neg hloop]
    rw [Bool.not_eq_true] at hloop
    refine ends_nodeIdentity_bind ht (fun _ => ⟨.refused (.keep rfl rfl rfl), rfl, rfl⟩)
      fun sourceIdentity hsource hlocalSource => ?_
    refine ends_nodeIdentity_bind ht (fun _ => ⟨.refused (.keep rfl rfl rfl), rfl, rfl⟩)
      fun targetIdentity htarget hlocalTarget => ?_
    split
    · rename_i hlocal
      -- One end exists only here, so the connection has to as well.
      have hend : ∃ a,
          ({ id, source, sourcePort, target, targetPort } : Connection).touches a = true ∧
          IsLocalId a ∧ w.canvas.graph.nodes.contains a = true := by
        obtain hlocal | hlocal := Bool.or_eq_true _ _ ▸ hlocal
        · exact ⟨source, by simp [Connection.touches], hlocalSource.1 hlocal, hsource⟩
        · exact ⟨target, by simp [Connection.touches], hlocalTarget.1 hlocal, htarget⟩
      have hconnect := connectHere_ends (e := e)
        (w := { w with ids := (freshLocalConnection.run w.ids).2 }) hid hloop hend
      exact hconnect.mono fun _ w' h => ⟨h.edited, h.owed, h.restoring⟩
    -- Nothing is done here: the connection comes with its announcement.
    · refine Attempt.ends_ask_link hsub (fun _ _ _ heffect => ⟨.refused heffect, rfl, rfl⟩) ?_
      refine fun done hperform heffect hsafe => ⟨.announced _ _ hsafe ?_ heffect, rfl, rfl⟩
      intro node hnode
      obtain ⟨spec, hspec, -⟩ := Backend.nodeAdded_of_perform hperform hnode
      cases hspec

theorem disconnect_ends (connection : ConnectionId) (hsub : w.remote.subscribed = true)
    (ht : w.canvas.graph.Tidy) :
    (disconnect connection : Attempt R MemoryStore Unit).Ends Link.handle w
      fun _ w' => w.EditedTo e w' := by
  rw [disconnect, Attempt.ends_bind]
  cases hfound : w.canvas.graph.connection? connection with
  | none =>
    refine (Attempt.ends_look (.error (.unknownConnection connection)) ?_).2 (.same w)
    simp [bind, Edit.read, hfound, pure]
  | some c =>
    refine (Attempt.ends_look (.ok (w.canvas.graph.isLocalConnection connection)) ?_).2 ?_
    · simp [bind, Edit.read, hfound, pure]
    · cases hlocal : w.canvas.graph.isLocalConnection connection with
      | false =>
        exact Attempt.ends_ask_then hsub fun _ => ⟨.connectionRemoved connection, _, rfl, rfl,
          trivial, by simp, alters_disconnection connection⟩
      | true =>
        refine Attempt.ends_bind.2 (Attempt.ends_pure.2 ?_)
        exact Attempt.ends_here (alters_disconnection connection)
          ((ht.connectionMarks connection).1 hlocal).1

end Client

/-- A request whose answer is handed on. -/
theorem Attempt.ends_ask_edited {r : Request R}
    {e : GraphEdit R} (hsub : w.remote.subscribed = true)
    (hcreate : ∀ spec, r = .createNode spec → e = .createNode spec) :
    (do let _ ← ask complaint r : Attempt R MemoryStore Unit).Ends Link.handle w
      fun _ w' => w.EditedTo e w' := by
  rw [ends_bind]
  refine ends_ask_link hsub (fun _ _ _ heffect => ⟨.refused heffect, rfl, rfl⟩) ?_
  refine fun done hperform heffect hsafe =>
    ends_pure.2 ⟨.announced _ _ hsafe (fun node hnode => ?_) heffect, rfl, rfl⟩
  obtain ⟨spec, hspec, hparameters⟩ := Backend.nodeAdded_of_perform hperform hnode
  exact ⟨spec, hcreate spec hspec, hparameters⟩

/-- **Every edit ends**, and it has done one of four things to the graph and the backend. -/
theorem GraphEdit.ends (e : GraphEdit R) (hsub : w.remote.subscribed = true)
    (ht : w.canvas.graph.Tidy) :
    (e.attempt : Attempt R MemoryStore Unit).Ends Link.handle w
      fun _ w' => w.EditedTo e w' := by
  cases e with
  | createNode spec => exact Attempt.ends_ask_edited hsub fun _ h => by cases h; rfl
  | moveNode node position => exact Client.moveNode_ends node position hsub ht
  | deleteNode node => exact Client.deleteNode_ends node hsub ht
  | updateParameters node changes => exact Client.updateParameters_ends node changes hsub ht
  | updateMetadata node changes => exact Client.updateMetadata_ends node changes hsub ht
  | updatePorts node ports => exact Client.updatePorts_ends node ports hsub ht
  | connect source sourcePort target targetPort =>
    have hconnect : (Client.connect source sourcePort target targetPort :
        Attempt R MemoryStore ConnectionId).Ends Link.handle w
          fun _ w' => w.EditedTo (.connect source sourcePort target targetPort) w' :=
      Client.connect_ends source sourcePort target targetPort hsub ht
    refine Attempt.ends_bind.2 (hconnect.mono fun result w' h => ?_)
    cases result with
    | ok id => exact Attempt.ends_pure.2 h
    | error cause => exact h
  | disconnect connection => exact Client.disconnect_ends connection hsub ht
  | clearCanvas => exact Client.clearCanvas_ends hsub
  | refactorPattern spec => exact Attempt.ends_ask_edited hsub fun _ h => by cases h

/-! ## Worlds -/

namespace World

/-- The client of a world follows its backend; no restore is under way or has left anything owed. -/
structure Follows (lenient : Prop) (w : LocalWorld R) : Prop where
  following : Following lenient w.canvas.graph (w.remote.pushes.filterMap (·.change?))
    w.remote.backend
  subscribed : w.remote.subscribed = true
  safe : ∀ p ∈ w.remote.pushes, p.Safe
  owed : w.canvas.saving.owedClears = 0
  restoring : w.canvas.saving.restoring = false

variable {lenient : Prop} {w w' : LocalWorld R}

theorem EditedTo.subscribed {e : GraphEdit R} (h : w.EditedTo e w') :
    w'.remote.subscribed = w.remote.subscribed := by
  obtain ⟨hedited, -, -⟩ := h
  generalize w'.canvas.graph = g', w'.remote = link' at hedited ⊢
  cases hedited <;> rfl

theorem EditedTo.safe {e : GraphEdit R} (h : w.EditedTo e w')
    (hsafe : ∀ p ∈ w.remote.pushes, p.Safe) : ∀ p ∈ w'.remote.pushes, p.Safe := by
  obtain ⟨hedited, -, -⟩ := h
  generalize w'.canvas.graph = g', w'.remote = link' at hedited ⊢
  cases hedited with
  | announced b' new hnew hput heffect =>
    exact fun p hp => (List.mem_append.1 hp).elim (hsafe p) (hnew p)
  | committed b' q ch hchange hearly hdeleted heffect =>
    intro p hp
    obtain hp | hp := List.mem_append.1 hp
    · exact hsafe p hp
    · rw [List.mem_singleton.1 hp]
      exact PushEvent.safe_of_change? hchange
  | here ch hlocal => exact hsafe
  | connectedHere c hid hloop hend => exact hsafe

/-- **An edit ends, and the client goes on following.** -/
theorem Follows.edit (h : w.Follows lenient) (e : GraphEdit R)
    (hleft : lenient ∨ ∀ a, e = .deleteNode a → ∀ c, .connectionAdded c ∈ w.remote.pushes →
      c.touches a = false) :
    ∃ result w', w.run (e.attempt : Attempt R MemoryStore Unit).run = .ok (result, w') ∧
      w.EditedTo e w' ∧ w'.Follows lenient := by
  obtain ⟨result, w', hrun, hedited⟩ := e.ends h.subscribed h.following.tidy
  refine ⟨result, w', hrun, hedited, ?_⟩
  exact ⟨h.following.edited hedited.edited hleft, hedited.subscribed.trans h.subscribed,
    hedited.safe h.safe, hedited.owed.trans h.owed, hedited.restoring.trans h.restoring⟩

/-- **Pumping ends, and the client goes on following.** -/
theorem Follows.pump (h : w.Follows lenient) (most : Option Nat) :
    ∃ n w', w.pump most = .ok (n, w') ∧
      n = (most.getD w.remote.pushes.length).min w.remote.pushes.length ∧
      w.Becomes w' (w.canvas.graph.settle ((w.remote.pushes.take n).filterMap (·.change?))) 0
        { w.remote with pushes := w.remote.pushes.drop n } ∧
      w'.Follows lenient := by
  obtain ⟨n, w', hrun, hn, hbecomes⟩ := pump_becomes most h.safe h.owed h.restoring
  refine ⟨n, w', hrun, hn, hbecomes, ?_⟩
  obtain ⟨⟨hgraph, howed, hrestoring⟩, hremote⟩ := hbecomes
  have hfollowing : Following lenient w.canvas.graph
      ((w.remote.pushes.take n).filterMap (·.change?) ++
        (w.remote.pushes.drop n).filterMap (·.change?)) w.remote.backend := by
    rw [← List.filterMap_append, List.take_append_drop]
    exact h.following
  refine ⟨?_, ?_, ?_, howed, hrestoring.trans h.restoring⟩
  · rw [hgraph, hremote]
    exact hfollowing.settle
  · rw [hremote]
    exact h.subscribed
  · rw [hremote]
    exact fun p hp => h.safe p (List.mem_of_mem_drop hp)

end World

end NodeCanvas
