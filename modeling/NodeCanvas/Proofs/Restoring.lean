import NodeCanvas.Proofs.Decoding
import NodeCanvas.Proofs.Following
import NodeCanvas.Proofs.Rebuild
/-!
# Restoring over a link

The backend announces what a restore has it do while the restore goes on: the clearing first, which
is owed, and then each node and connection that it creates. These are on the canvas by then, but not
as the backend has them, which fills in ports and drops what it does not know. What they become is
settled by the announcements. So the invariant of a restore, `Rebuilding`, is about the graph with
the announcements applied: this mirrors the backend, whatever the backend refuses. The announcements
only add, so what is placed later does not disturb it. A replay is a fold over requests, and an
invariant of it is one that each of their outcomes keeps (`ReplayKeeps.restore`).
-/

namespace NodeCanvas

variable {R : Type} [Scalar R]

/-! ## Answers to a restore -/

namespace Link

/-- A link refuses to create a node, or it creates one and announces it. -/
theorem createNode_cases (link : Link R) (hsub : link.subscribed = true) (spec : CreateNode R) :
    (∃ cause b', link.answer (.createNode spec) = (.error cause, { link with backend := b' }) ∧
        link.backend.Effect b' []) ∨
      ∃ id b', link.answer (.createNode spec) = (.ok id, { link with
          backend := b', pushes := link.pushes ++ [.nodeAdded (Backend.newNode id spec)] }) ∧
        id = "node" ++ "-" ++ Nat.repr (link.backend.allocated + 1) ∧
        b'.nodes = link.backend.nodes.insert id (Backend.newNode id spec) ∧
        b'.connections = link.backend.connections ∧
        b'.allocated = link.backend.allocated + 1 := by
  obtain hrefused | ⟨done, hperform, hanswer, -, -⟩ := link.answer_cases (.createNode spec)
  · exact .inl hrefused
  · cases hperform
    rw [if_pos hsub] at hanswer
    exact .inr ⟨_, _, hanswer, rfl, rfl, rfl, rfl⟩

/-- A link refuses to create a connection, or it creates one between two nodes and announces it. -/
theorem createConnection_cases (link : Link R) (hsub : link.subscribed = true)
    (spec : CreateConnection) :
    (∃ cause b', link.answer (.createConnection spec) = (.error cause, { link with backend := b' }) ∧
        link.backend.Effect b' []) ∨
      ∃ id b', link.answer (.createConnection spec) = (.ok id, { link with
          backend := b', pushes := link.pushes ++ [.connectionAdded (spec.connection id)] }) ∧
        id = "conn" ++ "-" ++ Nat.repr (link.backend.allocated + 1) ∧
        link.backend.nodes.contains spec.source = true ∧
        link.backend.nodes.contains spec.target = true ∧ spec.source ≠ spec.target ∧
        b'.nodes = link.backend.nodes ∧
        b'.connections = link.backend.connections.insert id (spec.connection id) ∧
        b'.allocated = link.backend.allocated + 1 := by
  obtain hrefused | ⟨done, hperform, hanswer, -, -⟩ := link.answer_cases (.createConnection spec)
  · exact .inl hrefused
  · obtain ⟨hsource, htarget, hloop, rfl⟩ := Backend.createConnection_eq_ok hperform
    rw [if_pos hsub] at hanswer
    exact .inr ⟨_, _, hanswer, rfl, hsource, htarget, hloop, rfl, rfl, rfl⟩

theorem clearCanvas_cases (link : Link R) (hsub : link.subscribed = true) :
    (∃ cause b', link.answer .clearCanvas = (.error cause, { link with backend := b' }) ∧
        link.backend.Effect b' []) ∨
      ∃ b', link.answer .clearCanvas = (.ok (), { link with
          backend := b', pushes := link.pushes ++ [.canvasCleared] }) ∧
        b'.nodes = ∅ ∧ b'.connections = ∅ := by
  obtain hrefused | ⟨done, hperform, hanswer, -, -⟩ := link.answer_cases .clearCanvas
  · exact .inl hrefused
  · cases hperform
    rw [if_pos hsub] at hanswer
    exact .inr ⟨_, hanswer, rfl, rfl⟩

end Link

/-! ## What a replay keeps -/

/-- What each step in the replay of a snapshot keeps: a refusal, and placing a node or a connection,
under an id from here or under one that the backend has given out and announced. -/
structure ReplayKeeps (s : Snapshot R) (inv : Graph R → Link R → Prop) : Prop where
  subscribed {g : Graph R} {link : Link R} (h : inv g link) : link.subscribed = true
  refused {g : Graph R} {link : Link R} {b' : Backend R} (h : inv g link)
    (heffect : link.backend.Effect b' []) : inv g { link with backend := b' }
  placeHere {g : Graph R} {link : Link R} {saved : Node R} {id : NodeId} (h : inv g link)
    (hsaved : saved ∈ s.nodes) (hid : IsLocalId id) : inv (g.place saved (.localOnly id)) link
  placeRemote {g : Graph R} {link : Link R} {b' : Backend R} {saved : Node R} {id : NodeId}
    (h : inv g link) (hsaved : saved ∈ s.nodes)
    (hid : id = "node" ++ "-" ++ Nat.repr (link.backend.allocated + 1))
    (hnodes : b'.nodes = link.backend.nodes.insert id (Backend.newNode id (.ofNode saved)))
    (hconnections : b'.connections = link.backend.connections)
    (hallocated : b'.allocated = link.backend.allocated + 1) :
    inv (g.place saved (.remote id)) { link with
      backend := b', pushes := link.pushes ++ [.nodeAdded (Backend.newNode id (.ofNode saved))] }
  linkHere {g : Graph R} {link : Link R} {c : Connection} (h : inv g link) (hid : IsLocalId c.id)
    (hloop : c.isSelfLoop = false) (hends : ∀ a, c.touches a = true → g.nodes.contains a = true) :
    inv (g.placeConnection c true) link
  linkRemote {g : Graph R} {link : Link R} {b' : Backend R} {c : Connection} {id : ConnectionId}
    (h : inv g link) (hloop : c.isSelfLoop = false)
    (hends : ∀ a, c.touches a = true → g.nodes.contains a = true)
    (hid : id = "conn" ++ "-" ++ Nat.repr (link.backend.allocated + 1))
    (hsource : link.backend.nodes.contains c.source = true)
    (htarget : link.backend.nodes.contains c.target = true) (hne : c.source ≠ c.target)
    (hnodes : b'.nodes = link.backend.nodes)
    (hconnections : b'.connections = link.backend.connections.insert id
      ((CreateConnection.ofConnection c).connection id))
    (hallocated : b'.allocated = link.backend.allocated + 1) :
    inv (g.placeConnection { c with id } false) { link with
      backend := b'
      pushes := link.pushes ++
        [.connectionAdded ((CreateConnection.ofConnection c).connection id)] }

namespace ReplayKeeps

variable {s : Snapshot R} {inv : Graph R → Link R → Prop} {g : Graph R} {link : Link R}

/-- **Asking for a node keeps it**, whatever comes of it. -/
theorem askNode (keeps : ReplayKeeps s inv) (h : inv g link) {node : Node R}
    (hnode : node ∈ s.nodes) (ids : IdSource) :
    inv (g.place node (Link.answering.askNode node (link, ids)).1)
      (Link.answering.askNode node (link, ids)).2.1 := by
  rw [Answering.askNode]
  obtain ⟨cause, b', hanswer, heffect⟩ | ⟨id, b', hanswer, hid, hnodes, hconnections, hallocated⟩ :=
    link.createNode_cases (keeps.subscribed h) (.ofNode node)
  · simp only [Link.answering, hanswer]
    exact keeps.placeHere (keeps.refused h heffect) hnode (isLocalId_freshLocalNode ids)
  · simp only [Link.answering, hanswer]
    exact keeps.placeRemote h hnode hid hnodes hconnections hallocated

/-- A connection that the backend does not have is placed under an id from here. -/
theorem keepHere (keeps : ReplayKeeps s inv) (h : inv g link) {c : Connection}
    (hloop : c.isSelfLoop = false) (hends : ∀ a, c.touches a = true → g.nodes.contains a = true)
    (ids : IdSource) :
    inv (g.placeConnection (Answering.keepHere c (link, ids)).1.1
      (Answering.keepHere c (link, ids)).1.2) link :=
  keeps.linkHere h (isLocalId_freshLocalConnection ids) hloop hends

/-- **Asking for a connection keeps it**, whatever comes of it. -/
theorem askConnection (keeps : ReplayKeeps s inv) (h : inv g link) (isLocal : NodeId → Bool)
    {c : Connection} (hloop : c.isSelfLoop = false)
    (hends : ∀ a, c.touches a = true → g.nodes.contains a = true) (ids : IdSource) :
    inv (g.placeConnection (Link.answering.askConnection isLocal c (link, ids)).1.1
        (Link.answering.askConnection isLocal c (link, ids)).1.2)
      (Link.answering.askConnection isLocal c (link, ids)).2.1 := by
  rw [Answering.askConnection]
  split
  · exact keeps.keepHere h hloop hends ids
  · obtain ⟨cause, b', hanswer, heffect⟩ | ⟨id, b', hanswer, hid, hsource, htarget, hne, hnodes,
      hconnections, hallocated⟩ :=
        link.createConnection_cases (keeps.subscribed h) (.ofConnection c)
    · simp only [Link.answering, hanswer]
      exact keeps.keepHere (keeps.refused h heffect) hloop hends ids
    · simp only [Link.answering, hanswer]
      exact keeps.linkRemote h hloop hends hid hsource htarget hne hnodes hconnections hallocated

/-- Asking for nodes keeps it. -/
theorem askNodes (keeps : ReplayKeeps s inv) (h : inv g link) {nodes : List (Node R)}
    (hnodes : ∀ node ∈ nodes, node ∈ s.nodes) (ids : IdSource) :
    inv (g.placeNodes (nodes.zip (Link.answering.askNodes nodes (link, ids)).1))
      (Link.answering.askNodes nodes (link, ids)).2.1 := by
  induction nodes generalizing g link ids with
  | nil => exact h
  | cons node nodes ih =>
    exact ih (keeps.askNode h (hnodes node List.mem_cons_self) ids)
      (fun n hn => hnodes n (List.mem_cons_of_mem node hn)) _

/-- Asking for connections between nodes of the graph keeps it. -/
theorem askConnections (keeps : ReplayKeeps s inv) (h : inv g link) (isLocal : NodeId → Bool)
    {cs : List Connection} (hloops : ∀ c ∈ cs, c.isSelfLoop = false)
    (hends : ∀ c ∈ cs, ∀ a, c.touches a = true → g.nodes.contains a = true) (ids : IdSource) :
    inv (g.placeConnections (Link.answering.askConnections isLocal cs (link, ids)).1)
      (Link.answering.askConnections isLocal cs (link, ids)).2.1 := by
  induction cs generalizing g link ids with
  | nil => exact h
  | cons c cs ih =>
    refine ih (keeps.askConnection h isLocal (hloops c List.mem_cons_self)
      (hends c List.mem_cons_self) ids) (fun d hd => hloops d (List.mem_cons_of_mem c hd))
      (fun d hd a ha => ?_) _
    rw [Graph.nodes_placeConnection]
    exact hends d (List.mem_cons_of_mem c hd) a ha

/-- **What each step keeps, a replay keeps.** -/
theorem restore (keeps : ReplayKeeps s inv) (h : inv g link) (ids : IdSource) :
    inv (Link.answering.restore s g (link, ids)).graph
      (Link.answering.restore s g (link, ids)).remote := by
  refine keeps.askConnections (keeps.askNodes h (fun _ hnode => hnode) ids) _
    (fun c hc => ?_) (fun c hc a ha => ?_) _
  · obtain ⟨saved, -, hrenamed⟩ := List.mem_filterMap.1 hc
    exact Client.isSelfLoop_of_renamed hrenamed
  · obtain ⟨saved, -, hrenamed⟩ := List.mem_filterMap.1 hc
    obtain ⟨k, hk⟩ := Client.names_of_renamed hrenamed ha
    rw [get?_newNames] at hk
    obtain ⟨p, hp, rfl⟩ := Option.map_eq_some_iff.1 hk
    exact (Graph.contains_placeNodes _ _ _).2
      (.inl ⟨p, List.mem_reverse.1 (List.mem_of_find?_eq_some hp), rfl⟩)

end ReplayKeeps

/-! ## The invariant -/

/-- A push that adds something. -/
def PushEvent.Adds : PushEvent R → Prop
  | .nodeAdded _ | .connectionAdded _ => True
  | _ => False

omit [Scalar R] in
theorem PushEvent.Adds.safe {p : PushEvent R} (h : p.Adds) : p.Safe := by
  cases p with
  | execution event => exact h.elim
  | _ => trivial

omit [Scalar R] in
theorem PushEvent.Adds.not_wipe {p : PushEvent R} (h : p.Adds) : p.change? ≠ some .wipe := by
  cases p with
  | nodeAdded | connectionAdded => rintro ⟨⟩
  | _ => exact h.elim

/-- While a restore goes on: the announcement of the clearing is queued, and after it those of what
was created, with which the graph mirrors the backend. -/
structure Rebuilding (g : Graph R) (link : Link R) (added : List (PushEvent R)) : Prop where
  tidy : g.Tidy
  sound : link.backend.Sound
  readable : link.backend.Readable
  subscribed : link.subscribed = true
  pushes : link.pushes = .canvasCleared :: added
  adds : ∀ p ∈ added, p.Adds
  remote : ∀ ch ∈ added.filterMap (·.change?), ch.Remote
  mirrors : (g.settle (added.filterMap (·.change?))).Mirrors False link.backend

namespace Rebuilding

variable {g : Graph R} {link : Link R} {added : List (PushEvent R)} {b' : Backend R}

/-- A restore starts with two empty sides. -/
theorem start {g : Graph R} {link : Link R} (ht : g.Tidy) (hsub : link.subscribed = true)
    (hpushes : link.pushes = [.canvasCleared]) (hnodes : link.backend.nodes = ∅)
    (hconnections : link.backend.connections = ∅) : Rebuilding g.clear.1 link [] where
  tidy := ht.clear
  sound := Backend.sound_of_isEmpty hnodes hconnections
  readable id n hn := by
    rw [hnodes] at hn
    cases hn
  subscribed := hsub
  pushes := hpushes
  adds _ hp := by cases hp
  remote _ hch := by cases hch
  mirrors := .wipe False g hnodes hconnections

/-- Nothing that is queued drops a node. -/
theorem not_drop (h : Rebuilding g link added) (a : NodeId) :
    .drop a ∉ added.filterMap (·.change?) := by
  intro hdrop
  obtain ⟨p, hp, hchange⟩ := List.mem_filterMap.1 hdrop
  have hadds := h.adds p hp
  cases p with
  | nodeAdded | connectionAdded => cases hchange
  | _ => exact hadds

/-- A request that is refused changes nothing. -/
theorem refused (h : Rebuilding g link added) (heffect : link.backend.Effect b' []) :
    Rebuilding g { link with backend := b' } added where
  tidy := h.tidy
  sound := h.sound.of_effect heffect
  readable := h.readable.of_effect heffect (by simp)
  subscribed := h.subscribed
  pushes := h.pushes
  adds := h.adds
  remote := h.remote
  mirrors := h.mirrors.announced h.sound (h.tidy.keyed.settle _) heffect

/-- Something is created and announced, and placed in its own way. -/
theorem announced (h : Rebuilding g link added) {g' : Graph R} {p : PushEvent R}
    {ch : GraphChange R} (hadds : p.Adds) (hchange : p.change? = some ch)
    (heffect : link.backend.Effect b' [ch])
    (hbag : ∀ node, ch = .put node → Bag.Decodable node.parameters) (htidy : g'.Tidy)
    (hmirrors : ((g'.settle (added.filterMap (·.change?))).alter ch).Mirrors False b') :
    Rebuilding g' { link with backend := b', pushes := link.pushes ++ [p] } (added ++ [p]) := by
  have hchanges : (added ++ [p]).filterMap (·.change?) = added.filterMap (·.change?) ++ [ch] := by
    rw [List.filterMap_append]
    simp [hchange]
  refine
    { tidy := htidy
      sound := h.sound.of_effect heffect
      readable := h.readable.of_effect heffect fun node hnode => hbag node ?_
      subscribed := h.subscribed
      pushes := by rw [h.pushes]; rfl
      adds := fun q hq => ?_
      remote := ?_
      mirrors := ?_ }
  · exact (List.mem_singleton.1 hnode).symm
  · obtain hq | hq := List.mem_append.1 hq
    · exact h.adds q hq
    · rwa [List.mem_singleton.1 hq]
  · rw [hchanges]
    intro d hd
    obtain hd | hd := List.mem_append.1 hd
    · exact h.remote d hd
    · exact heffect.remote h.sound d hd
  · rw [hchanges, Graph.settle_append]
    exact hmirrors

/-- A node that is created is placed as it was saved, and announced as the backend has it. -/
theorem placeRemote (h : Rebuilding g link added) (saved node : Node R)
    (hbag : Bag.Decodable node.parameters)
    (hid : node.id = "node" ++ "-" ++ Nat.repr (link.backend.allocated + 1))
    (hnodes : b'.nodes = link.backend.nodes.insert node.id node)
    (hconnections : b'.connections = link.backend.connections)
    (hallocated : b'.allocated = link.backend.allocated + 1) :
    Rebuilding (g.place saved (.remote node.id))
      { link with backend := b', pushes := link.pushes ++ [.nodeAdded node] }
      (added ++ [.nodeAdded node]) := by
  have heffect : link.backend.Effect b' [.put node] :=
    .put node hid hnodes hconnections hallocated
  have hremote : ¬ IsLocalId node.id := heffect.remote h.sound (.put node) List.mem_cons_self
  have htidy : (g.alter (.put { saved with id := node.id })).Tidy := h.tidy.alter hremote
  -- What is queued drops nothing, so it treats all other nodes and the connections as before.
  have hover := (Graph.agreeOn_put h.tidy.keyed { saved with id := node.id }).settle htidy.keyed
    h.tidy.keyed (fun a ha => (h.not_drop a ha).elim)
  refine h.announced trivial rfl heffect ?_ htidy ?_
  · rintro _ ⟨⟩
    exact hbag
  · exact h.mirrors.put heffect hnodes hconnections hover (htidy.keyed.settle _)

/-- Something is placed that exists only here. -/
theorem placed (h : Rebuilding g link added) {g' : Graph R} (htidy : g'.Tidy)
    (hover : g'.AgreeRemotely g) : Rebuilding g' link added where
  tidy := htidy
  sound := h.sound
  readable := h.readable
  subscribed := h.subscribed
  pushes := h.pushes
  adds := h.adds
  remote := h.remote
  mirrors := h.mirrors.of_local h.sound (htidy.settle h.remote)
    (hover.settle htidy.keyed h.tidy.keyed _)

/-- A node that is refused is placed under an id from here. -/
theorem placeHere (h : Rebuilding g link added) (saved : Node R) {id : NodeId}
    (hid : IsLocalId id) : Rebuilding (g.place saved (.localOnly id)) link added := by
  have hput := Graph.agreeOn_put h.tidy.keyed { saved with id }
  refine h.placed (Graph.Tidy.putHere h.tidy hid) ?_
  refine .mk (fun k hk => hput.nodes k ?_) fun k c _ => hput.connections k c trivial
  rintro rfl
  exact hk hid

/-- A connection that is created is placed, and announced as the backend has it. -/
theorem linkRemote (h : Rebuilding g link added) (saved c : Connection)
    (hends : saved.source = c.source ∧ saved.target = c.target)
    (hid : c.id = "conn" ++ "-" ++ Nat.repr (link.backend.allocated + 1))
    (hsource : link.backend.nodes.contains c.source = true)
    (htarget : link.backend.nodes.contains c.target = true) (hloop : c.source ≠ c.target)
    (hnodes : b'.nodes = link.backend.nodes)
    (hconnections : b'.connections = link.backend.connections.insert c.id c)
    (hallocated : b'.allocated = link.backend.allocated + 1) :
    Rebuilding (g.placeConnection { saved with id := c.id } false)
      { link with backend := b', pushes := link.pushes ++ [.connectionAdded c] }
      (added ++ [.connectionAdded c]) := by
  have heffect : link.backend.Effect b' [.link c] :=
    .link c hid hsource htarget hloop hnodes hconnections hallocated
  have hremote := heffect.remote h.sound (.link c) List.mem_cons_self
  have htidy : (g.alter (.link { saved with id := c.id })).Tidy := by
    refine h.tidy.alter ⟨hremote.1, ?_, ?_⟩
    · exact hends.1 ▸ hremote.2.1
    · exact hends.2 ▸ hremote.2.2
  have hover := (Graph.agreeOn_link h.tidy.keyed { saved with id := c.id }).settle htidy.keyed
    h.tidy.keyed (fun a ha => (h.not_drop a ha).elim)
  refine h.announced trivial rfl heffect ?_ htidy ?_
  · rintro _ ⟨⟩
  · exact h.mirrors.link heffect hloop hnodes hconnections hover

/-- A connection that the backend does not have is placed under an id from here. -/
theorem linkHere (h : Rebuilding g link added) {c : Connection} (hid : IsLocalId c.id)
    (hloop : c.isSelfLoop = false) : Rebuilding (g.placeConnection c true) link added := by
  have htidy : (g.placeConnection c true).Tidy := by
    rw [Graph.placeConnection_eq]
    exact h.tidy.linkHere hid hloop
  refine h.placed htidy (.mk (fun k _ => by rw [Graph.nodes_placeConnection]) fun k d hk => ?_)
  rw [Graph.connections_placeConnection g hloop, if_neg]
  rintro rfl
  exact hk.1 hid

/-- Each step of a replay keeps the invariant. -/
theorem replayKeeps {s : Snapshot R} (hbags : s.Readable) :
    ReplayKeeps s fun g link => ∃ added, Rebuilding g link added where
  subscribed := fun ⟨_, h⟩ => h.subscribed
  refused := fun ⟨added, h⟩ heffect => ⟨added, h.refused heffect⟩
  placeHere := fun ⟨added, h⟩ _ hid => ⟨added, h.placeHere _ hid⟩
  placeRemote {_ _ _ saved id} := fun ⟨_, h⟩ hsaved hid hnodes hconnections hallocated =>
    ⟨_, h.placeRemote saved (Backend.newNode id (.ofNode saved)) (hbags saved hsaved) hid hnodes
      hconnections hallocated⟩
  linkHere := fun ⟨added, h⟩ hid hloop _ => ⟨added, h.linkHere hid hloop⟩
  linkRemote {_ _ _ c id} := fun ⟨_, h⟩ _ _ hid hsource htarget hne hnodes hconnections
      hallocated =>
    ⟨_, h.linkRemote c ((CreateConnection.ofConnection c).connection id) ⟨rfl, rfl⟩ hid hsource
      htarget hne hnodes hconnections hallocated⟩

/-- **A replay keeps the invariant.** -/
theorem restore (h : Rebuilding g link added) {s : Snapshot R} (hbags : s.Readable)
    (ids : IdSource) :
    ∃ added', Rebuilding (Link.answering.restore s g (link, ids)).graph
      (Link.answering.restore s g (link, ids)).remote added' :=
  (replayKeeps hbags).restore ⟨added, h⟩ ids

end Rebuilding

end NodeCanvas
