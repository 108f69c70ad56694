import NodeCanvas.Proofs.Identity
/-!
# What the backend does to its canvas

The graph that the backend keeps changes in as many ways as a graph on the client does, and every
change is announced by what makes it there: `Backend.perform_effect` says so once for all requests,
and proofs go by the cases of `Backend.Effect` instead of the requests. `Backend.Intact` is the
invariant of the backend's own graph, whatever was put into it; `Backend.Sound` says besides that the
backend has given out all ids in it.
-/

namespace NodeCanvas

variable {R : Type}

/-- The connection that a request describes, under an id. -/
def CreateConnection.connection (spec : CreateConnection) (id : ConnectionId) : Connection :=
  { id, source := spec.source, sourcePort := spec.sourcePort, target := spec.target,
    targetPort := spec.targetPort }

namespace Backend

variable {b b' : Backend R} {changes : List (GraphChange R)}

/-- The graph of a backend is in order: everything is stored under its own id, which the backend has
given out, and a connection leads from one stored node to another. -/
structure Sound (b : Backend R) : Prop where
  nodeIds : ∀ id n, b.nodes.get? id = some n → n.id = id
  nodesIssued : ∀ id n, b.nodes.get? id = some n → Issued "node" b.allocated id
  connectionIds : ∀ id c, b.connections.get? id = some c → c.id = id
  connectionsIssued : ∀ id c, b.connections.get? id = some c → Issued "conn" b.allocated id
  ends : ∀ id c, b.connections.get? id = some c →
    b.nodes.contains c.source = true ∧ b.nodes.contains c.target = true ∧ c.source ≠ c.target

/-- The graph of a backend is whole: everything is stored under its own id, and a connection leads
from one stored node to another. -/
structure Intact (b : Backend R) : Prop where
  nodeIds : ∀ id n, b.nodes.get? id = some n → n.id = id
  connectionIds : ∀ id c, b.connections.get? id = some c → c.id = id
  ends : ∀ id c, b.connections.get? id = some c →
    b.nodes.contains c.source = true ∧ b.nodes.contains c.target = true ∧ c.source ≠ c.target

theorem Sound.intact (h : b.Sound) : b.Intact :=
  ⟨h.nodeIds, h.connectionIds, h.ends⟩

theorem sound_of_isEmpty (hnodes : b.nodes = ∅) (hconnections : b.connections = ∅) : b.Sound := by
  constructor <;> intro id x hx <;> simp [hnodes, hconnections] at hx

theorem Sound.not_isLocalId (h : b.Sound) {id : NodeId}
    (hid : b.nodes.contains id = true) : ¬ IsLocalId id := by
  obtain ⟨n, hn⟩ := Table.contains_iff.1 hid
  exact (h.nodesIssued id n hn).not_isLocalId_of_node

/-- The nodes whose code a replacement changes, with their new code. -/
def recoded (b : Backend R) (spec : PatternRefactor) : List (NodeId × String) :=
  b.nodes.values.filterMap fun node => (refactored? spec node).map fun code => (node.id, code)

/-- The announcement of new code. -/
def recoding (entry : NodeId × String) : GraphChange R :=
  .merge entry.1 (Table.empty.insert "source_code" (.string entry.2))

/-- The node with its code replaced. -/
def recode (spec : PatternRefactor) (node : Node R) : Node R :=
  match refactored? spec node with
  | some code => withCode node code
  | none => node

/-- How the graph of a backend changes, and which changes are announced. -/
inductive Effect (b b' : Backend R) : List (GraphChange R) → Prop where
  | keep (hnodes : b'.nodes = b.nodes) (hconnections : b'.connections = b.connections)
      (hallocated : b'.allocated = b.allocated) : Effect b b' []
  | put (node : Node R) (hid : node.id = "node" ++ "-" ++ Nat.repr (b.allocated + 1))
      (hnodes : b'.nodes = b.nodes.insert node.id node)
      (hconnections : b'.connections = b.connections)
      (hallocated : b'.allocated = b.allocated + 1) : Effect b b' [.put node]
  | drop (node : NodeId) (hstored : b.nodes.contains node = true)
      (hnodes : b'.nodes = b.nodes.erase node)
      (hconnections : b'.connections = b.connections.filter fun _ c => !c.touches node)
      (hallocated : b'.allocated = b.allocated) : Effect b b' [.drop node]
  | patch (id : NodeId) (node : Node R) (parts : NodePatch R)
      (hdecodable : ∀ p, parts.parameters = some p → Bag.Decodable p)
      (hstored : b.nodes.get? id = some node)
      (hnodes : b'.nodes = b.nodes.insert id (parts.overwrite node))
      (hconnections : b'.connections = b.connections)
      (hallocated : b'.allocated = b.allocated) : Effect b b' [.patch id parts]
  | recode (spec : PatternRefactor)
      (hnodes : b'.nodes = b.nodes.mapValues fun _ node => Backend.recode spec node)
      (hconnections : b'.connections = b.connections)
      (hallocated : b'.allocated = b.allocated) : Effect b b' ((b.recoded spec).map recoding)
  | link (c : Connection) (hid : c.id = "conn" ++ "-" ++ Nat.repr (b.allocated + 1))
      (hsource : b.nodes.contains c.source = true) (htarget : b.nodes.contains c.target = true)
      (hloop : c.source ≠ c.target) (hnodes : b'.nodes = b.nodes)
      (hconnections : b'.connections = b.connections.insert c.id c)
      (hallocated : b'.allocated = b.allocated + 1) : Effect b b' [.link c]
  | unlink (id : ConnectionId) (hstored : b.connections.contains id = true)
      (hnodes : b'.nodes = b.nodes)
      (hconnections : b'.connections = b.connections.erase id)
      (hallocated : b'.allocated = b.allocated) : Effect b b' [.unlink id]
  | wipe (hnodes : b'.nodes = ∅) (hconnections : b'.connections = ∅)
      (hallocated : b'.allocated = b.allocated) : Effect b b' [.wipe]

theorem Effect.allocated_le (h : b.Effect b' changes) : b.allocated ≤ b'.allocated := by
  cases h <;> omega

theorem id_recode (spec : PatternRefactor) (node : Node R) : (recode spec node).id = node.id := by
  rw [recode]
  split <;> rfl

/-- To keep the graph whole, what is stored must have been there, with the nodes at its ends kept, or
be in order by itself. -/
theorem Intact.transfer (h : b.Intact) (hnodes : ∀ id n, b'.nodes.get? id = some n → n.id = id)
    (hconnections : ∀ id c, b'.connections.get? id = some c →
      b.connections.get? id = some c ∧
          (∀ a, c.touches a = true → b.nodes.contains a = true → b'.nodes.contains a = true) ∨
        c.id = id ∧ b'.nodes.contains c.source = true ∧
          b'.nodes.contains c.target = true ∧ c.source ≠ c.target) : b'.Intact where
  nodeIds := hnodes
  connectionIds id c hc := by
    obtain ⟨hold, -⟩ | hnew := hconnections id c hc
    · exact h.connectionIds id c hold
    · exact hnew.1
  ends id c hc := by
    obtain ⟨hold, hkept⟩ | hnew := hconnections id c hc
    · obtain ⟨hsource, htarget, hloop⟩ := h.ends id c hold
      exact ⟨hkept _ (by simp [Connection.touches]) hsource,
        hkept _ (by simp [Connection.touches]) htarget, hloop⟩
    · exact hnew.2

/-- What is stored afterwards was stored before, with the nodes at its ends kept, or it is new, in
order, and under an id that has been given out. -/
structure Carries (b b' : Backend R) : Prop where
  nodes : ∀ id n, b'.nodes.get? id = some n →
    n.id = id ∧ (b.nodes.contains id = true ∨ Issued "node" b'.allocated id)
  connections : ∀ id c, b'.connections.get? id = some c →
    b.connections.get? id = some c ∧
        (∀ a, c.touches a = true → b.nodes.contains a = true → b'.nodes.contains a = true) ∨
      c.id = id ∧ Issued "conn" b'.allocated id ∧ b'.nodes.contains c.source = true ∧
        b'.nodes.contains c.target = true ∧ c.source ≠ c.target

theorem Intact.of_carries (h : b.Intact) (hcarries : b.Carries b') : b'.Intact :=
  h.transfer (fun id n hn => (hcarries.nodes id n hn).1) fun id c hc =>
    (hcarries.connections id c hc).imp_right fun hnew => ⟨hnew.1, hnew.2.2⟩

/-- **What the backend carries out keeps what it does not take away, and adds only what is in
order.** -/
theorem Intact.carries (h : b.Intact) (heffect : b.Effect b' changes) : b.Carries b' := by
  have hold {id : NodeId} {n : Node R} {m : Nat} (hn : b.nodes.get? id = some n) :
      n.id = id ∧ (b.nodes.contains id = true ∨ Issued "node" m id) :=
    ⟨h.nodeIds id n hn, .inl (Table.contains_iff.2 ⟨n, hn⟩)⟩
  -- Where no connection is touched, it is enough that all nodes stay.
  have hkept (hconnections : b'.connections = b.connections)
      (hnodes : ∀ a, b.nodes.contains a = true → b'.nodes.contains a = true) (id : ConnectionId)
      (c : Connection) (hc : b'.connections.get? id = some c) :
      b.connections.get? id = some c ∧
        ∀ a, c.touches a = true → b.nodes.contains a = true → b'.nodes.contains a = true :=
    ⟨hconnections ▸ hc, fun a _ => hnodes a⟩
  cases heffect with
  | keep hnodes hconnections hallocated =>
    refine ⟨fun id n hn => hold (hnodes ▸ hn), fun id c hc => .inl (hkept hconnections ?_ id c hc)⟩
    rw [hnodes]
    exact fun _ ha => ha
  | put node hid hnodes hconnections hallocated =>
    refine ⟨fun id n hn => ?_, fun id c hc => .inl (hkept hconnections ?_ id c hc)⟩
    · rw [hnodes, Table.get?_insert] at hn
      split at hn
      · rename_i hnew
        cases hn
        rw [hnew, hallocated, hid]
        exact ⟨rfl, .inr (.next _ _)⟩
      · exact hold hn
    · rw [hnodes]
      exact fun _ => Table.contains_insert
  | drop node _ hnodes hconnections hallocated =>
    refine ⟨fun id n hn => ?_, fun id c hc => .inl ?_⟩
    · rw [hnodes, Table.get?_erase] at hn
      split at hn
      · cases hn
      · exact hold hn
    · rw [hconnections, Table.get?_filter, Option.filter_eq_some_iff] at hc
      refine ⟨hc.1, fun a htouch ha => ?_⟩
      -- A connection that is left does not touch the node that has gone.
      rw [Table.contains, hnodes, Table.get?_erase, if_neg]
      · exact ha
      · rintro rfl
        simp [htouch] at hc
  | patch k node parts _ hk hnodes hconnections hallocated =>
    refine ⟨fun id n hn => ?_, fun id c hc => .inl (hkept hconnections ?_ id c hc)⟩
    · rw [hnodes, Table.get?_insert] at hn
      split at hn
      · rename_i hsame
        cases hn
        rw [hsame]
        exact hold (n := node) hk
      · exact hold hn
    · rw [hnodes]
      exact fun _ => Table.contains_insert
  | recode spec hnodes hconnections hallocated =>
    refine ⟨fun id n hn => ?_, fun id c hc => .inl (hkept hconnections (fun a ha => ?_) id c hc)⟩
    · rw [hnodes, Table.get?_mapValues, Option.map_eq_some_iff] at hn
      obtain ⟨m, hm, rfl⟩ := hn
      exact (hold hm).imp_left (id_recode spec m).trans
    · rw [Table.contains, hnodes, Table.get?_mapValues, Option.isSome_map]
      exact ha
  | link d hid hsource htarget hloop hnodes hconnections hallocated =>
    refine ⟨fun id n hn => hold (hnodes ▸ hn), fun id c hc => ?_⟩
    rw [hconnections, Table.get?_insert] at hc
    split at hc
    · rename_i hnew
      cases hc
      rw [hnodes, hnew, hallocated, hid]
      exact .inr ⟨rfl, .next _ _, hsource, htarget, hloop⟩
    · exact .inl ⟨hc, fun a _ ha => by rwa [hnodes]⟩
  | unlink k hlinked hnodes hconnections hallocated =>
    refine ⟨fun id n hn => hold (hnodes ▸ hn), fun id c hc => .inl ?_⟩
    rw [hconnections, Table.get?_erase] at hc
    split at hc
    · cases hc
    · exact ⟨hc, fun a _ ha => by rwa [hnodes]⟩
  | wipe hnodes hconnections _ =>
    refine ⟨fun id n hn => ?_, fun id c hc => ?_⟩
    · rw [hnodes] at hn
      cases hn
    · rw [hconnections] at hc
      cases hc

theorem Intact.of_effect (h : b.Intact) (heffect : b.Effect b' changes) : b'.Intact :=
  h.of_carries (h.carries heffect)

/-- **What the backend carries out leaves its graph in order.** -/
theorem Sound.of_effect (h : b.Sound) (heffect : b.Effect b' changes) : b'.Sound := by
  have hle := heffect.allocated_le
  have hcarries := h.intact.carries heffect
  have hintact := h.intact.of_carries hcarries
  refine ⟨hintact.nodeIds, fun id n hn => ?_, hintact.connectionIds, fun id c hc => ?_,
    hintact.ends⟩
  · obtain hstored | hnew := (hcarries.nodes id n hn).2
    · obtain ⟨m, hm⟩ := Table.contains_iff.1 hstored
      exact (h.nodesIssued id m hm).mono hle
    · exact hnew
  · obtain ⟨hold, -⟩ | hnew := hcarries.connections id c hc
    · exact (h.connectionsIssued id c hold).mono hle
    · exact hnew.2.1

theorem Effect.remote
    (heffect : b.Effect b' changes) (h : b.Sound) : ∀ ch ∈ changes, ch.Remote := by
  cases heffect with
  | put node hid =>
    rintro ch hch
    obtain rfl := List.mem_singleton.1 hch
    have hissued : Issued "node" (b.allocated + 1) node.id := hid ▸ .next _ _
    exact hissued.not_isLocalId_of_node
  | link c hid hsource htarget =>
    rintro ch hch
    obtain rfl := List.mem_singleton.1 hch
    have hissued : Issued "conn" (b.allocated + 1) c.id := hid ▸ .next _ _
    exact ⟨hissued.not_isLocalId_of_conn, h.not_isLocalId hsource, h.not_isLocalId htarget⟩
  | recode spec =>
    rintro ch hch
    obtain ⟨entry, _, rfl⟩ := List.mem_map.1 hch
    trivial
  | keep | drop | patch | unlink | wipe => simp [GraphChange.Remote]

/-- The parameters of every node are such as reading produces. -/
def Readable (b : Backend R) : Prop :=
  ∀ id n, b.nodes.get? id = some n → Bag.Decodable n.parameters

theorem decodable_recode {node : Node R} (h : Bag.Decodable node.parameters)
    (spec : PatternRefactor) : Bag.Decodable (recode spec node).parameters := by
  rw [recode]
  split
  · rename_i code hcode
    -- Only a node that has code gets new code, and such parameters are plain.
    obtain ⟨_, -, hcode'⟩ := Option.bind_eq_some_iff.1 hcode
    obtain ⟨text, htext, -⟩ := Option.bind_eq_some_iff.1 hcode'
    have hplain := Parameters.plain_of_decodable_sourceText h htext
    refine LaidBag.decodable_of_plain ?_
    exact hplain
  · exact h

/-- Only a new node can bring in parameters that no reading produces. -/
theorem Readable.of_effect (h : b.Readable) (heffect : b.Effect b' changes)
    (hput : ∀ node, .put node ∈ changes → Bag.Decodable node.parameters) : b'.Readable := by
  intro id n hn
  cases heffect with
  | keep hnodes =>
    rw [hnodes] at hn
    exact h id n hn
  | put node hid hnodes =>
    rw [hnodes, Table.get?_insert] at hn
    split at hn
    · cases hn
      exact hput _ List.mem_cons_self
    · exact h id n hn
  | drop node hstored hnodes =>
    rw [hnodes, Table.get?_erase] at hn
    split at hn
    · cases hn
    · exact h id n hn
  | patch k node parts hdecodable hk hnodes =>
    rw [hnodes, Table.get?_insert] at hn
    split at hn
    · cases hn
      cases hparts : parts.parameters with
      | none => simpa [NodePatch.overwrite, hparts] using h k node hk
      | some p => simpa [NodePatch.overwrite, hparts] using hdecodable p hparts
    · exact h id n hn
  | recode spec hnodes =>
    rw [hnodes, Table.get?_mapValues, Option.map_eq_some_iff] at hn
    obtain ⟨m, hm, rfl⟩ := hn
    exact decodable_recode (h id m hm) spec
  | link c hid hsource htarget hloop hnodes =>
    rw [hnodes] at hn
    exact h id n hn
  | unlink k hstored hnodes =>
    rw [hnodes] at hn
    exact h id n hn
  | wipe hnodes =>
    rw [hnodes] at hn
    cases hn

/-- An effect is about the graph and the ids of a backend only. -/
theorem Effect.congr {b₁ : Backend R} (h : b₁.Effect b' changes) (hnodes : b₁.nodes = b.nodes)
    (hconnections : b₁.connections = b.connections) (hallocated : b₁.allocated = b.allocated) :
    b.Effect b' changes := by
  cases h with
  | keep hn hc ha => exact .keep (hn.trans hnodes) (hc.trans hconnections) (ha.trans hallocated)
  | put node hid hn hc ha =>
    rw [hallocated] at hid ha
    rw [hnodes] at hn
    exact .put node hid hn (hc.trans hconnections) ha
  | drop node hs hn hc ha =>
    rw [hnodes] at hs hn
    rw [hconnections] at hc
    exact .drop node hs hn hc (ha.trans hallocated)
  | patch id node parts hd hs hn hc ha =>
    rw [hnodes] at hs hn
    exact .patch id node parts hd hs hn (hc.trans hconnections) (ha.trans hallocated)
  | recode spec hn hc ha =>
    have hrecoded : b₁.recoded spec = b.recoded spec := by rw [recoded, recoded, hnodes]
    rw [hnodes] at hn
    rw [hrecoded]
    exact .recode spec hn (hc.trans hconnections) (ha.trans hallocated)
  | link c hid hs ht hl hn hc ha =>
    rw [hallocated] at hid ha
    rw [hnodes] at hs ht hn
    rw [hconnections] at hc
    exact .link c hid hs ht hl hn hc ha
  | unlink id hs hn hc ha =>
    rw [hconnections] at hs hc
    exact .unlink id hs (hn.trans hnodes) hc (ha.trans hallocated)
  | wipe hn hc ha => exact .wipe hn hc (ha.trans hallocated)

/-! ## Requests -/

/-- What begins by finding a node succeeds only where there is one. -/
theorem findNode_bind_eq_ok {α : Type} {id : NodeId}
    {next : Node R → Except RequestError α} {a : α} (h : (b.findNode id >>= next) = .ok a) :
    ∃ node, b.nodes.get? id = some node ∧ next node = .ok a := by
  rw [findNode] at h
  split at h
  · rename_i node hfound
    exact ⟨node, hfound, h⟩
  · cases h

theorem findSession_bind_eq_ok {α : Type} {id : SessionId}
    {next : BackendSession → Except RequestError α} {a : α}
    (h : (b.findSession id >>= next) = .ok a) :
    ∃ session, b.sessions.get? id = some session ∧ next session = .ok a := by
  rw [findSession] at h
  split at h
  · rename_i session hfound
    exact ⟨session, hfound, h⟩
  · cases h

/-- A connection is created between two different nodes that are there. -/
theorem createConnection_eq_ok {spec : CreateConnection}
    {done : Accepted R ConnectionId} (h : b.createConnection spec = .ok done) :
    b.nodes.contains spec.source = true ∧ b.nodes.contains spec.target = true ∧
      spec.source ≠ spec.target ∧
      let (id, b') := b.allocate "conn"
      done = ⟨id, { b' with connections := b.connections.insert id (spec.connection id) },
        [.connectionAdded (spec.connection id)]⟩ := by
  obtain ⟨source, hsource, h⟩ := findNode_bind_eq_ok h
  obtain ⟨target, htarget, h⟩ := findNode_bind_eq_ok h
  by_cases hloop : spec.source = spec.target
  · rw [if_pos hloop] at h
    cases h
  · rw [if_neg hloop] at h
    cases h
    exact ⟨Table.contains_iff.2 ⟨source, hsource⟩, Table.contains_iff.2 ⟨target, htarget⟩, hloop,
      rfl⟩

/-- A connection is deleted that is there. -/
theorem deleteConnection_eq_ok {id : ConnectionId} {done : Accepted R Unit}
    (h : b.deleteConnection id = .ok done) :
    b.connections.contains id = true ∧
      done = ⟨(), { b with connections := b.connections.erase id }, [.connectionRemoved id]⟩ := by
  rw [deleteConnection] at h
  split at h
  · rename_i hstored
    cases h
    exact ⟨hstored, rfl⟩
  · cases h

/-- New code is announced as a change set. -/
theorem filterMap_change?_recoded (recoded : List (NodeId × String)) :
    (recoded.map fun (id, code) => PushEvent.nodeUpdated (R := R) id
        (Table.empty.insert "source_code" (.string code))).filterMap (·.change?) =
      recoded.map recoding := by
  rw [List.filterMap_map]
  exact congrFun List.filterMap_eq_map _

theorem refactorPattern_effect (b : Backend R) (spec : PatternRefactor) :
    b.Effect (b.refactorPattern spec).backend
        ((b.refactorPattern spec).pushes.filterMap (·.change?)) ∧
      ∀ p ∈ (b.refactorPattern spec).pushes, p.Safe := by
  rw [refactorPattern]
  split
  · refine ⟨?_, fun p hp => ?_⟩
    · change b.Effect _ (List.filterMap _ ((b.recoded spec).map _))
      rw [filterMap_change?_recoded]
      exact .recode spec rfl rfl rfl
    · obtain ⟨entry, _, rfl⟩ := List.mem_map.1 hp
      trivial
  · exact ⟨.keep rfl rfl rfl, by simp⟩

variable [Scalar R]

/-- **Every request that is carried out has one of these effects, and announces it.** -/
theorem perform_effect {r : Request R} {done : Accepted R r.Reply} (h : b.perform r = .ok done) :
    b.Effect done.backend (done.pushes.filterMap (·.change?)) ∧ ∀ p ∈ done.pushes, p.Safe := by
  cases r with
  | createNode spec =>
    cases h
    exact ⟨.put (newNode _ spec) rfl rfl rfl rfl, by simp [createNode, PushEvent.Safe]⟩
  | moveNode node position =>
    obtain ⟨found, hfound, h⟩ := findNode_bind_eq_ok h
    cases h
    exact ⟨.patch node found { position := some position } (by simp) hfound rfl rfl rfl,
      by simp [PushEvent.Safe]⟩
  | deleteNode node =>
    obtain ⟨found, hfound, h⟩ := findNode_bind_eq_ok h
    cases h
    exact ⟨.drop node (Table.contains_iff.2 ⟨found, hfound⟩) rfl rfl rfl, by simp [PushEvent.Safe]⟩
  | updateParameters node changes =>
    obtain ⟨found, hfound, h⟩ := findNode_bind_eq_ok h
    cases h
    refine ⟨.patch node found { parameters := some (Bag.mergedWith found.parameters changes) } ?_
      hfound rfl rfl rfl, by simp [PushEvent.Safe]⟩
    rintro p hp
    cases hp
    exact Bag.decodable_mergedWith _ _
  | updateMetadata node changes =>
    obtain ⟨found, hfound, h⟩ := findNode_bind_eq_ok h
    cases h
    exact ⟨.patch node found { metadata := some (Bag.mergedWith found.metadata changes) } (by simp)
      hfound rfl rfl rfl, by simp [PushEvent.Safe]⟩
  | updatePorts node ports =>
    obtain ⟨found, hfound, h⟩ := findNode_bind_eq_ok h
    cases h
    exact ⟨.patch node found { inputs := some ports.inputs, outputs := some ports.outputs }
      (by simp) hfound rfl rfl rfl, by simp [PushEvent.Safe]⟩
  | createConnection spec =>
    obtain ⟨hsource, htarget, hloop, rfl⟩ := createConnection_eq_ok h
    exact ⟨.link _ rfl hsource htarget hloop rfl rfl rfl, by simp [PushEvent.Safe]⟩
  | deleteConnection connection =>
    obtain ⟨hstored, rfl⟩ := deleteConnection_eq_ok h
    exact ⟨.unlink connection hstored rfl rfl rfl, by simp [PushEvent.Safe]⟩
  | clearCanvas =>
    cases h
    exact ⟨.wipe rfl rfl rfl, by simp [clearCanvas, PushEvent.Safe]⟩
  | refactorPattern spec =>
    cases h
    exact refactorPattern_effect b spec
  | startSession session | stepSession session kind | stopSession session =>
    obtain ⟨_, -, h⟩ := findSession_bind_eq_ok h
    cases h
    exact ⟨.keep rfl rfl rfl, by simp [PushEvent.Safe]⟩
  | fetchCanvas | setZoom _ _ | pan _ _ | startExecution _ | stepExecution | stopExecution
  | createSession _ | runAllSessions _ | listSessions | searchPattern _ | exportCode _
  | setParadigm _ =>
    cases h
    exact ⟨.keep rfl rfl rfl, by simp [display, createSession, runAllSessions, PushEvent.Safe]⟩

/-- A request is refused, or it is carried out by the backend that has recorded it. -/
theorem answer_outcome (b : Backend R) (r : Request R) :
    (∃ cause, b.answer r = (.error cause, (b.record r.name r.target).2, [])) ∨
      ∃ done, (b.record r.name r.target).2.perform r = .ok done ∧
        b.answer r = (.ok done.reply, done.backend, done.pushes) := by
  have hrecord : b.record r.name r.target =
      ((b.record r.name r.target).1, (b.record r.name r.target).2) := rfl
  rw [answer, hrecord]
  cases (b.record r.name r.target).1 with
  | some error => exact .inl ⟨error, rfl⟩
  | none =>
    cases hperform : (b.record r.name r.target).2.perform r with
    | error error =>
      refine .inl ⟨error, ?_⟩
      simp only [hperform]
    | ok done =>
      refine .inr ⟨done, rfl, ?_⟩
      simp only [hperform]

end Backend

/-! ## Links -/

variable [Scalar R]

/-- How a link answers, as a rule for programs. -/
def Link.answering : Answering R (Link R) := fun call link => link.answer call

theorem Link.handle_eq : (Link.handle : Handler R MemoryStore (Link R)) = answering.handler := rfl

/-- The backend of a link once it has recorded a request. -/
def Link.recorded (link : Link R) (r : Request R) : Backend R :=
  (link.backend.record r.name r.target).2

/-- How a link answers: it refuses, and only the call is recorded, or it carries the request out,
and the announcements are queued. -/
theorem Link.answer_outcome (link : Link R) (r : Request R) :
    (∃ cause, link.answer r = (.error cause, { link with backend := link.recorded r })) ∨
      ∃ done, (link.recorded r).perform r = .ok done ∧
        link.answer r = (.ok done.reply, { link with
          backend := done.backend
          pushes := if link.subscribed then link.pushes ++ done.pushes else link.pushes }) := by
  obtain ⟨cause, hanswer⟩ | ⟨done, hperform, hanswer⟩ := link.backend.answer_outcome r
  · refine .inl ⟨cause, ?_⟩
    simp only [answer, hanswer, List.append_nil, ite_self, recorded]
  · refine .inr ⟨done, hperform, ?_⟩
    simp only [answer, hanswer]

/-- What that does to its graph and its queue. -/
theorem Link.answer_cases (link : Link R) (r : Request R) :
    (∃ cause b', link.answer r = (.error cause, { link with backend := b' }) ∧
        link.backend.Effect b' []) ∨
      ∃ done, (link.recorded r).perform r = .ok done ∧
        link.answer r = (.ok done.reply, { link with
          backend := done.backend
          pushes := if link.subscribed then link.pushes ++ done.pushes else link.pushes }) ∧
        link.backend.Effect done.backend (done.pushes.filterMap (·.change?)) ∧
        ∀ p ∈ done.pushes, p.Safe := by
  obtain ⟨cause, hanswer⟩ | ⟨done, hperform, hanswer⟩ := link.answer_outcome r
  · exact .inl ⟨cause, link.recorded r, hanswer, .keep rfl rfl rfl⟩
  · obtain ⟨heffect, hsafe⟩ := Backend.perform_effect hperform
    exact .inr ⟨done, hperform, hanswer, heffect.congr rfl rfl rfl, hsafe⟩

end NodeCanvas
