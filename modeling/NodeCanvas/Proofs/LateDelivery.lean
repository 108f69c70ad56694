import NodeCanvas.Proofs.Queue
import NodeCanvas.Proofs.Restoring
import NodeCanvas.Proofs.Worlds
/-!
# Pushes that come after a restore

A restore may begin while pushes are on their way, and all of them come after it has ended. What the
queue holds then is what it held before, the announcement of the clearing, and the additions of the
replay (`Replaying`): each step of the replay keeps that, whether the backend takes it or not.

The additions are new, because the backend never gives out an id twice. So the pushes from before
say nothing about what the restore has placed, and what becomes of it is decided by the clearings
alone. The client takes the first that comes for the one that it owes. With none on its way before,
that is right. With one more than is owed, the restore's own clearing is the one that is carried
out, and it takes what exists only here (`Client.restoreSnapshot_late_pushes`). Additions from
before are not held back either way, though the backend has cleared what they add.
-/

namespace NodeCanvas

variable {R : Type} [Scalar R]

omit [Scalar R] in
/-- What announces nothing keeps all nodes. -/
theorem Backend.Effect.contains_of_nil {b b' : Backend R} (h : b.Effect b' []) (id : NodeId) :
    b'.nodes.contains id = b.nodes.contains id := by
  generalize hnone : ([] : List (GraphChange R)) = changes at h
  cases h with
  | keep hnodes => rw [hnodes]
  | recode spec hnodes => rw [hnodes, Table.contains, Table.get?_mapValues, Option.isSome_map]; rfl
  | _ => cases hnone

/-! ## A replay behind an old queue -/

/-- A push that announces something new: a node under an id given out after `base`, or a connection
between two nodes. -/
def PushEvent.AddsAfter (base : Nat) : PushEvent R → Prop
  | .nodeAdded node => ∃ k, base < k ∧ node.id = "node" ++ "-" ++ Nat.repr k
  | .connectionAdded c => c.isSelfLoop = false ∧ (GraphChange.link c : GraphChange R).Remote
  | _ => False

/-- Some push announces a node under an id. -/
def PushEvent.AnnouncesNode (pushes : List (PushEvent R)) (id : NodeId) : Prop :=
  ∃ node, .nodeAdded node ∈ pushes ∧ node.id = id

/-- Some push announces a connection under an id. -/
def PushEvent.AnnouncesConnection (pushes : List (PushEvent R)) (id : ConnectionId) : Prop :=
  ∃ c, .connectionAdded c ∈ pushes ∧ c.id = id

namespace PushEvent

omit [Scalar R]

theorem announcesNode_append {first second : List (PushEvent R)} {id : NodeId} :
    AnnouncesNode (first ++ second) id ↔ AnnouncesNode first id ∨ AnnouncesNode second id := by
  simp [AnnouncesNode, or_and_right, exists_or]

theorem announcesNode_singleton {push : PushEvent R} {id : NodeId} :
    AnnouncesNode [push] id ↔ ∃ node, push = .nodeAdded node ∧ node.id = id := by
  simp [AnnouncesNode, eq_comm]

theorem announcesConnection_cons {push : PushEvent R} {pushes : List (PushEvent R)}
    {id : ConnectionId} :
    AnnouncesConnection (push :: pushes) id ↔
      (∃ c, push = .connectionAdded c ∧ c.id = id) ∨ AnnouncesConnection pushes id := by
  simp [AnnouncesConnection, or_and_right, exists_or, eq_comm]

end PushEvent

open PushEvent

/-- While a restore goes on that began with an old queue: the clearing is queued behind it, and then
what was created since. That is what the backend has, and with what exists only here it is all that
is on the graph. -/
structure Replaying (base : Nat) (old : List (PushEvent R)) (g : Graph R) (link : Link R)
    (added : List (PushEvent R)) : Prop where
  subscribed : link.subscribed = true
  allocated : base ≤ link.backend.allocated
  pushes : link.pushes = old ++ .canvasCleared :: added
  adds : ∀ p ∈ added, p.AddsAfter base
  stored : ∀ id, link.backend.nodes.contains id = true ↔ AnnouncesNode added id
  tidy : g.Tidy
  nodes : ∀ id, g.nodes.contains id = true → IsLocalId id ∨ AnnouncesNode added id
  connections : ∀ id c, g.connections.get? id = some c →
    (IsLocalId id ∨ AnnouncesConnection added id) ∧
      ∀ a, c.touches a = true → g.nodes.contains a = true

namespace Replaying

variable {base : Nat} {old added : List (PushEvent R)} {g : Graph R} {link : Link R}
  {b' : Backend R} {c : Connection}

omit [Scalar R] in
/-- A request that is refused changes nothing. -/
theorem refused (h : Replaying base old g link added) (heffect : link.backend.Effect b' []) :
    Replaying base old g { link with backend := b' } added where
  subscribed := h.subscribed
  allocated := Nat.le_trans h.allocated heffect.allocated_le
  pushes := h.pushes
  adds := h.adds
  stored id := by rw [heffect.contains_of_nil id, h.stored id]
  tidy := h.tidy
  nodes := h.nodes
  connections := h.connections

omit [Scalar R] in
/-- Something is created and announced. -/
theorem announced (h : Replaying base old g link added) {p : PushEvent R}
    (hadds : p.AddsAfter base) (hallocated : link.backend.allocated ≤ b'.allocated)
    (hstored : ∀ id, b'.nodes.contains id = true ↔
      link.backend.nodes.contains id = true ∨ AnnouncesNode [p] id) :
    Replaying base old g { link with backend := b', pushes := link.pushes ++ [p] }
      (added ++ [p]) where
  subscribed := h.subscribed
  allocated := Nat.le_trans h.allocated hallocated
  pushes := by rw [h.pushes, List.append_assoc, List.cons_append]
  adds q hq := by
    obtain hq | hq := List.mem_append.1 hq
    · exact h.adds q hq
    · rwa [List.mem_singleton.1 hq]
  stored id := by rw [hstored, h.stored, announcesNode_append]
  tidy := h.tidy
  nodes id hid := (h.nodes id hid).imp_right fun hann => announcesNode_append.2 (.inl hann)
  connections id c hc := by
    obtain ⟨hkind, hends⟩ := h.connections id c hc
    refine ⟨hkind.imp_right ?_, hends⟩
    rintro ⟨d, hd, hid⟩
    exact ⟨d, List.mem_append_left _ hd, hid⟩

/-- A node is placed that exists only here or is announced. -/
theorem placed (h : Replaying base old g link added) (saved : Node R) {identity : NodeIdentity}
    (hid : IsLocalId identity.id ∨ AnnouncesNode added identity.id)
    (htidy : (g.place saved identity).Tidy) :
    Replaying base old (g.place saved identity) link added where
  subscribed := h.subscribed
  allocated := h.allocated
  pushes := h.pushes
  adds := h.adds
  stored := h.stored
  tidy := htidy
  nodes a ha := by
    obtain rfl | ha := (Graph.contains_place g saved identity a).1 ha
    · exact hid
    · exact h.nodes a ha
  connections k c hc := by
    rw [Graph.connections_place] at hc
    obtain ⟨hkind, hends⟩ := h.connections k c hc
    exact ⟨hkind, fun a ha => (Graph.contains_place g saved identity a).2 (.inr (hends a ha))⟩

/-- A connection between two placed nodes is placed, which exists only here or is announced. -/
theorem linked (h : Replaying base old g link added) {isLocal : Bool}
    (hloop : c.isSelfLoop = false) (hid : IsLocalId c.id ∨ AnnouncesConnection added c.id)
    (hends : ∀ a, c.touches a = true → g.nodes.contains a = true)
    (htidy : (g.placeConnection c isLocal).Tidy) :
    Replaying base old (g.placeConnection c isLocal) link added where
  subscribed := h.subscribed
  allocated := h.allocated
  pushes := h.pushes
  adds := h.adds
  stored := h.stored
  tidy := htidy
  nodes a ha := by
    rw [Graph.nodes_placeConnection] at ha
    exact h.nodes a ha
  connections k d hd := by
    rw [Graph.nodes_placeConnection]
    rw [Graph.connections_placeConnection g hloop] at hd
    split at hd
    · rename_i hk
      cases hd
      exact ⟨hk ▸ hid, hends⟩
    · exact h.connections k d hd

omit [Scalar R] in
/-- Ids of nodes that the backend has are no ids from here. -/
theorem not_isLocalId (h : Replaying base old g link added) {id : NodeId}
    (hid : link.backend.nodes.contains id = true) : ¬ IsLocalId id := by
  obtain ⟨node, hmem, rfl⟩ := (h.stored id).1 hid
  obtain ⟨k, -, hk⟩ := h.adds _ hmem
  exact Issued.not_isLocalId_of_node ⟨k, Nat.le_refl k, hk⟩

/-- A node that is refused is placed under an id from here. -/
theorem placeHere (h : Replaying base old g link added) (saved : Node R) {id : NodeId}
    (hid : IsLocalId id) : Replaying base old (g.place saved (.localOnly id)) link added :=
  h.placed saved (.inl hid) (Graph.Tidy.putHere h.tidy hid)

/-- A node that is created is placed and announced. -/
theorem placeRemote (h : Replaying base old g link added) (saved node : Node R)
    (hid : node.id = "node" ++ "-" ++ Nat.repr (link.backend.allocated + 1))
    (hnodes : b'.nodes = link.backend.nodes.insert node.id node)
    (hallocated : b'.allocated = link.backend.allocated + 1) :
    Replaying base old (g.place saved (.remote node.id))
      { link with backend := b', pushes := link.pushes ++ [.nodeAdded node] }
      (added ++ [.nodeAdded node]) := by
  have hremote : ¬ IsLocalId node.id := Issued.not_isLocalId_of_node ⟨_, Nat.le_refl _, hid⟩
  have htidy : (g.alter (.put { saved with id := node.id })).Tidy := h.tidy.alter hremote
  have hadds : (PushEvent.nodeAdded node).AddsAfter base :=
    ⟨_, Nat.lt_succ_of_le h.allocated, hid⟩
  refine (h.announced hadds (by omega) fun a => ?_).placed saved
    (.inr (announcesNode_append.2 (.inr ⟨node, List.mem_singleton_self _, rfl⟩))) htidy
  have hann : AnnouncesNode [.nodeAdded node] a ↔ a = node.id :=
    announcesNode_singleton.trans ⟨by rintro ⟨_, ⟨⟩, rfl⟩; rfl, fun ha => ⟨_, rfl, ha.symm⟩⟩
  rw [hnodes, hann, Table.contains, Table.get?_insert, Table.contains]
  by_cases ha : a = node.id
  · simp [ha]
  · simp [ha]

/-- A connection that the backend does not have is placed under an id from here. -/
theorem linkHere (h : Replaying base old g link added) (hid : IsLocalId c.id)
    (hloop : c.isSelfLoop = false)
    (hends : ∀ a, c.touches a = true → g.nodes.contains a = true) :
    Replaying base old (g.placeConnection c true) link added := by
  refine h.linked hloop (.inl hid) hends ?_
  rw [Graph.placeConnection_eq]
  exact h.tidy.linkHere hid hloop

/-- A connection that is created is placed and announced. -/
theorem linkRemote (h : Replaying base old g link added)
    {id : ConnectionId} (hloop : c.isSelfLoop = false)
    (hends : ∀ a, c.touches a = true → g.nodes.contains a = true)
    (hid : id = "conn" ++ "-" ++ Nat.repr (link.backend.allocated + 1))
    (hsource : link.backend.nodes.contains c.source = true)
    (htarget : link.backend.nodes.contains c.target = true)
    (hnodes : b'.nodes = link.backend.nodes)
    (hallocated : b'.allocated = link.backend.allocated + 1) :
    Replaying base old (g.placeConnection { c with id } false)
      { link with
        backend := b'
        pushes := link.pushes ++
          [.connectionAdded ((CreateConnection.ofConnection c).connection id)] }
      (added ++ [.connectionAdded ((CreateConnection.ofConnection c).connection id)]) := by
  have hremote : (GraphChange.link { c with id } : GraphChange R).Remote :=
    ⟨Issued.not_isLocalId_of_conn ⟨_, Nat.le_refl _, hid⟩, h.not_isLocalId hsource,
      h.not_isLocalId htarget⟩
  have htidy : (g.alter (.link { c with id })).Tidy := h.tidy.alter hremote
  have hadds : (PushEvent.connectionAdded ((CreateConnection.ofConnection c).connection id) :
      PushEvent R).AddsAfter base := ⟨hloop, hremote⟩
  refine (h.announced hadds (by omega) fun a => ?_).linked hloop
    (.inr ⟨_, List.mem_append_right _ (List.mem_singleton_self _), rfl⟩) hends htidy
  have hann : ¬ AnnouncesNode (R := R)
      [.connectionAdded ((CreateConnection.ofConnection c).connection id)] a := by
    rw [announcesNode_singleton]
    rintro ⟨node, ⟨⟩, -⟩
  rw [hnodes, or_iff_left hann]

/-- Each step of a replay keeps the invariant. -/
theorem replayKeeps (base : Nat) (old : List (PushEvent R)) (s : Snapshot R) :
    ReplayKeeps s fun g link => ∃ added, Replaying base old g link added where
  subscribed := fun ⟨_, h⟩ => h.subscribed
  refused := fun ⟨added, h⟩ heffect => ⟨added, h.refused heffect⟩
  placeHere := fun ⟨added, h⟩ _ hid => ⟨added, h.placeHere _ hid⟩
  placeRemote {_ _ _ saved id} := fun ⟨_, h⟩ _ hid hnodes _ hallocated =>
    ⟨_, h.placeRemote saved (Backend.newNode id (.ofNode saved)) hid hnodes hallocated⟩
  linkHere := fun ⟨added, h⟩ hid hloop hends => ⟨added, h.linkHere hid hloop hends⟩
  linkRemote := fun ⟨_, h⟩ hloop hends hid hsource htarget _ hnodes _ hallocated =>
    ⟨_, h.linkRemote hloop hends hid hsource htarget hnodes hallocated⟩

omit [Scalar R] in
/-- A restore starts with nothing left on the graph and a backend that has cleared its own. -/
theorem start (hblank : g.Blank) (hsub : link.subscribed = true)
    (hpushes : link.pushes = old ++ [.canvasCleared]) (hnodes : link.backend.nodes = ∅)
    (hbase : base ≤ link.backend.allocated) : Replaying base old g link [] where
  subscribed := hsub
  allocated := hbase
  pushes := hpushes
  adds := List.forall_mem_nil _
  stored id := by
    rw [hnodes]
    simp [AnnouncesNode]
  tidy :=
    { keyed := fun id c hc => by rw [hblank.connections] at hc; cases hc
      nodeMarks := fun id => by simp [hblank.nodeMarks id, Table.contains, hblank.nodes id]
      connectionMarks := fun id => by
        simp [hblank.connectionMarks id, Table.contains, hblank.connections id]
      remoteEnds := fun id c hc => by rw [hblank.connections] at hc; cases hc }
  nodes id hid := by
    rw [Table.contains, hblank.nodes id] at hid
    cases hid
  connections id c hc := by
    rw [hblank.connections] at hc
    cases hc

end Replaying

/-! ## The announcements of the replay -/

namespace PushEvent

omit [Scalar R]

variable {base : Nat} {pushes : List (PushEvent R)}

theorem AddsAfter.not_isClear {p : PushEvent R} (h : p.AddsAfter base) : p.isClear = false := by
  cases p with
  | canvasCleared => exact h.elim
  | _ => rfl

theorem AddsAfter.safe {p : PushEvent R} (h : p.AddsAfter base) : p.Safe := by
  cases p with
  | execution event => exact h.elim
  | _ => trivial

theorem leaves_iff_announces (h : ∀ p ∈ pushes, p.AddsAfter base) (id : NodeId) :
    Leaves pushes id ↔ AnnouncesNode pushes id := by
  constructor
  · rintro ⟨before, node, after, rfl, hid, -⟩
    exact ⟨node, by simp, hid⟩
  · rintro ⟨node, hmem, hid⟩
    obtain ⟨before, after, rfl⟩ := List.append_of_mem hmem
    exact ⟨before, node, after, rfl, hid, fun hremoved =>
      h (.nodeRemoved id) (by simp [hremoved])⟩

/-- Every change that is made is that of some push. -/
theorem exists_of_mem_changesOwing {owed : Nat} {ch : GraphChange R}
    (h : ch ∈ changesOwing owed pushes) : ∃ p ∈ pushes, p.change? = some ch := by
  induction pushes generalizing owed with
  | nil => cases h
  | cons push pushes ih =>
    obtain h | h := List.mem_append.1 h
    · rw [changeOwing] at h
      split at h
      · cases h
      · exact ⟨push, List.mem_cons_self, Option.mem_toList.1 h⟩
    · obtain ⟨p, hp, hchange⟩ := ih h
      exact ⟨p, List.mem_cons_of_mem push hp, hchange⟩

end PushEvent

namespace Graph

variable {base : Nat} {added : List (PushEvent R)}

/-- What a replay announces is on the graph in the end, and nothing else is new. -/
theorem contains_settle_added (g : Graph R) (hadds : ∀ p ∈ added, p.AddsAfter base) (owed : Nat)
    (id : NodeId) :
    (g.settle (changesOwing owed added)).nodes.contains id = true ↔
      AnnouncesNode added id ∨ g.nodes.contains id = true := by
  have hnone : added.countP (·.isClear) = 0 :=
    List.countP_eq_zero.2 fun p hp => Bool.eq_false_iff.1 (hadds p hp).not_isClear
  rw [g.contains_settle_owing (by omega), leaves_iff_announces hadds]
  refine or_congr_right (and_iff_left fun hremoved => ?_)
  exact hadds _ hremoved

theorem connections_settle_added {g : Graph R} (hk : g.Keyed)
    (hadds : ∀ p ∈ added, p.AddsAfter base) (owed : Nat) (id : ConnectionId) :
    (g.settle (changesOwing owed added)).connections.contains id = true ↔
      AnnouncesConnection added id ∨ g.connections.contains id = true := by
  induction added generalizing g owed with
  | nil => simp [changesOwing, AnnouncesConnection]
  | cons push added ih =>
    have hpush := hadds push List.mem_cons_self
    rw [changesOwing, settle_append, changeOwing_of_not_isClear hpush.not_isClear,
      ih (hk.settle _) fun p hp => hadds p (List.mem_cons_of_mem push hp), announcesConnection_cons]
    cases push with
    | nodeAdded node =>
      change _ ∨ ((g.alter (.put node)).connections.get? id).isSome = true ↔ _
      rw [connections_alter hk]
      simp [GraphChange.onConnection, Table.contains]
    | connectionAdded c =>
      change _ ∨ ((g.alter (.link c)).connections.get? id).isSome = true ↔ _
      rw [connections_alter hk, GraphChange.onConnection]
      by_cases hid : id = c.id
      · simp [hpush.1, hid]
      · simp [hid, Ne.symm hid, Table.contains]
    | _ => exact hpush.elim

end Graph

/-! ## The whole queue -/

namespace Replaying

variable {base : Nat} {old added : List (PushEvent R)} {g : Graph R} {link : Link R}
  {id : ConnectionId}

/-- The graph when all but the announcements of the replay is applied: without anything if more
clearings are under way than are owed, since the last one of the queue is not counted then. -/
def overtaken (g : Graph R) (old : List (PushEvent R)) (owed : Nat) : Graph R :=
  if owed < old.countP (·.isClear) then (g.settle (changesOwing (owed + 1) old)).clear.1
  else g.settle (changesOwing (owed + 1) old)

theorem settle_pushes (h : Replaying base old g link added) (owed : Nat) :
    g.settle (changesOwing (owed + 1) link.pushes) =
      (overtaken g old owed).settle (changesOwing (owed - old.countP (·.isClear)) added) := by
  rw [h.pushes, changesOwing_append, Graph.settle_append, overtaken]
  split
  · rename_i hfewer
    have hnone : owed + 1 - old.countP (·.isClear) = 0 := by omega
    have hzero : owed - old.countP (·.isClear) = 0 := by omega
    rw [hnone, hzero]
    rfl
  · rename_i hall
    have hsome : owed + 1 - old.countP (·.isClear) = owed - old.countP (·.isClear) + 1 := by omega
    rw [hsome]
    rfl

/-- What is announced is on the graph in the end, and what was left of the rest. -/
theorem contains_pushes (h : Replaying base old g link added) (owed : Nat) (id : NodeId) :
    (g.settle (changesOwing (owed + 1) link.pushes)).nodes.contains id = true ↔
      link.backend.nodes.contains id = true ∨
        ¬ owed < old.countP (·.isClear) ∧
          (Leaves old id ∨ g.nodes.contains id = true ∧ .nodeRemoved id ∉ old) := by
  rw [h.settle_pushes, Graph.contains_settle_added _ h.adds, ← h.stored, overtaken]
  refine or_congr_right ?_
  split
  · rename_i hfewer
    simp [hfewer, Table.contains, Graph.nodes_clear]
  · rename_i hall
    rw [g.contains_settle_owing (by omega)]
    simp [hall]

/-- **A node that the restore has placed** is lost if and only if it exists only here and a clearing
is under way that is not owed. -/
theorem node_stays_iff (h : Replaying base old g link added)
    (hold : ∀ p ∈ old, ∀ ch, p.change? = some ch → ch.IssuedBy base) (owed : Nat) {id : NodeId}
    (hid : g.nodes.contains id = true) :
    (g.settle (changesOwing (owed + 1) link.pushes)).nodes.contains id = true ↔
      ¬ (owed < old.countP (·.isClear) ∧ g.isLocalNode id = true) := by
  rw [h.contains_pushes owed id, h.tidy.nodeMarks, h.stored]
  obtain hlocal | hann := h.nodes id hid
  · have hkept : .nodeRemoved id ∉ old := fun hremoved =>
      (hold _ hremoved _ rfl).not_isLocalId_of_node hlocal
    have hnot : ¬ AnnouncesNode added id := fun hann =>
      h.not_isLocalId ((h.stored id).2 hann) hlocal
    simp [hlocal, hid, hkept, hnot]
  · have hnot : ¬ IsLocalId id := h.not_isLocalId ((h.stored id).2 hann)
    simp [hann, hnot]

omit [Scalar R] in
/-- What the queue before the restore does reaches no connection that exists only here. -/
theorem spares (h : Replaying base old g link added) {c : Connection}
    (hc : g.connections.get? id = some c) (hlocal : IsLocalId c.id) {ch : GraphChange R}
    (hissued : ch.IssuedBy base) : ch.Spares c := by
  cases ch with
  | link d =>
    intro heq
    exact hissued.1.not_isLocalId_of_conn (heq ▸ hlocal)
  | unlink k =>
    intro heq
    exact Issued.not_isLocalId_of_conn hissued (heq ▸ hlocal)
  | drop a =>
    refine Bool.eq_false_iff.2 fun htouches => ?_
    -- The ends are from here or new, and what was dropped has an older id.
    obtain ha | ⟨node, hmem, rfl⟩ := h.nodes a ((h.connections id c hc).2 a htouches)
    · exact Issued.not_isLocalId_of_node hissued ha
    · obtain ⟨k, hk, hid⟩ := h.adds _ hmem
      obtain ⟨j, hj, hid'⟩ := hissued
      have hsame : k = j := repr_injective ((String.append_right_inj _).1 (hid.symm.trans hid'))
      omega
  | put | patch | merge | wipe => trivial

omit [Scalar R] in
theorem not_isLocalId_connection (h : Replaying base old g link added)
    (hid : AnnouncesConnection added id) : ¬ IsLocalId id := by
  obtain ⟨c, hmem, rfl⟩ := hid
  exact (h.adds _ hmem).2.1

/-- **A connection that the restore has placed** is lost in the same case. -/
theorem connection_stays_iff (h : Replaying base old g link added)
    (hold : ∀ p ∈ old, ∀ ch, p.change? = some ch → ch.IssuedBy base) (owed : Nat)
    (hid : g.connections.contains id = true) :
    (g.settle (changesOwing (owed + 1) link.pushes)).connections.contains id = true ↔
      ¬ (owed < old.countP (·.isClear) ∧ g.isLocalConnection id = true) := by
  have hkeyed : (overtaken g old owed).Keyed := by
    rw [overtaken]
    split
    · exact (h.tidy.keyed.settle _).alter .wipe
    · exact h.tidy.keyed.settle _
  rw [h.settle_pushes, Graph.connections_settle_added hkeyed h.adds, h.tidy.connectionMarks]
  obtain ⟨c, hc⟩ := Table.contains_iff.1 hid
  obtain rfl := h.tidy.keyed id c hc
  obtain hlocal | hann := (h.connections c.id c hc).1
  · have hnot : ¬ AnnouncesConnection added c.id := fun hann =>
      h.not_isLocalId_connection hann hlocal
    rw [overtaken]
    split
    · rename_i hfewer
      simp [hfewer, hnot, hlocal, hc, Table.contains, Graph.connections_clear]
    · rename_i hall
      have hkept := Graph.connection_settle_owing h.tidy.keyed hc
        (show old.countP (·.isClear) ≤ owed + 1 by omega)
        fun p hp ch hch => h.spares hc hlocal (hold p hp ch hch)
      simp [hall, Table.contains, hkept]
  · have hnot : ¬ IsLocalId c.id := h.not_isLocalId_connection hann
    simp [hann, hnot]

omit [Scalar R] in
/-- What the replay adds to a queue can be applied. -/
theorem safe (h : Replaying base old g link added) (hold : ∀ p ∈ old, p.Safe) :
    ∀ p ∈ link.pushes, p.Safe := by
  intro p hp
  rw [h.pushes] at hp
  obtain hp | hp := List.mem_append.1 hp
  · exact hold p hp
  · obtain rfl | hp := List.mem_cons.1 hp
    · trivial
    · exact (h.adds p hp).safe

/-- All changes of the queue keep the graph tidy. -/
theorem tidy_settle (h : Replaying base old g link added)
    (hold : ∀ p ∈ old, ∀ ch, p.change? = some ch → ch.IssuedBy base) (owed : Nat) :
    (g.settle (changesOwing owed link.pushes)).Tidy := by
  refine h.tidy.settle fun ch hch => ?_
  obtain ⟨p, hp, hchange⟩ := exists_of_mem_changesOwing hch
  rw [h.pushes] at hp
  obtain hp | hp := List.mem_append.1 hp
  · exact (hold p hp ch hchange).addsIssued.remote
  · obtain rfl | hp := List.mem_cons.1 hp
    · cases hchange
      trivial
    · have hadds := h.adds p hp
      cases p with
      | nodeAdded node =>
        cases hchange
        obtain ⟨k, -, hk⟩ := hadds
        exact Issued.not_isLocalId_of_node ⟨k, Nat.le_refl k, hk⟩
      | connectionAdded c =>
        cases hchange
        exact hadds.2
      | _ => exact hadds.elim

/-- **The nodes of the backend are there in the end**, and of the others those that the old queue
leaves, unless a clearing comes after it that is not owed. -/
theorem remote_node_iff (h : Replaying base old g link added)
    (hold : ∀ p ∈ old, ∀ ch, p.change? = some ch → ch.IssuedBy base) (owed : Nat) {id : NodeId}
    (hid : (g.settle (changesOwing (owed + 1) link.pushes)).isLocalNode id = false) :
    (g.settle (changesOwing (owed + 1) link.pushes)).nodes.contains id = true ↔
      link.backend.nodes.contains id = true ∨
        ¬ owed < old.countP (·.isClear) ∧ Leaves old id := by
  have hmarks := (h.tidy_settle hold (owed + 1)).nodeMarks id
  rw [hid] at hmarks
  constructor
  · intro hpresent
    have hnot : ¬ IsLocalId id := fun hlocal => Bool.false_ne_true (hmarks.2 ⟨hlocal, hpresent⟩)
    obtain hstored | ⟨hall, hleft | ⟨hplaced, -⟩⟩ := (h.contains_pushes owed id).1 hpresent
    · exact .inl hstored
    · exact .inr ⟨hall, hleft⟩
    · exact .inl ((h.stored id).2 ((h.nodes id hplaced).resolve_left hnot))
  · intro hleft
    exact (h.contains_pushes owed id).2 (hleft.imp_right (And.imp_right .inl))

end Replaying

/-! ## Late deliveries -/

/-- More clearings are on their way than the client counts as announcements of its restores. -/
def World.overdue (w : LocalWorld R) : Bool :=
  w.canvas.saving.owedClears < w.remote.pushes.countP (·.isClear)

namespace Client

/-- The restore ends with the invariant of its replay. -/
theorem restoreSnapshot_replaying (s : Snapshot R) {w : LocalWorld R} (hw : w.Reachable)
    (hcleared : (w.remote.answer .clearCanvas).1.isOk = true) :
    (restoreSnapshot s : Program R MemoryStore RestoreReport).Ends Link.handle w fun _ w' =>
      ∃ base added, Replaying base w.remote.pushes w'.canvas.graph w'.remote added ∧
        (∀ p ∈ w.remote.pushes, ∀ ch, p.change? = some ch → ch.IssuedBy base) ∧
        w'.canvas.saving.owedClears = w.canvas.saving.owedClears + 1 ∧
        w'.canvas.saving.restoring = false := by
  rw [Link.handle_eq]
  refine (restoreSnapshot_ends s).mono fun report w' hend => ?_
  obtain ⟨-, hgraph, hremote, howed, hrestoring⟩ := hend
  have horderly := hw.orderly.answer .clearCanvas
  obtain ⟨cause, b', hanswer, -⟩ | ⟨b', hanswer, hnodes, -⟩ :=
    w.remote.clearCanvas_cases hw.orderly.subscribed
  · rw [hanswer] at hcleared
    cases hcleared
  · simp only [Link.answering, hanswer] at hgraph hremote howed horderly
    have hstart : Replaying b'.allocated w.remote.pushes w.canvas.graph.clear.1 { w.remote with
        backend := b', pushes := w.remote.pushes ++ [.canvasCleared] } [] :=
      .start hw.canvas.marksStored.blank_clear hw.orderly.subscribed rfl hnodes (Nat.le_refl _)
    obtain ⟨added, hreplaying⟩ := (Replaying.replayKeeps _ _ s).restore ⟨[], hstart⟩ w.ids
    rw [hgraph, hremote]
    exact ⟨_, added, hreplaying,
      fun p hp => horderly.issued p (List.mem_append_left _ hp), howed, hrestoring⟩

/-- **What late pushes do to a restore that is finished.** With the queue still to come, the restore
ends, and the pushes can all be delivered. Every node and every connection that it has placed is
there then, unless a clearing is overdue: that one uses up what the restore owes, and the
announcement of the restore's own clearing takes away what exists only here. And of the nodes that
are not from here those are there that the backend has and, unless a clearing is overdue, those that
the old queue leaves behind. -/
theorem restoreSnapshot_late_pushes (s : Snapshot R) (w : LocalWorld R) (hw : w.Reachable)
    (hcleared : (w.remote.answer .clearCanvas).1.isOk = true) :
    ∃ report w₁ n w₂, w.run (restoreSnapshot s) = .ok (report, w₁) ∧
      w₁.pump none = .ok (n, w₂) ∧ w₂.remote = { w₁.remote with pushes := [] } ∧
      (∀ id, w₁.canvas.graph.nodes.contains id = true →
        (w₂.canvas.graph.nodes.contains id = true ↔
          ¬ (w.overdue = true ∧ w₁.canvas.graph.isLocalNode id = true))) ∧
      (∀ id, w₁.canvas.graph.connections.contains id = true →
        (w₂.canvas.graph.connections.contains id = true ↔
          ¬ (w.overdue = true ∧ w₁.canvas.graph.isLocalConnection id = true))) ∧
      ∀ id, w₂.canvas.graph.isLocalNode id = false →
        (w₂.canvas.graph.nodes.contains id = true ↔
          w₂.remote.backend.nodes.contains id = true ∨
            w.overdue = false ∧ PushEvent.Leaves w.remote.pushes id) := by
  obtain ⟨report, w₁, hrun, base, added, hreplaying, hold, howed, hrestoring⟩ :=
    restoreSnapshot_replaying s hw hcleared
  have hsafe : ∀ p ∈ w₁.remote.pushes, p.Safe := hreplaying.safe hw.orderly.safe
  obtain ⟨w₂, hpump, ⟨hgraph, -, -⟩, hremote⟩ := World.applyAll_owing
    (w := { w₁ with remote := { w₁.remote with pushes := [] } }) w₁.remote.pushes hsafe hrestoring
  simp only [howed] at hgraph
  refine ⟨report, w₁, _, w₂, hrun, World.pump_none hpump, hremote, fun id hid => ?_,
    fun id hid => ?_, fun id hid => ?_⟩
  · rw [hgraph, hreplaying.node_stays_iff hold _ hid, World.overdue, decide_eq_true_iff]
  · rw [hgraph, hreplaying.connection_stays_iff hold _ hid, World.overdue, decide_eq_true_iff]
  · rw [hgraph] at hid ⊢
    rw [hreplaying.remote_node_iff hold _ hid, World.overdue, decide_eq_false_iff_not, hremote]

/-- A node to create. -/
def inputSpec : CreateNode Rat := { type := "input", position := .origin }

theorem restoreSnapshot_late_pushes_created :
    ∃ created w, freshWorld.run (createNode inputSpec).run = .ok (created, w) ∧ w.Reachable ∧
      w.remote.pushes.length = 1 ∧ (w.remote.answer .clearCanvas).1.isOk = true ∧
      ∃ report w₁ n w₂, w.run (restoreSnapshot singleSnapshot) = .ok (report, w₁) ∧
        w₁.pump none = .ok (n, w₂) ∧
        ∀ id, w₁.canvas.graph.nodes.contains id = true →
          w₂.canvas.graph.nodes.contains id = true := by
  have hruns : (freshWorld.run (createNode inputSpec).run).toOption.map (fun r =>
      (r.2.remote.pushes.length, (r.2.remote.answer .clearCanvas).1.isOk, r.2.overdue)) =
        some (1, true, false) := by
    decide +kernel
  cases hrun : freshWorld.run (createNode inputSpec).run with
  | error fault =>
    rw [hrun] at hruns
    cases hruns
  | ok r =>
    obtain ⟨created, w⟩ := r
    rw [hrun] at hruns
    simp only [Except.toOption, Option.map_some, Option.some.injEq, Prod.mk.injEq] at hruns
    obtain ⟨hlength, hcleared, hoverdue⟩ := hruns
    have hw : w.Reachable :=
      (World.reachable_initial {} .counting ⟨0, 0⟩).operate (.call (.createNode inputSpec)) trivial
        hrun
    obtain ⟨report, w₁, n, w₂, hrestore, hpump, -, hnodes, -⟩ :=
      restoreSnapshot_late_pushes singleSnapshot w hw hcleared
    refine ⟨created, w, rfl, hw, hlength, hcleared, report, w₁, n, w₂, hrestore, hpump,
      fun id hid => (hnodes id hid).2 ?_⟩
    simp [hoverdue]

/-- Late pushes do damage. A node that was announced before the restore comes back to a canvas whose
backend has it no more, and a clearing from before takes away a node that exists only here. -/
theorem late_pushes_damage_restore :
    (do
        let (_, w) ← freshWorld.run (createNode inputSpec).run
        let (_, w) ← w.run (restoreSnapshot singleSnapshot)
        return (← w.pump none).2 : Except OverlayFault (LocalWorld Rat)).toOption.map (fun w =>
      (w.canvas.graph.nodes.keys, w.remote.backend.nodes.keys)) =
      some (["node-1", "node-2"], ["node-2"]) ∧
    (do
        let (_, w) ← freshWorld.run clearCanvas.run
        let failures := [{ name := "create_node", error := .transport "refused" }]
        let backend := { w.remote.backend with failures }
        let (_, w) ← World.run { w with remote := { w.remote with backend } }
          (restoreSnapshot singleSnapshot)
        return (w, (← w.pump none).2) :
          Except OverlayFault (LocalWorld Rat × LocalWorld Rat)).toOption.map (fun ws =>
      (ws.1.canvas.graph.nodes.keys, ws.2.canvas.graph.nodes.keys)) =
      some (["local-00000000-0000-4000-8000-000000000001"], []) := by
  decide +kernel

end Client

end NodeCanvas
