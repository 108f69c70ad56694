import NodeCanvas.Proofs.Mirror
/-!
# A client that follows its backend

`Following` is the invariant of a client with its backend and the changes that are announced but not
yet delivered: once they are, the graph will mirror the backend. The rest of it is what makes the
steps go through: announced nodes are new, so that nothing here is put twice.

One step is the delivery of an announcement (`Following.deliver`), something that the backend does and
announces (`Following.announce`), a change that it accepts and that is made here at once
(`Following.commit`), or a change of what exists only here (`Following.changeHere`,
`Following.connectHere`). The hard one is the third, where the change is made here before
announcements that are older than it.
-/

namespace NodeCanvas

variable {R : Type} [Scalar R] {b : Backend R} {g : Graph R}

/-- The id of the node that a change puts, if it does. -/
def GraphChange.putId? : GraphChange R → Option NodeId
  | .put node => some node.id
  | _ => none

/-- A client with this graph follows a backend that has announced these changes. -/
structure Following (lenient : Prop) (g : Graph R) (changes : List (GraphChange R))
    (b : Backend R) : Prop where
  tidy : g.Tidy
  sound : b.Sound
  remote : ∀ ch ∈ changes, ch.Remote
  known : ∀ id, g.nodes.contains id = true → IsLocalId id ∨ Issued "node" b.allocated id
  announced : ∀ n, .put n ∈ changes → Issued "node" b.allocated n.id
  once : (changes.filterMap GraphChange.putId?).Nodup
  unstored : ∀ n, .put n ∈ changes → g.nodes.contains n.id = false
  mirrors : (g.settle changes).Mirrors lenient b

/-- A client whose graph mirrors its backend follows it, with nothing announced. -/
theorem Following.of_mirrors {lenient : Prop} (ht : g.Tidy)
    (hs : b.Sound) (hm : g.Mirrors lenient b) : Following lenient g [] b where
  tidy := ht
  sound := hs
  remote := by simp
  known id hid := by
    by_cases hlocal : IsLocalId id
    · exact .inl hlocal
    · rw [Table.contains_eq_of_rel (hm.nodes id hlocal)] at hid
      obtain ⟨n, hn⟩ := Table.contains_iff.1 hid
      exact .inr (hs.nodesIssued id n hn)
  announced := by simp
  once := by simp
  unstored := by simp
  mirrors := hm

/-- Two empty sides, to begin with. -/
theorem Following.empty (lenient : Prop) (hnodes : b.nodes = ∅)
    (hconnections : b.connections = ∅) : Following lenient {} [] b :=
  .of_mirrors (Graph.tidy_empty 0) (Backend.sound_of_isEmpty hnodes hconnections)
    (.wipe lenient {} hnodes hconnections)

/-- A change that is made here alone. -/
def GraphChange.Local : GraphChange R → Prop
  | .drop node => IsLocalId node
  | .patch node _ => IsLocalId node
  | .unlink connection => IsLocalId connection
  | _ => False

omit [Scalar R] in
theorem GraphChange.Local.remote {ch : GraphChange R} (h : ch.Local) : ch.Remote := by
  cases ch with
  | put | link => exact h.elim
  | _ => trivial

/-- A change that is made here as soon as the backend accepts it. -/
def GraphChange.Early (g : Graph R) : GraphChange R → Prop
  | .patch node _ | .drop node => g.nodes.contains node = true
  | .unlink _ | .wipe => True
  | _ => False

/-! ## Bookkeeping -/

/-- Only putting a node adds one. -/
theorem Graph.contains_of_alter {ch : GraphChange R} {id : NodeId}
    (h : (g.alter ch).nodes.contains id = true) :
    g.nodes.contains id = true ∨ ch.putId? = some id := by
  rw [Table.contains, nodes_alter] at h
  rw [Table.contains]
  cases ch with
  | put node =>
    simp only [GraphChange.onNode] at h
    split at h
    · rename_i hid
      exact .inr (congrArg some hid.symm)
    · exact .inl h
  | drop node =>
    simp only [GraphChange.onNode] at h
    split at h
    · cases h
    · exact .inl h
  | patch node parts =>
    simp only [GraphChange.onNode] at h
    split at h
    · rw [Option.isSome_map] at h
      exact .inl h
    · exact .inl h
  | merge node changes =>
    simp only [GraphChange.onNode] at h
    split at h
    · rw [Option.isSome_map] at h
      exact .inl h
    · exact .inl h
  | link _ => exact .inl h
  | unlink _ => exact .inl h
  | wipe => cases h

omit [Scalar R] in
theorem mem_filterMap_putId? {changes : List (GraphChange R)} {id : NodeId} :
    id ∈ changes.filterMap GraphChange.putId? ↔ ∃ n, .put n ∈ changes ∧ n.id = id := by
  rw [List.mem_filterMap]
  constructor
  · rintro ⟨ch, hch, hid⟩
    cases ch with
    | put node => exact ⟨node, hch, Option.some.inj hid⟩
    | _ => cases hid
  · rintro ⟨n, hn, rfl⟩
    exact ⟨.put n, hn, rfl⟩

omit [Scalar R] in
/-- At most one node is announced at a time, and it has a new id. -/
theorem Backend.Effect.putIds {b' : Backend R} {changes : List (GraphChange R)}
    (h : b.Effect b' changes) :
    changes.filterMap GraphChange.putId? = [] ∨
      changes.filterMap GraphChange.putId? = ["node" ++ "-" ++ Nat.repr (b.allocated + 1)] ∧
        b'.allocated = b.allocated + 1 := by
  cases h with
  | put node hid hnodes hconnections hallocated =>
    refine .inr ⟨?_, hallocated⟩
    rw [← hid]
    rfl
  | recode spec =>
    refine .inl (List.filterMap_eq_nil_iff.2 fun ch hch => ?_)
    obtain ⟨entry, _, rfl⟩ := List.mem_map.1 hch
    rfl
  | keep | drop | patch | link | unlink | wipe => exact .inl rfl

omit [Scalar R] in
theorem Backend.Effect.id_of_put {b' : Backend R} {changes : List (GraphChange R)} {n : Node R}
    (h : b.Effect b' changes) (hn : .put n ∈ changes) :
    n.id = "node" ++ "-" ++ Nat.repr (b.allocated + 1) ∧ b'.allocated = b.allocated + 1 := by
  have hmem := mem_filterMap_putId?.2 ⟨n, hn, rfl⟩
  obtain hnone | ⟨hone, hallocated⟩ := h.putIds
  · rw [hnone] at hmem
    cases hmem
  · rw [hone, List.mem_singleton] at hmem
    exact ⟨hmem, hallocated⟩

/-- If no connection touches a node and none that does is announced, none ever will. -/
theorem Graph.untouched_settle (hk : g.Keyed) {a : NodeId} {changes : List (GraphChange R)}
    (h : ∀ id c, g.connections.get? id = some c → c.touches a = false)
    (hlink : ∀ c, .link c ∈ changes → c.touches a = false) :
    ∀ id c, (g.settle changes).connections.get? id = some c → c.touches a = false := by
  induction changes generalizing g with
  | nil => exact h
  | cons ch changes ih =>
    refine ih (hk.alter ch) (fun id c hc => ?_) fun c hc => hlink c (List.mem_cons_of_mem ch hc)
    obtain hold | ⟨rfl, -⟩ := connection_of_alter hk hc
    · exact h id c hold
    · exact hlink c List.mem_cons_self

namespace Following

variable {lenient : Prop} {g : Graph R} {changes : List (GraphChange R)} {b b' : Backend R}
  {ch : GraphChange R}

/-- **Delivery.** Making the oldest announced change keeps the client following. -/
theorem deliver (h : Following lenient g (ch :: changes) b) :
    Following lenient (g.alter ch) changes b where
  tidy := h.tidy.alter (h.remote ch List.mem_cons_self)
  sound := h.sound
  remote ch' hch' := h.remote ch' (List.mem_cons_of_mem ch hch')
  known id hid := by
    obtain hold | hput := Graph.contains_of_alter hid
    · exact h.known id hold
    · cases ch with
      | put node =>
        cases hput
        exact .inr (h.announced node List.mem_cons_self)
      | _ => cases hput
  announced n hn := h.announced n (List.mem_cons_of_mem ch hn)
  once := by
    have honce := h.once
    rw [List.filterMap_cons] at honce
    split at honce
    · exact honce
    · exact (List.nodup_cons.1 honce).2
  unstored n hn := by
    rw [← Bool.not_eq_true]
    intro hstored
    -- Whatever is on the canvas now was there before or has just been put, and no id is put twice.
    obtain hold | hput := Graph.contains_of_alter hstored
    · rw [h.unstored n (List.mem_cons_of_mem ch hn)] at hold
      cases hold
    · have honce := h.once
      rw [List.filterMap_cons, hput] at honce
      exact (List.nodup_cons.1 honce).1 (mem_filterMap_putId?.2 ⟨n, hn, rfl⟩)
  mirrors := h.mirrors

theorem settle {later : List (GraphChange R)} (h : Following lenient g (changes ++ later) b) :
    Following lenient (g.settle changes) later b := by
  induction changes generalizing g with
  | nil => exact h
  | cons ch changes ih => exact ih h.deliver

/-- **Announcement.** What the backend does and announces keeps the client following. -/
theorem announce {new : List (GraphChange R)} (h : Following lenient g changes b)
    (heffect : b.Effect b' new) : Following lenient g (changes ++ new) b' where
  tidy := h.tidy
  sound := h.sound.of_effect heffect
  remote ch hch := by
    obtain hch | hch := List.mem_append.1 hch
    · exact h.remote ch hch
    · exact heffect.remote h.sound ch hch
  known id hid := (h.known id hid).imp_right fun hissued => hissued.mono heffect.allocated_le
  announced n hn := by
    obtain hn | hn := List.mem_append.1 hn
    · exact (h.announced n hn).mono heffect.allocated_le
    · obtain ⟨hid, hallocated⟩ := heffect.id_of_put hn
      rw [hid, hallocated]
      exact .next _ _
  once := by
    rw [List.filterMap_append]
    obtain hnone | ⟨hone, -⟩ := heffect.putIds
    · rw [hnone, List.append_nil]
      exact h.once
    · rw [hone, List.nodup_append]
      -- A new id is none of those that wait to be announced.
      refine ⟨h.once, List.nodup_singleton _, fun id hid id' hid' => ?_⟩
      obtain ⟨n, hn, rfl⟩ := mem_filterMap_putId?.1 hid
      rw [List.mem_singleton.1 hid']
      exact (h.announced n hn).not_next
  unstored n hn := by
    obtain hn | hn := List.mem_append.1 hn
    · exact h.unstored n hn
    · -- What is on the canvas is from here or has an id that was given out before.
      rw [(heffect.id_of_put hn).1, ← Bool.not_eq_true]
      intro hstored
      obtain hlocal | hissued := h.known _ hstored
      · exact (Issued.next "node" b.allocated).not_isLocalId_of_node hlocal
      · exact hissued.not_next rfl
  mirrors := by
    rw [Graph.settle_append]
    exact h.mirrors.announced h.sound (h.tidy.keyed.settle changes) heffect

/-- A change here that puts no node keeps all but what is to be mirrored. -/
theorem change (h : Following lenient g changes b) (hremote : ch.Remote)
    (hput : ch.putId? = none) (hmirrors : ((g.alter ch).settle changes).Mirrors lenient b) :
    Following lenient (g.alter ch) changes b where
  tidy := h.tidy.alter hremote
  sound := h.sound
  remote := h.remote
  known id hid := by
    obtain hold | hnew := Graph.contains_of_alter hid
    · exact h.known id hold
    · rw [hput] at hnew
      cases hnew
  announced := h.announced
  once := h.once
  unstored n hn := by
    rw [← Bool.not_eq_true]
    intro hstored
    obtain hold | hnew := Graph.contains_of_alter hstored
    · rw [h.unstored n hn] at hold
      cases hold
    · rw [hput] at hnew
      cases hnew
  mirrors := hmirrors

/-- **Overtaking.** A change that the backend accepts may be made here before the announcements that
are still queued, and once more when it is announced itself. A deleted node may leave connections
behind that are announced only after it has gone. -/
theorem commit (h : Following lenient g changes b)
    (heffect : b.Effect b' [ch]) (hearly : ch.Early g)
    (hleft : ∀ a, ch = .drop a → lenient ∨ ∀ c, .link c ∈ changes → c.touches a = false) :
    Following lenient (g.alter ch) (changes ++ [ch]) b' := by
  have hk := h.tidy.keyed
  have hk' := hk.alter ch
  have hput : ch.putId? = none := by
    cases ch with
    | put => exact hearly.elim
    | _ => rfl
  refine (h.announce heffect).change (heffect.remote h.sound ch List.mem_cons_self) hput ?_
  -- The change is made before the queue and once more after it. Only the changes below are made
  -- early; `hover` compares what the queue makes of the graph with and without them.
  rw [Graph.settle_append]
  generalize hchanges : [ch] = new at heffect
  cases heffect with
  | keep => cases hchanges
  | put node =>
    cases hchanges
    exact hearly.elim
  | link c =>
    cases hchanges
    exact hearly.elim
  | recode spec =>
    obtain ⟨entry, _, hentry⟩ := List.mem_map.1 (hchanges ▸ List.mem_cons_self : ch ∈ _)
    rw [← hentry] at hearly
    exact hearly.elim
  | drop a hstored hnodes hconnections hallocated =>
    cases hchanges
    have hpresent : g.nodes.contains a = true := hearly
    have hover : ((g.alter (.drop a)).settle changes).AgreeOn (· ≠ a)
        (fun _ c => c.touches a = false) (g.settle changes) := by
      refine (Graph.agreeOn_drop hk a).settle hk' hk ?_
      rintro a' - id c htouch htouch' rfl
      rw [htouch] at htouch'
      cases htouch'
    -- The cascade has run here already; only what is linked later can be left behind.
    refine h.mirrors.drop h.sound (.drop a hstored hnodes hconnections hallocated) hstored hnodes
      hconnections hover (hk'.settle changes) ?_
    refine (hleft a rfl).imp_right fun hlink => .inr (Graph.untouched_settle hk' ?_ hlink)
    intro id c hc
    rw [Graph.connections_alter hk, GraphChange.onConnection, if_pos hpresent,
      Option.filter_eq_some_iff] at hc
    simpa using hc.2
  | patch k node parts hdecodable hstored hnodes hconnections hallocated =>
    cases hchanges
    have hpresent : g.nodes.contains k = true := hearly
    have hover : ((g.alter (.patch k parts)).settle changes).PatchedAt k parts
        (g.settle changes) := by
      refine (Graph.patchedAt_patch g k parts).settle hk' hk ?_
      -- The node is on the canvas, so it is none of those that wait to be announced.
      rintro n hn rfl
      rw [h.unstored n hn] at hpresent
      cases hpresent
    exact h.mirrors.patch (.patch k node parts hdecodable hstored hnodes hconnections hallocated)
      hstored hnodes hconnections hover (hk'.settle changes)
  | unlink k hstored hnodes hconnections hallocated =>
    cases hchanges
    have hover : ((g.alter (.unlink k)).settle changes).AgreeOn (fun _ => True)
        (fun id _ => id ≠ k) (g.settle changes) :=
      (Graph.agreeOn_unlink hk k).settle hk' hk fun _ _ _ _ _ _ => trivial
    exact h.mirrors.unlink (.unlink k hstored hnodes hconnections hallocated) hnodes hconnections
      hover (hk'.settle changes)
  | wipe hnodes hconnections hallocated =>
    cases hchanges
    exact .wipe lenient _ hnodes hconnections

/-- A change of what exists only here. -/
theorem changeHere (h : Following lenient g changes b) (hlocal : ch.Local) :
    Following lenient (g.alter ch) changes b := by
  have hk := h.tidy.keyed
  have hremote := hlocal.remote
  have hput : ch.putId? = none := by
    cases ch with
    | put => exact hlocal.elim
    | _ => rfl
  have hover : (g.alter ch).AgreeRemotely g := by
    cases ch with
    | put | merge | link | wipe => exact hlocal.elim
    | drop a =>
      refine (Graph.agreeOn_drop hk a).mono ?_ ?_
      · rintro id hid rfl
        exact hid hlocal
      · rintro id c ⟨-, hsource, htarget⟩
        have hne : c.source ≠ a ∧ c.target ≠ a :=
          ⟨fun heq => hsource (heq ▸ hlocal), fun heq => htarget (heq ▸ hlocal)⟩
        simp [Connection.touches, hne]
    | patch k parts =>
      refine .mk (fun id hid => (Graph.patchedAt_patch g k parts).elsewhere id ?_) fun id c _ => ?_
      · rintro rfl
        exact hid hlocal
      · rw [(Graph.patchedAt_patch g k parts).connections id]
    | unlink k =>
      refine (Graph.agreeOn_unlink hk k).mono (fun _ _ => trivial) ?_
      rintro id c ⟨hid, -⟩ rfl
      exact hid hlocal
  exact h.change hremote hput (h.mirrors.of_local h.sound
    ((h.tidy.alter hremote).settle h.remote) (hover.settle (hk.alter ch) hk changes))

/-- A connection that exists only here. -/
theorem connectHere {c : Connection} (h : Following lenient g changes b) (hid : IsLocalId c.id)
    (hloop : c.isSelfLoop = false) :
    Following lenient ((g.alter (.link c)).markLocalConnection c.id) changes b := by
  have hk := h.tidy.keyed
  have htidy := h.tidy.linkHere hid hloop
  have hcontains : ∀ id, ((g.alter (.link c)).markLocalConnection c.id).nodes.contains id =
      g.nodes.contains id := by
    intro id
    change (g.alter (.link c)).nodes.contains id = _
    rw [Graph.nodes_link]
  have hover : ((g.alter (.link c)).markLocalConnection c.id).AgreeRemotely g := by
    refine Graph.AgreeOn.mono ⟨(Graph.agreeOn_link hk c).nodes, (Graph.agreeOn_link hk c).connections⟩
      (fun _ _ => trivial) ?_
    rintro id d ⟨hid', -⟩ rfl
    exact hid' hid
  refine ⟨htidy, h.sound, h.remote, fun id hstored => ?_, h.announced, h.once, fun n hn => ?_,
    h.mirrors.of_local h.sound (htidy.settle h.remote) (hover.settle htidy.keyed hk changes)⟩
  · rw [hcontains] at hstored
    exact h.known id hstored
  · rw [hcontains]
    exact h.unstored n hn

end Following

end NodeCanvas
