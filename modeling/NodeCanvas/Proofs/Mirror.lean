import NodeCanvas.Proofs.Backend
import NodeCanvas.Proofs.Overtaking
/-!
# The client's graph as a mirror of the backend's

`Graph.Mirrors` relates a graph to a backend: apart from what exists only here they have the same
nodes, and every connection of the backend is in the graph. A connection of the graph that the
backend does not have is either ruled out or stranded, that is, one of its ends is a node that the
backend has deleted and whose id it will not give out again.

There is one lemma for each change of the backend. Its graph is the one that the change is announced
to; it may differ from the mirroring graph where the change was made there before, so that the same
lemmas serve for changes that are only announced and for changes that overtake queued pushes.
-/

namespace NodeCanvas

variable {R : Type} [Scalar R]

/-! ## Nodes -/

/-- A node of the client that stands for one of the backend. Parameters that no reading produces are
left out: a change set and a record update may differ on them. -/
structure NodeLike (n m : Node R) : Prop where
  id : n.id = m.id
  type : n.type = m.type
  position : Alike n.position m.position
  parameters : Bag.Decodable m.parameters → Alike n.parameters m.parameters
  metadata : Alike n.metadata m.metadata
  inputs : n.inputs = m.inputs
  outputs : n.outputs = m.outputs

namespace NodeLike

theorem refl (n : Node R) : NodeLike n n :=
  ⟨rfl, rfl, .refl _, fun _ => .refl _, .refl _, rfl, rfl⟩

theorem of_beq {n m : Node R} (h : (n == m) = true) : NodeLike n m := by
  cases n
  cases m
  change instBEqNode.beq _ _ = true at h
  simp only [instBEqNode.beq, Bool.and_eq_true, beq_iff_eq] at h
  obtain ⟨hid, htype, hposition, hparameters, hmetadata, hinputs, houtputs⟩ := h
  exact ⟨hid, htype, .inr hposition, fun _ => .inr hparameters, .inr hmetadata, hinputs, houtputs⟩

/-- What a part of a node becomes is alike to what it is overwritten by. -/
theorem alike_replace_getD {α : Type} [BEq α] {old stored : α} {new : Option α}
    (h : new = none → Alike old stored) :
    Alike (NodePatch.replace old new).1 (new.getD stored) := by
  cases new with
  | none => exact h rfl
  | some new => exact NodePatch.alike_replace old new

theorem eq_replace_getD {α : Type} [BEq α] [LawfulBEq α] {old stored : α} {new : Option α}
    (h : new = none → old = stored) : (NodePatch.replace old new).1 = new.getD stored :=
  alike_iff_eq.1 (alike_replace_getD fun hnew => .inl (h hnew))

/-- A patch makes a node stand for the overwritten one, if it stood for the old one outside of the
patched parts. -/
theorem patched {parts : NodePatch R} {n m stored : Node R} (h : NodeLike m stored)
    (hout : n.AgreeOutside parts m) : NodeLike (parts.apply n).1 (parts.overwrite stored) where
  id := hout.id.trans h.id
  type := eq_replace_getD fun hp => (hout.type hp).trans h.type
  position := alike_replace_getD fun hp => hout.position hp ▸ h.position
  parameters hdecodable := by
    refine alike_replace_getD fun hp => ?_
    rw [NodePatch.overwrite, hp] at hdecodable
    exact hout.parameters hp ▸ h.parameters hdecodable
  metadata := alike_replace_getD fun hp => hout.metadata hp ▸ h.metadata
  inputs := eq_replace_getD fun hp => (hout.inputs hp).trans h.inputs
  outputs := eq_replace_getD fun hp => (hout.outputs hp).trans h.outputs

end NodeLike

/-- The change set that announces new code changes the parameters only. -/
theorem patchOfChanges_recoding (n : Node R) (code : String) :
    Client.patchOfChanges n (Table.empty.insert "source_code" (.string code)) =
      { parameters := some (Bag.mergedWith n.parameters
          (Table.empty.insert "source_code" (.string code))) } := by
  rfl

/-- Parameters that are alike are so after new code is written into both. -/
theorem alike_recoded {p q : Parameters} (h : Alike p q) (code : String) :
    Alike (NodePatch.replace p (some { p with sourceCode := some code })).1
      { q with sourceCode := some code } := by
  rcases h with rfl | hbeq
  · exact NodePatch.alike_replace _ _
  · rw [NodePatch.replace]
    split
    · rename_i hsame
      obtain ⟨hname, -, hrest⟩ := Parameters.beq_iff.1 hbeq
      exact .inr (Parameters.beq_iff.2 ⟨hname, (Parameters.beq_iff.1 hsame).2.1, hrest⟩)
    · exact .inr (Parameters.beq_withSourceCode hbeq _)

/-- New code makes the same of a node here and there, as far as its parameters can be read. -/
theorem NodeLike.recoded {n m : Node R} (h : NodeLike n m) (code : String) :
    NodeLike ((Client.patchOfChanges n
      (Table.empty.insert "source_code" (.string code))).apply n).1 (Backend.withCode m code) := by
  rw [patchOfChanges_recoding, NodePatch.apply_fst]
  simp only [NodePatch.replace_none]
  refine ⟨h.id, h.type, h.position, fun hdecodable => ?_, h.metadata, h.inputs, h.outputs⟩
  have hm : LaidBag.Plain m.parameters := Parameters.plain_of_decodable_sourceCode hdecodable
  have halike := h.parameters (LaidBag.decodable_of_plain hm)
  have hn : LaidBag.Plain n.parameters := by
    rcases halike with heq | hbeq
    · exact heq ▸ hm
    · exact Parameters.plain_of_beq hbeq hm
  rw [Parameters.mergedWith_sourceCode hn]
  exact alike_recoded halike code

/-! ## New code -/

namespace Graph

theorem connections_merge (g : Graph R) (node : NodeId) (changes : Table Json) :
    (g.alter (.merge node changes)).connections = g.connections := by
  rw [alter]
  split
  · exact connections_patchNode _ _ _
  · rfl

theorem connections_settle_recoding (g : Graph R) (recoded : List (NodeId × String)) :
    (g.settle (recoded.map Backend.recoding)).connections = g.connections := by
  induction recoded generalizing g with
  | nil => rfl
  | cons entry recoded ih =>
    rw [List.map_cons, settle_cons, ih]
    exact connections_merge _ _ _

/-- Each node for which new code is announced gets it once. -/
theorem nodes_settle_recoding {recoded : List (NodeId × String)}
    (hnodup : (recoded.map (·.1)).Nodup) (g : Graph R) (id : NodeId) :
    (g.settle (recoded.map Backend.recoding)).nodes.get? id =
      match recoded.lookup id with
      | some code => (g.nodes.get? id).map fun n =>
        ((Client.patchOfChanges n (Table.empty.insert "source_code" (.string code))).apply n).1
      | none => g.nodes.get? id := by
  induction recoded generalizing g with
  | nil => rfl
  | cons entry recoded ih =>
    obtain ⟨a, code⟩ := entry
    rw [List.map_cons, List.nodup_cons] at hnodup
    rw [List.map_cons, settle_cons, ih hnodup.2, nodes_alter, Table.lookup_cons_eq_ite]
    simp only [Backend.recoding, GraphChange.onNode]
    by_cases hid : id = a
    · subst hid
      -- No later announcement is about the same node.
      rw [Table.lookup_eq_none_iff.2 hnodup.1, if_pos rfl, if_pos rfl]
    · rw [if_neg hid, if_neg hid]

end Graph

/-! ## What exists only here -/

namespace Graph

/-- Two graphs that differ at most in what exists only here. -/
def AgreeRemotely (g₁ g₂ : Graph R) : Prop :=
  g₁.AgreeOn (¬ IsLocalId ·)
    (fun id c => ¬ IsLocalId id ∧ ¬ IsLocalId c.source ∧ ¬ IsLocalId c.target) g₂

theorem AgreeRemotely.settle {g₁ g₂ : Graph R} (h : g₁.AgreeRemotely g₂) (hk₁ : g₁.Keyed)
    (hk₂ : g₂.Keyed) (changes : List (GraphChange R)) :
    (g₁.settle changes).AgreeRemotely (g₂.settle changes) := by
  refine AgreeOn.settle h hk₁ hk₂ fun a _ id c hc htouch => ?_
  -- A node with which such a connection goes is one of its ends, so it is not from here either.
  rw [Connection.touches, Bool.or_eq_true, beq_iff_eq, beq_iff_eq] at htouch
  obtain rfl | rfl := htouch
  · exact hc.2.1
  · exact hc.2.2

end Graph

/-! ## Mirrors -/

/-- A connection of which one end is a node that the backend once had. -/
def Backend.Strands (b : Backend R) (c : Connection) : Prop :=
  ∃ a, c.touches a = true ∧ Issued "node" b.allocated a ∧ b.nodes.contains a = false

omit [Scalar R] in
/-- What is stranded stays so, as no id is given out twice. -/
theorem Backend.Strands.of_effect {b b' : Backend R} {changes : List (GraphChange R)}
    {c : Connection} (h : b.Strands c) (heffect : b.Effect b' changes) : b'.Strands c := by
  obtain ⟨a, htouch, hissued, habsent⟩ := h
  refine ⟨a, htouch, hissued.mono heffect.allocated_le, ?_⟩
  have hnone : b.nodes.get? a = none := Option.not_isSome_iff_eq_none.1 (by
    rw [← Table.contains, habsent]
    simp)
  suffices hgoal : b'.nodes.get? a = none by rw [Table.contains, hgoal]; rfl
  cases heffect with
  | keep hnodes => rw [hnodes, hnone]
  | put node hid hnodes =>
    rw [hnodes, Table.get?_insert, if_neg, hnone]
    -- A new node has an id that was never given out.
    rw [hid]
    exact hissued.not_next
  | drop node hstored hnodes =>
    rw [hnodes, Table.get?_erase, hnone, ite_self]
  | patch k node parts hdecodable hk hnodes =>
    rw [hnodes, Table.get?_insert, if_neg, hnone]
    rintro rfl
    rw [hnone] at hk
    cases hk
  | recode spec hnodes =>
    rw [hnodes, Table.get?_mapValues, hnone]
    rfl
  | link c hid hsource htarget hloop hnodes => rw [hnodes, hnone]
  | unlink k hstored hnodes => rw [hnodes, hnone]
  | wipe hnodes => rw [hnodes]; rfl

/-- Apart from what exists only here, the graph is that of the backend; if one is lenient, up to
stranded connections. -/
structure Graph.Mirrors (lenient : Prop) (g : Graph R) (b : Backend R) : Prop where
  nodes : ∀ id, ¬ IsLocalId id → Option.Rel NodeLike (g.nodes.get? id) (b.nodes.get? id)
  covered : ∀ id c, b.connections.get? id = some c → g.connections.get? id = some c
  excess : ∀ id c, ¬ IsLocalId id → g.connections.get? id = some c →
    b.connections.get? id = some c ∨ lenient ∧ b.Strands c

namespace Graph.Mirrors

variable {lenient : Prop} {g g' : Graph R} {b b' : Backend R}

omit [Scalar R] in
/-- What is stranded, or nothing at all, stays in excess. -/
theorem excess_of_effect {changes : List (GraphChange R)} {id : ConnectionId} {c : Connection}
    (heffect : b.Effect b' changes)
    (h : b.connections.get? id = some c ∨ lenient ∧ b.Strands c)
    (hkept : b.connections.get? id = some c → b'.connections.get? id = some c) :
    b'.connections.get? id = some c ∨ lenient ∧ b'.Strands c :=
  h.imp hkept fun hstranded => ⟨hstranded.1, hstranded.2.of_effect heffect⟩

/-- The announcement of a new node puts it where it is not yet. -/
theorem put {node : Node R} (h : g.Mirrors lenient b) (heffect : b.Effect b' [.put node])
    (hnodes : b'.nodes = b.nodes.insert node.id node) (hconnections : b'.connections = b.connections)
    (hover : g'.AgreeOn (· ≠ node.id) (fun _ _ => True) g) (hk : g'.Keyed) :
    (g'.alter (.put node)).Mirrors lenient b' where
  nodes id hid := by
    rw [nodes_alter, hnodes, Table.get?_insert]
    simp only [GraphChange.onNode]
    by_cases hsame : id = node.id
    · rw [if_pos hsame, if_pos hsame]
      split
      -- What cannot be told from the announced node is kept as it is.
      · rename_i hbeq
        cases hstored : g'.nodes.get? id with
        | none =>
          rw [hstored] at hbeq
          cases hbeq
        | some n =>
          rw [hstored] at hbeq
          exact .some (.of_beq hbeq)
      · exact .some (.refl node)
    · rw [if_neg hsame, if_neg hsame, hover.nodes id hsame]
      exact h.nodes id hid
  covered id c hc := by
    rw [hconnections] at hc
    rw [connections_alter hk]
    exact (hover.connections id c trivial).2 (h.covered id c hc)
  excess id c hid hc := by
    rw [connections_alter hk] at hc
    refine excess_of_effect heffect
      (h.excess id c hid ((hover.connections id c trivial).1 hc)) fun hb => ?_
    rwa [hconnections]

/-- The announcement of a deletion takes along what was connected to the node, unless the node has
gone already: then connections that were announced after it stay behind, stranded. -/
theorem drop {node : NodeId} (h : g.Mirrors lenient b) (hs : b.Sound)
    (heffect : b.Effect b' [.drop node]) (hstored : b.nodes.contains node = true)
    (hnodes : b'.nodes = b.nodes.erase node)
    (hconnections : b'.connections = b.connections.filter fun _ c => !c.touches node)
    (hover : g'.AgreeOn (· ≠ node) (fun _ c => c.touches node = false) g) (hk : g'.Keyed)
    (hleft : lenient ∨ g'.nodes.contains node = true ∨
      ∀ id c, g'.connections.get? id = some c → c.touches node = false) :
    (g'.alter (.drop node)).Mirrors lenient b' where
  nodes id hid := by
    rw [nodes_alter, hnodes, Table.get?_erase]
    simp only [GraphChange.onNode]
    by_cases hsame : id = node
    · rw [if_pos hsame, if_pos hsame]
      exact .none
    · rw [if_neg hsame, if_neg hsame, hover.nodes id hsame]
      exact h.nodes id hid
  covered id c hc := by
    rw [hconnections, Table.get?_filter, Option.filter_eq_some_iff] at hc
    have htouch : c.touches node = false := by simpa using hc.2
    have hg' := (hover.connections id c htouch).2 (h.covered id c hc.1)
    rw [connections_alter hk, hg']
    simp [GraphChange.onConnection, Option.filter, htouch]
  excess id c hid hc := by
    have hg' : g'.connections.get? id = some c := by
      obtain hold | ⟨hlink, -⟩ := connection_of_alter hk hc
      · exact hold
      · cases hlink
    by_cases htouch : c.touches node = true
    -- A connection to the node is stranded, goes with it, or was never here.
    · obtain hlenient | hpresent | hnone := hleft
      · obtain ⟨n, hn⟩ := Table.contains_iff.1 hstored
        refine .inr ⟨hlenient, node, htouch,
          (hs.nodesIssued node n hn).mono heffect.allocated_le, ?_⟩
        rw [Table.contains, hnodes, Table.get?_erase, if_pos rfl]
        rfl
      · rw [connections_alter hk, GraphChange.onConnection, if_pos hpresent,
          Option.filter_eq_some_iff] at hc
        simp [htouch] at hc
      · rw [hnone id c hg'] at htouch
        cases htouch
    · rw [Bool.not_eq_true] at htouch
      refine excess_of_effect heffect
        (h.excess id c hid ((hover.connections id c htouch).1 hg')) fun hb => ?_
      rw [hconnections, Table.get?_filter, hb]
      simp [Option.filter, htouch]

/-- The announcement of a patch writes over the parts that the graph may differ in. -/
theorem patch {k : NodeId} {node : Node R} {parts : NodePatch R} (h : g.Mirrors lenient b)
    (heffect : b.Effect b' [.patch k parts]) (hstored : b.nodes.get? k = some node)
    (hnodes : b'.nodes = b.nodes.insert k (parts.overwrite node))
    (hconnections : b'.connections = b.connections) (hover : g'.PatchedAt k parts g)
    (hk : g'.Keyed) : (g'.alter (.patch k parts)).Mirrors lenient b' where
  nodes id hid := by
    rw [nodes_alter, hnodes, Table.get?_insert]
    simp only [GraphChange.onNode]
    by_cases hsame : id = k
    · subst hsame
      rw [if_pos rfl, if_pos rfl]
      have hlike := h.nodes id hid
      have hhere := hover.here
      -- The nodes may differ in the parts that are patched, and those are written on both sides.
      rw [hstored] at hlike
      generalize g.nodes.get? id = o, g'.nodes.get? id = o' at hlike hhere ⊢
      cases hlike with
      | some hlike =>
        cases hhere with
        | some hout => exact .some (hlike.patched hout)
    · rw [if_neg hsame, if_neg hsame, hover.elsewhere id hsame]
      exact h.nodes id hid
  covered id c hc := by
    rw [hconnections] at hc
    rw [connections_alter hk, hover.connections id]
    exact h.covered id c hc
  excess id c hid hc := by
    rw [connections_alter hk, hover.connections id] at hc
    refine excess_of_effect heffect (h.excess id c hid hc) fun hb => ?_
    rwa [hconnections]

/-- The announcement of a connection writes over what the graph has under its id. -/
theorem link {d : Connection} (h : g.Mirrors lenient b) (heffect : b.Effect b' [.link d])
    (hloop : d.source ≠ d.target) (hnodes : b'.nodes = b.nodes)
    (hconnections : b'.connections = b.connections.insert d.id d)
    (hover : g'.AgreeOn (fun _ => True) (fun id _ => id ≠ d.id) g) :
    (g'.alter (.link d)).Mirrors lenient b' := by
  have hnotLoop : d.isSelfLoop = false := by simpa [Connection.isSelfLoop] using hloop
  refine ⟨fun id hid => ?_, fun id c hc => ?_, fun id c hid hc => ?_⟩
  · rw [nodes_alter, hnodes]
    simp only [GraphChange.onNode, hover.nodes id trivial]
    exact h.nodes id hid
  · rw [hconnections, Table.get?_insert] at hc
    rw [connections_link]
    by_cases hsame : id = d.id
    · rw [if_pos ⟨hnotLoop, hsame⟩]
      rwa [if_pos hsame] at hc
    · rw [if_neg fun hand => hsame hand.2]
      rw [if_neg hsame] at hc
      exact (hover.connections id c hsame).2 (h.covered id c hc)
  · rw [connections_link] at hc
    by_cases hsame : id = d.id
    · rw [if_pos ⟨hnotLoop, hsame⟩] at hc
      rw [hconnections, Table.get?_insert, if_pos hsame]
      exact .inl hc
    · rw [if_neg fun hand => hsame hand.2] at hc
      refine excess_of_effect heffect
        (h.excess id c hid ((hover.connections id c hsame).1 hc)) fun hb => ?_
      rwa [hconnections, Table.get?_insert, if_neg hsame]

theorem unlink {k : ConnectionId} (h : g.Mirrors lenient b) (heffect : b.Effect b' [.unlink k])
    (hnodes : b'.nodes = b.nodes) (hconnections : b'.connections = b.connections.erase k)
    (hover : g'.AgreeOn (fun _ => True) (fun id _ => id ≠ k) g) (hk : g'.Keyed) :
    (g'.alter (.unlink k)).Mirrors lenient b' := by
  refine ⟨fun id hid => ?_, fun id c hc => ?_, fun id c hid hc => ?_⟩
  · rw [nodes_alter, hnodes]
    simp only [GraphChange.onNode, hover.nodes id trivial]
    exact h.nodes id hid
  · rw [hconnections, Table.get?_erase] at hc
    rw [connections_alter hk]
    simp only [GraphChange.onConnection]
    split at hc
    · cases hc
    · rename_i hdiff
      rw [if_neg hdiff]
      exact (hover.connections id c hdiff).2 (h.covered id c hc)
  · rw [connections_alter hk] at hc
    simp only [GraphChange.onConnection] at hc
    split at hc
    · cases hc
    · rename_i hdiff
      refine excess_of_effect heffect
        (h.excess id c hid ((hover.connections id c hdiff).1 hc)) fun hb => ?_
      rwa [hconnections, Table.get?_erase, if_neg hdiff]

/-- After the announcement of a clearing nothing is left, here and there. -/
theorem wipe (lenient : Prop) (g' : Graph R) (hnodes : b'.nodes = ∅)
    (hconnections : b'.connections = ∅) : (g'.alter .wipe).Mirrors lenient b' := by
  refine ⟨fun id _ => ?_, fun id c hc => ?_, fun id c _ hc => ?_⟩
  · rw [nodes_alter, hnodes]
    exact .none
  · rw [hconnections] at hc
    cases hc
  · rw [alter, connections_clear] at hc
    cases hc

/-- The announcements of new code are one for each node whose code changes. -/
theorem recode {spec : PatternRefactor} (h : g.Mirrors lenient b) (hs : b.Sound)
    (heffect : b.Effect b' ((b.recoded spec).map Backend.recoding))
    (hnodes : b'.nodes = b.nodes.mapValues fun _ node => Backend.recode spec node)
    (hconnections : b'.connections = b.connections) :
    (g.settle ((b.recoded spec).map Backend.recoding)).Mirrors lenient b' where
  nodes id hid := by
    -- The backend runs through its nodes, and the announcements through those whose code changes.
    have hlookup : (b.recoded spec).lookup id =
        (b.nodes.get? id).bind (Backend.refactored? spec) :=
      Table.lookup_filterMap_values hs.nodeIds _ id
    have hnodup : ((b.recoded spec).map (·.1)).Nodup :=
      Table.nodup_filterMap_values hs.nodeIds _
    have hlike := h.nodes id hid
    rw [nodes_settle_recoding hnodup, hlookup, hnodes, Table.get?_mapValues]
    generalize g.nodes.get? id = o, b.nodes.get? id = o' at hlike ⊢
    cases hlike with
    | none => exact .none
    | @some n m hlike =>
      rw [Option.bind_some, Option.map_some, Backend.recode]
      cases hcode : Backend.refactored? spec m with
      | none => exact .some hlike
      | some code => exact .some (hlike.recoded code)
  covered id c hc := by
    rw [hconnections] at hc
    rw [connections_settle_recoding]
    exact h.covered id c hc
  excess id c hid hc := by
    rw [connections_settle_recoding] at hc
    refine excess_of_effect heffect (h.excess id c hid hc) fun hb => ?_
    rwa [hconnections]

/-- **A graph that mirrors a backend does so after every change and its announcement.** -/
theorem announced {changes : List (GraphChange R)} (h : g.Mirrors lenient b) (hs : b.Sound)
    (hk : g.Keyed) (heffect : b.Effect b' changes) : (g.settle changes).Mirrors lenient b' := by
  cases heffect with
  | keep hnodes hconnections hallocated =>
    refine ⟨fun id hid => ?_, fun id c hc => ?_, fun id c hid hc => ?_⟩
    · rw [hnodes]
      exact h.nodes id hid
    · rw [hconnections] at hc
      exact h.covered id c hc
    · refine excess_of_effect (.keep hnodes hconnections hallocated) (h.excess id c hid hc) ?_
      intro hb
      rwa [hconnections]
  | put node hid hnodes hconnections hallocated =>
    exact h.put (.put node hid hnodes hconnections hallocated) hnodes hconnections (.refl _ _ g) hk
  | drop node hstored hnodes hconnections hallocated =>
    refine h.drop hs (.drop node hstored hnodes hconnections hallocated) hstored hnodes
      hconnections (.refl _ _ g) hk (.inr (.inl ?_))
    -- Nothing has overtaken the announcement, so the node is still here.
    rw [Table.contains_eq_of_rel (h.nodes node (hs.not_isLocalId hstored))]
    exact hstored
  | patch k node parts hdecodable hstored hnodes hconnections hallocated =>
    exact h.patch (.patch k node parts hdecodable hstored hnodes hconnections hallocated) hstored
      hnodes hconnections (.refl k parts g) hk
  | recode spec hnodes hconnections hallocated =>
    exact h.recode hs (.recode spec hnodes hconnections hallocated) hnodes hconnections
  | link c hid hsource htarget hloop hnodes hconnections hallocated =>
    exact h.link (.link c hid hsource htarget hloop hnodes hconnections hallocated) hloop hnodes
      hconnections (.refl _ _ g)
  | unlink k hstored hnodes hconnections hallocated =>
    exact h.unlink (.unlink k hstored hnodes hconnections hallocated) hnodes hconnections
      (.refl _ _ g) hk
  | wipe hnodes hconnections hallocated => exact .wipe lenient g hnodes hconnections

/-- What changes only what exists only here leaves a mirror a mirror. -/
theorem of_local (h : g.Mirrors lenient b) (hs : b.Sound) (ht : g'.Tidy)
    (hover : g'.AgreeRemotely g) : g'.Mirrors lenient b where
  nodes id hid := by
    rw [hover.nodes id hid]
    exact h.nodes id hid
  covered id c hc := by
    obtain ⟨hsource, htarget, -⟩ := hs.ends id c hc
    exact (hover.connections id c ⟨(hs.connectionsIssued id c hc).not_isLocalId_of_conn,
      hs.not_isLocalId hsource, hs.not_isLocalId htarget⟩).2 (h.covered id c hc)
  excess id c hid hc :=
    h.excess id c hid ((hover.connections id c ⟨hid, ht.remoteEnds id c hc hid⟩).1 hc)

end Graph.Mirrors

end NodeCanvas
