import NodeCanvas.Proofs.Readers
/-!
# Documents keyed by id

In a document that lists nodes and connections under keys, the key stands in for an id that is
missing. For a node this is so whenever none of its fields gives an id. A connection first draws an
id and takes the key instead only if no field for an id is there at all; where one is there and holds
neither a text nor a number, the id that was drawn stays (`Import.isMisnamed`). These are the only ids
in such a document that come from the source of identifiers (`keyed_ids_iff`).
-/

namespace NodeCanvas

namespace Import

/-! ## Readers that follow a source -/

/-- What a reader makes of each item, where that is known for the sources that it may meet. -/
theorem filterItems_of_keeps {α β : Type} {read : α → Drawing (Option β)} {f : α → Option β}
    {items : List α} (kept : IdSource → Prop)
    (h : ∀ item ∈ items, ∀ ids, kept ids →
      ((read item).run ids).1 = f item ∧ kept ((read item).run ids).2)
    {ids : IdSource} (hids : kept ids) :
    ((filterItems read items).run ids).1 = items.filterMap f := by
  induction items generalizing ids with
  | nil => rfl
  | cons item items ih =>
    rw [List.forall_mem_cons] at h
    obtain ⟨hfirst, hrest⟩ := h.1 ids hids
    change (((read item).run ids).1.map
      (· :: ((filterItems read items).run ((read item).run ids).2).1)).getD
        ((filterItems read items).run ((read item).run ids).2).1 = _
    rw [hfirst, ih h.2 hrest]
    cases hf : f item with
    | none => rw [List.filterMap_cons_none hf, Option.map_none, Option.getD_none]
    | some b => rw [List.filterMap_cons_some hf, Option.map_some, Option.getD_some]

/-- Readers that accept the same items and make the same list of them make the same of each. -/
theorem eq_of_filterMap_eq {α β : Type} {f g : α → Option β} {items : List α}
    (hsome : ∀ item ∈ items, (f item).isSome = (g item).isSome)
    (h : items.filterMap f = items.filterMap g) : ∀ item ∈ items, f item = g item := by
  induction items with
  | nil =>
    intro item hitem
    cases hitem
  | cons item items ih =>
    rw [List.forall_mem_cons] at hsome ⊢
    cases hf : f item with
    | none =>
      have hg : g item = none := by simpa [hf] using hsome.1
      rw [List.filterMap_cons_none hf, List.filterMap_cons_none hg] at h
      exact ⟨hg.symm, ih hsome.2 h⟩
    | some b =>
      obtain ⟨c, hg⟩ : ∃ c, g item = some c := by
        rw [← Option.isSome_iff_exists, ← hsome.1, hf, Option.isSome_some]
      rw [List.filterMap_cons_some hf, List.filterMap_cons_some hg, List.cons.injEq] at h
      exact ⟨by rw [hg, h.1], ih hsome.2 h.2⟩

/-! ## Ids of entries -/

/-- The id of an entry: one of its own fields if that holds a text or a number, else its key. What is
no object has none. -/
def entryId (names : List String) (entry : String × Json) : Option String :=
  match entry.2 with
  | .object fields => some ((textField fields names).getD entry.1)
  | _ => none

/-- Whether a value is a connection: an object that names two ends. -/
def isConnection : Json → Bool
  | .object fields =>
    (textField fields sourceNames).isSome && (textField fields targetNames).isSome
  | _ => false

/-- Whether an object has a field for the id of a connection. -/
def hasId (fields : List (String × Json)) : Bool :=
  (fields.lookup "id").isSome || (fields.lookup "connection_id").isSome

/-- Whether a value is a connection with a field for an id, but with none that holds a text or a
number. -/
def isMisnamed : Json → Bool
  | .object fields =>
    isConnection (.object fields) && hasId fields && (textField fields connectionIdNames).isNone
  | _ => false

theorem textField_of_not_hasId {fields : List (String × Json)} (h : hasId fields = false) :
    textField fields connectionIdNames = none := by
  simp only [hasId, Bool.or_eq_false_iff, Option.isSome_eq_false_iff, Option.isNone_iff_eq_none] at h
  simp [textField, connectionIdNames, h.1, h.2]

/-- With a key there is no need for a new id. -/
theorem idOr_some (found : Option String) (key : String) :
    idOr found (some key) = pure (found.getD key) := by
  cases found <;> rfl

theorem exists_keyedNode {R : Type} [Scalar R] (entry : String × Json) :
    ∃ found : Option (Node R), (∀ ids, (node entry.2 (some entry.1)).run ids = (found, ids)) ∧
      found.map (·.id) = entryId nodeIdNames entry := by
  obtain ⟨key, value⟩ := entry
  cases value with
  | object fields =>
    simp only [node, idOr_some, pure_bind]
    exact ⟨_, fun _ => rfl, rfl⟩
  | null | bool _ | number _ | string _ | array _ => exact ⟨none, fun _ => rfl, rfl⟩

/-- What is read of a connection under a key. -/
theorem keyedConnection_object {fields : List (String × Json)} {source target : String}
    (hsource : textField fields sourceNames = some source)
    (htarget : textField fields targetNames = some target) (key : String) :
    keyedConnection key (.object fields) = (do
      let drawn ← idOr (textField fields connectionIdNames) none
      return some {
        id := if hasId fields then drawn else key
        source
        sourcePort := (textField fields sourcePortNames).getD "output"
        target
        targetPort := (textField fields targetPortNames).getD "input"
        dataType := (textField fields ["data_type", "dataType"]).filter
          fun t => t ≠ "" ∧ t ≠ "None" }) := by
  have habsent : ((Json.object fields).get? "id").isNone = true ∧
      ((Json.object fields).get? "connection_id").isNone = true ↔ hasId fields = false := by
    simp [Json.get?, hasId, Option.isNone_iff_eq_none]
  simp only [keyedConnection, connection, hsource, htarget, bind_assoc, pure_bind, habsent]
  cases hasId fields <;> rfl

/-- **What a key does for a connection.** Unless the connection is misnamed, it has the id of the
entry whatever the source. A misnamed one has the next id of the source. -/
theorem keyedConnection_cases (entry : String × Json) :
    (isMisnamed entry.2 = false ∧
        ∃ found, (∀ ids, ((keyedConnection entry.1 entry.2).run ids).1 = found) ∧
          found.map (·.id) =
            if isConnection entry.2 then entryId connectionIdNames entry else none) ∨
      (isMisnamed entry.2 = true ∧
        ∀ ids, ((keyedConnection entry.1 entry.2).run ids).1.map (·.id) =
          some (ids.name ids.drawn)) := by
  obtain ⟨key, value⟩ := entry
  cases value with
  | object fields =>
    cases hends : isConnection (.object fields) with
    | false =>
      have hnone : ∀ ids, ((keyedConnection key (.object fields)).run ids).1 = none := by
        intro ids
        simp only [keyedConnection, connection]
        split
        · rename_i source target hsource htarget
          simp [isConnection, hsource, htarget] at hends
        · rfl
      exact .inl ⟨by simp [isMisnamed, hends], none, hnone, by simp⟩
    | true =>
      have hfound := hends
      simp only [isConnection, Bool.and_eq_true, Option.isSome_iff_exists] at hfound
      obtain ⟨⟨source, hsource⟩, target, htarget⟩ := hfound
      simp only [keyedConnection_object hsource htarget, isMisnamed, hends, entryId, if_true]
      cases hid : textField fields connectionIdNames with
      | some id =>
        have hhas : hasId fields = true := by
          cases hhas : hasId fields with
          | true => rfl
          | false => cases hid.symm.trans (textField_of_not_hasId hhas)
        simp only [hhas]
        exact .inl ⟨rfl, _, fun _ => rfl, rfl⟩
      | none =>
        cases hasId fields with
        | false =>
          simp only [Bool.false_eq_true, if_false]
          exact .inl ⟨rfl, _, fun _ => rfl, rfl⟩
        | true => exact .inr ⟨rfl, fun _ => rfl⟩
  | null | bool _ | number _ | string _ | array _ =>
    exact .inl ⟨rfl, none, fun _ => rfl, rfl⟩

/-! ## Telling sources apart -/

/-- A source that gives the same id over and over. -/
def constant (id : String) : IdSource := ⟨fun _ => id, 0⟩

/-- A connection depends on the next id of the source only, and leaves the ids of the source as they
are. -/
theorem keyedConnection_congr (entry : String × Json) {ids ids' : IdSource}
    (h : ids.name ids.drawn = ids'.name ids'.drawn) :
    ((keyedConnection entry.1 entry.2).run ids).1 =
        ((keyedConnection entry.1 entry.2).run ids').1 ∧
      ((keyedConnection entry.1 entry.2).run ids).2.name = ids.name := by
  obtain ⟨key, value⟩ := entry
  cases value with
  | object fields =>
    cases hsource : textField fields sourceNames with
    | none =>
      simp only [keyedConnection, connection, hsource]
      exact ⟨rfl, rfl⟩
    | some source =>
      cases htarget : textField fields targetNames with
      | none =>
        simp only [keyedConnection, connection, hsource, htarget]
        exact ⟨rfl, rfl⟩
      | some target =>
        simp only [keyedConnection_object hsource htarget]
        cases textField fields connectionIdNames with
        | some id => exact ⟨rfl, rfl⟩
        | none =>
          have hdrawn : ∀ ids : IdSource, (idOr none none).run ids =
              (ids.name ids.drawn, { ids with drawn := ids.drawn + 1 }) := fun _ => rfl
          rw [Drawing.run_bind (hdrawn ids), Drawing.run_bind (hdrawn ids'), h]
          exact ⟨rfl, rfl⟩
  | null | bool _ | number _ | string _ | array _ => exact ⟨rfl, rfl⟩

/-- The connections that are made with a constant source, entry by entry. -/
theorem keyedConnections_constant (entries : List (String × Json)) (id : String) :
    ((filterItems (fun entry => keyedConnection entry.1 entry.2) entries).run (constant id)).1 =
      entries.filterMap fun entry =>
        ((keyedConnection entry.1 entry.2).run (constant id)).1 := by
  refine filterItems_of_keeps (fun ids => ∀ n, ids.name n = id)
    (fun entry _ ids hids => ?_) fun _ => rfl
  have hnext : ids.name ids.drawn = (constant id).name (constant id).drawn := hids ids.drawn
  obtain ⟨hsame, hname⟩ := keyedConnection_congr entry hnext
  exact ⟨hsame, fun n => by rw [hname, hids]⟩

/-- **A misnamed connection gives a source away**: it has another id with another source. -/
theorem not_misnamed_of_constant {entries : List (String × Json)}
    (h : ((filterItems (fun entry => keyedConnection entry.1 entry.2) entries).run
        (constant "a")).1.map (·.id) =
      ((filterItems (fun entry => keyedConnection entry.1 entry.2) entries).run
        (constant "b")).1.map (·.id)) :
    ∀ entry ∈ entries, isMisnamed entry.2 = false := by
  rw [keyedConnections_constant, keyedConnections_constant, List.map_filterMap,
    List.map_filterMap] at h
  intro entry hentry
  have hsome : ∀ entry ∈ entries,
      ((((keyedConnection entry.1 entry.2).run (constant "a")).1.map (·.id)).isSome =
        (((keyedConnection entry.1 entry.2).run (constant "b")).1.map (·.id)).isSome) := by
    intro entry _
    obtain ⟨-, found, hfound, -⟩ | ⟨-, hdrawn⟩ := keyedConnection_cases entry
    · rw [hfound, hfound]
    · rw [hdrawn, hdrawn, Option.isSome_some, Option.isSome_some]
  have hid := eq_of_filterMap_eq hsome h entry hentry
  obtain ⟨hnot, -⟩ | ⟨-, hdrawn⟩ := keyedConnection_cases entry
  · exact hnot
  · rw [hdrawn, hdrawn] at hid
    exact absurd (Option.some.inj hid) (by decide)

end Import

/-! ## Documents -/

section

variable {R : Type} [Scalar R] {fields nodes connections : List (String × Json)}

/-- The nodes of a document keyed by id take none of the source, and it is left to the
connections. -/
theorem Import.exists_keyedSnapshot (hnodes : fields.lookup "nodes" = some (.object nodes))
    (hconnections : fields.lookup "connections" = some (.object connections)) :
    ∃ found : List (Node R), found.map (·.id) = nodes.filterMap (entryId nodeIdNames) ∧
      ∀ ids, ((snapshot fields : Drawing (Snapshot R)).run ids).1 = ⟨found,
        ((filterItems (fun entry => keyedConnection entry.1 entry.2) connections).run ids).1,
        view (fields.lookup "viewport")⟩ := by
  choose found hfound hid using exists_keyedNode (R := R)
  have hread : (fun entry : String × Json => node entry.2 (some entry.1)) =
      fun entry => pure (found entry) := funext fun entry => funext (hfound entry)
  refine ⟨nodes.filterMap found, ?_, fun ids => ?_⟩
  · rw [List.map_filterMap]
    exact congrArg (List.filterMap · nodes) (funext hid)
  · have hrun : (Import.nodes (R := R) (fields.lookup "nodes")).run ids =
        (nodes.filterMap found, ids) := by
      rw [hnodes]
      change (filterItems (fun entry : String × Json => node entry.2 (some entry.1)) nodes).run ids = _
      rw [hread]
      exact filterItems_pure found nodes ids
    rw [snapshot, Drawing.run_bind hrun, hconnections]
    rfl

/-- The connections of a document in which none is misnamed have the ids of their entries. -/
theorem Import.exists_keyedConnections (h : ∀ entry ∈ connections, isMisnamed entry.2 = false) :
    ∃ found : List Connection,
      (∀ ids, ((filterItems (fun entry => keyedConnection entry.1 entry.2) connections).run ids).1 =
        found) ∧
      found.map (·.id) =
        (connections.filter (isConnection ·.2)).filterMap (entryId connectionIdNames) := by
  have hentry : ∀ entry : String × Json, ∃ found : Option Connection,
      isMisnamed entry.2 = false →
        (∀ ids, ((keyedConnection entry.1 entry.2).run ids).1 = found) ∧
          found.map (·.id) =
            if isConnection entry.2 then entryId connectionIdNames entry else none := by
    intro entry
    obtain ⟨-, found, hfound⟩ | ⟨hmisnamed, -⟩ := keyedConnection_cases entry
    · exact ⟨found, fun _ => hfound⟩
    · exact ⟨none, fun hnot => by cases hmisnamed.symm.trans hnot⟩
  choose found hfound using hentry
  refine ⟨connections.filterMap found, fun ids => ?_, ?_⟩
  · exact filterItems_of_keeps (fun _ => True)
      (fun entry hmem ids _ => ⟨(hfound entry (h entry hmem)).1 ids, trivial⟩) trivial
  · rw [List.map_filterMap, List.filterMap_filter]
    exact List.filterMap_congr fun entry hmem => (hfound entry (h entry hmem)).2

end

/-! ## The main result -/

/-- **Documents keyed by id name what is in them, misnamed connections apart.** Every node of such a
document has the id that its entry gives, in a field or by the key. Every connection has the id of
its entry, whatever the source of identifiers, exactly if no connection of the document is misnamed,
and this is also when the canvas does not depend on the source at all. -/
theorem keyed_ids_iff {R : Type} [Scalar R] {fields nodes connections : List (String × Json)}
    (hnodes : fields.lookup "nodes" = some (.object nodes))
    (hconnections : fields.lookup "connections" = some (.object connections)) :
    (∀ ids, ((Import.snapshot fields : Drawing (Snapshot R)).run ids).1.nodes.map (·.id) =
        nodes.filterMap (Import.entryId Import.nodeIdNames)) ∧
      ((∀ ids, ((Import.snapshot fields : Drawing (Snapshot R)).run ids).1.connections.map (·.id) =
          (connections.filter (Import.isConnection ·.2)).filterMap
            (Import.entryId Import.connectionIdNames)) ↔
        ∀ entry ∈ connections, Import.isMisnamed entry.2 = false) ∧
      ((∀ ids ids', ((Import.snapshot fields : Drawing (Snapshot R)).run ids).1 =
          ((Import.snapshot fields).run ids').1) ↔
        ∀ entry ∈ connections, Import.isMisnamed entry.2 = false) := by
  obtain ⟨found, hids, hsnapshot⟩ := Import.exists_keyedSnapshot (R := R) hnodes hconnections
  simp only [hsnapshot]
  refine ⟨fun _ => hids, ⟨fun h => ?_, fun h => ?_⟩, ⟨fun h => ?_, fun h => ?_⟩⟩
  · exact Import.not_misnamed_of_constant ((h _).trans (h _).symm)
  · obtain ⟨cs, hcs, hid⟩ := Import.exists_keyedConnections h
    intro ids
    rw [hcs, hid]
  · exact Import.not_misnamed_of_constant
      (congrArg (fun s => s.connections.map (·.id)) (h (Import.constant "a") (Import.constant "b")))
  · obtain ⟨cs, hcs, -⟩ := Import.exists_keyedConnections h
    intro ids ids'
    rw [hcs, hcs]

/-- A document keyed by id with two nodes and a connection that has a given field for its id. -/
def keyedPair (id : Json) : List (String × Json) :=
  [("nodes", .object [("a", .object [("id", .null)]), ("b", .object [("node_id", .number (.int 7))])]),
    ("connections", .object [("ab", .object [("id", id), ("source", .string "a"),
      ("target", .string "7")])])]

/-- With a number for the id of the connection, every id is the document's own. -/
theorem keyed_ids_iff_numbered :
    (∀ ids, ((Import.snapshot (keyedPair (.number (.int 3))) : Drawing (Snapshot Float)).run
        ids).1.nodes.map (·.id) = ["a", "7"]) ∧
      ∀ ids, ((Import.snapshot (keyedPair (.number (.int 3))) : Drawing (Snapshot Float)).run
        ids).1.connections.map (·.id) = ["3"] := by
  obtain ⟨hnodes, hconnections, -⟩ := keyed_ids_iff (R := Float)
    (show (keyedPair (.number (.int 3))).lookup "nodes" = some _ from rfl)
    (show (keyedPair (.number (.int 3))).lookup "connections" = some _ from rfl)
  exact ⟨hnodes, hconnections.mpr (by decide)⟩

/-- With `null` for the id of the connection, its key is passed over and the id is the next one of the
source. -/
theorem misnamed_connection_draws_id :
    ((Import.snapshot (keyedPair .null) : Drawing (Snapshot Float)).run
        (Import.constant "x")).1.connections.map (·.id) = ["x"] ∧
      ((Import.snapshot (keyedPair .null) : Drawing (Snapshot Float)).run
        (Import.constant "y")).1.connections.map (·.id) = ["y"] :=
  ⟨rfl, rfl⟩

end NodeCanvas
