import NodeCanvas.Proofs.KeyedIds
import NodeCanvas.Push.Event
/-!
# Pushes name what they add

A push that adds a node or a connection is read by the reader of foreign documents, which makes up
an id where it finds none. Before that a push is asked for an id. The question and the reader look
in the same fields for the same kinds of value (`PushEvent.carriesId_eq`), so what passes the
question is never given an id that was made up: decoding takes nothing from the source of
identifiers, and what arrives twice is twice the same event.
-/

namespace NodeCanvas

/-! ## Ids in a value -/

namespace Json

/-- What can be an id: a text, or a number as its text. -/
def idText? : Json → Option String
  | .string s => some s
  | .number n => some n.text
  | _ => none

/-- The first id in the fields of a value that go by some names. -/
def firstId? (value : Json) (names : List String) : Option String :=
  names.findSome? fun name => value.get? name >>= idText?

/-- Whether a value is an object. -/
def isObject : Json → Bool
  | .object _ => true
  | _ => false

theorem exists_of_firstId? {value : Json} {names : List String} {id : String}
    (h : value.firstId? names = some id) :
    ∃ name ∈ names, ∃ found, value.get? name = some found ∧ found.idText? = some id := by
  obtain ⟨name, hname, hfound⟩ := List.exists_of_findSome?_eq_some h
  obtain ⟨found, hget, hid⟩ := Option.bind_eq_some_iff.1 hfound
  exact ⟨name, hname, found, hget, hid⟩

end Json

/-- The reader of foreign documents looks for ids in the same way. -/
theorem Import.textField_eq_firstId? (fields : List (String × Json)) (names : List String) :
    textField fields names = (Json.object fields).firstId? names := by
  refine congrArg (List.findSome? · names) (funext fun name => ?_)
  change _ = fields.lookup name >>= Json.idText?
  cases fields.lookup name with
  | none => rfl
  | some value => cases value <;> rfl

namespace PushEvent

/-- **The question and the reader agree**: an entity passes for one that carries an id exactly if an
id is found in it. -/
theorem carriesId_eq (entity : Json) (names : List String) :
    carriesId entity names = (entity.firstId? names).isSome := by
  rw [carriesId, Json.firstId?, List.isSome_findSome?]
  refine congrArg (List.any names) (funext fun name => ?_)
  cases entity.get? name with
  | none => rfl
  | some value => cases value <;> rfl

/-! ## What a push adds -/

/-- The node in a payload, which may be the payload itself. -/
def addedNode (payload : Json) : Json := (payload.get? "node").getD payload

/-- The connection in a payload, which may be the payload itself. -/
def addedConnection (payload : Json) : Json := (payload.get? "connection").getD payload

/-- The id of the node in a payload: its own, or a text that stands beside it. -/
def addedNodeId? (payload : Json) : Option String :=
  ((addedNode payload).firstId? Import.nodeIdNames).or (payload.get? "node_id" >>= Json.text?)

/-- The id of the connection in a payload. -/
def addedConnectionId? (payload : Json) : Option String :=
  (addedConnection payload).firstId? Import.connectionIdNames

/-- The payload, or the node or the connection in it, holds this id in a field for ids. -/
def Holds (payload : Json) (id : String) : Prop :=
  ∃ place, (place = payload ∨ payload.get? "node" = some place ∨
      payload.get? "connection" = some place) ∧
    ∃ name ∈ ["id", "node_id", "connection_id"], ∃ found,
      place.get? name = some found ∧ found.idText? = some id

theorem holds_of_addedNodeId? {payload : Json} {id : String} (h : addedNodeId? payload = some id) :
    Holds payload id := by
  obtain hown | ⟨-, hbeside⟩ := Option.or_eq_some_iff.1 h
  · obtain ⟨name, hname, found, hget, hid⟩ := Json.exists_of_firstId? hown
    refine ⟨addedNode payload, ?_, name, ?_, found, hget, hid⟩
    · unfold addedNode
      cases payload.get? "node" with
      | none => exact .inl rfl
      | some node => exact .inr (.inl rfl)
    · simp only [Import.nodeIdNames, List.mem_cons, List.not_mem_nil, or_false] at hname ⊢
      exact hname.imp_right .inl
  · obtain ⟨found, hget, htext⟩ := Option.bind_eq_some_iff.1 hbeside
    refine ⟨payload, .inl rfl, "node_id", by simp, found, hget, ?_⟩
    rw [Json.eq_string_of_text? htext]
    rfl

theorem holds_of_addedConnectionId? {payload : Json} {id : String}
    (h : addedConnectionId? payload = some id) : Holds payload id := by
  obtain ⟨name, hname, found, hget, hid⟩ := Json.exists_of_firstId? h
  refine ⟨addedConnection payload, ?_, name, ?_, found, hget, hid⟩
  · unfold addedConnection
    cases payload.get? "connection" with
    | none => exact .inl rfl
    | some connection => exact .inr (.inr rfl)
  · simp only [Import.connectionIdNames, List.mem_cons, List.not_mem_nil, or_false] at hname ⊢
    exact hname.imp_right .inr

end PushEvent

/-! ## Decoding -/

section

variable {R : Type} [Scalar R] {id : String}

/-- Where there is an id, none is made up. -/
theorem Import.idOr_of_or {found given : Option String}
    (h : found.or given = some id) : idOr found given = pure id := by
  cases found with
  | some own =>
    cases h
    rfl
  | none =>
    rw [Option.none_or] at h
    rw [h]
    rfl

theorem Import.exists_namedNode {fields : List (String × Json)} {given : Option String}
    (h : ((Json.object fields).firstId? nodeIdNames).or given = some id) :
    ∃ found : Node R, found.id = id ∧ node (.object fields) given = pure (some found) := by
  rw [← textField_eq_firstId?] at h
  simp only [node, idOr_of_or h, pure_bind]
  exact ⟨_, rfl, rfl⟩

theorem Import.exists_namedConnection {fields : List (String × Json)}
    (h : (Json.object fields).firstId? connectionIdNames = some id) :
    ∃ found : Option Connection, connection (.object fields) = pure found ∧
      found.map (·.id) = if isConnection (.object fields) then some id else none := by
  rw [← textField_eq_firstId?] at h
  have hid : idOr (textField fields connectionIdNames) none = pure id :=
    idOr_of_or (by rw [h, Option.some_or])
  cases hsource : textField fields sourceNames with
  | none => exact ⟨none, by simp only [connection, hsource], by simp [isConnection, hsource]⟩
  | some source =>
    cases htarget : textField fields targetNames with
    | none =>
      exact ⟨none, by simp only [connection, hsource, htarget], by simp [isConnection, htarget]⟩
    | some target =>
      simp only [connection, isConnection, hsource, htarget, hid, pure_bind]
      exact ⟨_, rfl, rfl⟩

namespace PushEvent

/-- What is made of a payload that adds a node: nothing is drawn, and the node has the id that the
payload says. -/
theorem exists_decodeNodeAdded (payload : Json) :
    ∃ found : Option (Node R), decodeNodeAdded? payload = pure (found.map .nodeAdded) ∧
      found.map (·.id) =
        if (addedNode payload).isObject then addedNodeId? payload else none := by
  have hdecode : (decodeNodeAdded? payload : Drawing (Option (PushEvent R))) =
      if (payload.get? "node_id" >>= Json.text?).isNone &&
          !carriesId (addedNode payload) Import.nodeIdNames then pure none
      else do
        let node ← Import.node (addedNode payload) (payload.get? "node_id" >>= Json.text?)
        return node.map .nodeAdded := rfl
  rw [hdecode, carriesId_eq, addedNodeId?]
  generalize addedNode payload = entity, payload.get? "node_id" >>= Json.text? = given
  cases entity with
  | object fields =>
    cases hid : ((Json.object fields).firstId? Import.nodeIdNames).or given with
    | none =>
      -- Refused before the reader could make up an id.
      obtain ⟨hown, hgiven⟩ := Option.or_eq_none_iff.1 hid
      rw [hown, hgiven]
      exact ⟨none, rfl, rfl⟩
    | some id =>
      have hasked : (given.isNone &&
          !((Json.object fields).firstId? Import.nodeIdNames).isSome) = false := by
        cases hown : (Json.object fields).firstId? Import.nodeIdNames with
        | some own => simp
        | none =>
          rw [hown, Option.none_or] at hid
          rw [hid]
          rfl
      obtain ⟨found, hfound, hnode⟩ := Import.exists_namedNode (R := R) hid
      rw [hasked, hnode]
      exact ⟨some found, rfl, congrArg some hfound⟩
  | null | bool _ | number _ | string _ | array _ =>
    refine ⟨none, ?_, rfl⟩
    cases given <;> rfl

omit [Scalar R] in
/-- The same for a connection, which in addition has to name its ends. -/
theorem exists_decodeConnectionAdded (payload : Json) :
    ∃ found : Option Connection,
      (decodeConnectionAdded? payload : Drawing (Option (PushEvent R))) =
        pure (found.map .connectionAdded) ∧
      found.map (·.id) =
        if Import.isConnection (addedConnection payload) then addedConnectionId? payload
        else none := by
  have hdecode : (decodeConnectionAdded? payload : Drawing (Option (PushEvent R))) =
      if !carriesId (addedConnection payload) Import.connectionIdNames then pure none
      else do
        let connection ← Import.connection (addedConnection payload)
        return connection.map .connectionAdded := rfl
  rw [hdecode, carriesId_eq, addedConnectionId?]
  generalize addedConnection payload = entity
  cases entity with
  | object fields =>
    cases hid : (Json.object fields).firstId? Import.connectionIdNames with
    | none => exact ⟨none, rfl, by split <;> rfl⟩
    | some id =>
      obtain ⟨found, hconnection, hfound⟩ := Import.exists_namedConnection hid
      rw [hconnection]
      exact ⟨found, rfl, hfound⟩
  | null | bool _ | number _ | string _ | array _ => exact ⟨none, rfl, rfl⟩

/-- Events of other names add nothing. -/
theorem decodeOther?_adds_nothing (name : String) (payload : Json) :
    (∀ node, (decodeOther? name payload : Option (PushEvent R)) ≠ some (.nodeAdded node)) ∧
      ∀ connection,
        (decodeOther? name payload : Option (PushEvent R)) ≠
          some (.connectionAdded connection) := by
  unfold decodeOther?
  split <;> simp [Option.bind_eq_some_iff]

/-- Decoding draws nothing, and what it adds has the id that the payload says. -/
theorem exists_decode (name : String) (payload : Json) :
    ∃ answer : Option (PushEvent R), decode? name payload = pure answer ∧
      (∀ id, (∃ node, answer = some (.nodeAdded node) ∧ node.id = id) ↔
        name = "node_added" ∧ (addedNode payload).isObject = true ∧
          addedNodeId? payload = some id) ∧
      ∀ id, (∃ connection, answer = some (.connectionAdded connection) ∧ connection.id = id) ↔
        name = "connection_added" ∧ Import.isConnection (addedConnection payload) = true ∧
          addedConnectionId? payload = some id := by
  unfold decode?
  split
  · obtain ⟨found, hdecode, hid⟩ := exists_decodeNodeAdded (R := R) payload
    refine ⟨_, hdecode, fun id => ?_, fun id => ?_⟩
    · rw [← Option.ite_none_right_eq_some, ← hid]
      simp [Option.map_eq_some_iff]
    · simp [Option.map_eq_some_iff]
  · obtain ⟨found, hdecode, hid⟩ := exists_decodeConnectionAdded (R := R) payload
    refine ⟨_, hdecode, fun id => ?_, fun id => ?_⟩
    · simp [Option.map_eq_some_iff]
    · rw [← Option.ite_none_right_eq_some, ← hid]
      simp [Option.map_eq_some_iff]
  · rename_i hnode hconnection
    obtain ⟨hnodes, hconnections⟩ := decodeOther?_adds_nothing (R := R) name payload
    refine ⟨_, rfl, fun id => ?_, fun id => ?_⟩
    · constructor
      · rintro ⟨node, hadded, -⟩
        exact absurd hadded (hnodes node)
      · rintro ⟨hname, -⟩
        exact (hnode hname).elim
    · constructor
      · rintro ⟨connection, hadded, -⟩
        exact absurd hadded (hconnections connection)
      · rintro ⟨hname, -⟩
        exact (hconnection hname).elim

end PushEvent

/-- **Decoding a push makes up no identity.** Whatever the name and the payload of an event, its
meaning does not depend on the source of identifiers, and none is taken from there; so what arrives
again, whatever was drawn in between, is the same event again. A node or a connection is added
exactly if the payload has one and says its id, and it has that id, which is the text of a string or
of a number that the payload holds in a field for ids. -/
theorem decoding_makes_up_nothing (name : String) (payload : Json) :
    ∃ answer : Option (PushEvent R),
      (∀ ids, (PushEvent.decode? name payload).run ids = (answer, ids)) ∧
      (∀ (between : Drawing Unit) (ids : IdSource),
        ((do
          let first ← PushEvent.decode? name payload
          between
          let again ← PushEvent.decode? name payload
          return (first, again) : Drawing (Option (PushEvent R) × Option (PushEvent R))).run
            ids).1 = (answer, answer)) ∧
      (∀ id, (∃ node, answer = some (.nodeAdded node) ∧ node.id = id) ↔
        name = "node_added" ∧ (PushEvent.addedNode payload).isObject = true ∧
          PushEvent.addedNodeId? payload = some id) ∧
      (∀ id, (∃ connection, answer = some (.connectionAdded connection) ∧ connection.id = id) ↔
        name = "connection_added" ∧
          Import.isConnection (PushEvent.addedConnection payload) = true ∧
          PushEvent.addedConnectionId? payload = some id) ∧
      (∀ node, answer = some (.nodeAdded node) → PushEvent.Holds payload node.id) ∧
      ∀ connection, answer = some (.connectionAdded connection) →
        PushEvent.Holds payload connection.id := by
  obtain ⟨answer, hdecode, hnode, hconnection⟩ := PushEvent.exists_decode (R := R) name payload
  refine ⟨answer, fun ids => ?_, fun between ids => ?_, hnode, hconnection, ?_, ?_⟩
  · rw [hdecode]
    rfl
  · rw [hdecode]
    rfl
  · intro node hadded
    exact PushEvent.holds_of_addedNodeId? ((hnode node.id).1 ⟨node, hadded, rfl⟩).2.2
  · intro connection hadded
    exact PushEvent.holds_of_addedConnectionId?
      ((hconnection connection.id).1 ⟨connection, hadded, rfl⟩).2.2

/-- A node that has `null` for its id and is named beside it, and a connection with a number for its
id: both have the ids that their payloads hold, at every delivery. -/
theorem decoding_makes_up_nothing_named :
    (∃ node : Node Float, node.id = "a" ∧ ∀ ids, (PushEvent.decode? "node_added"
        (.object [("node", .object [("id", .null)]), ("node_id", .string "a")])).run ids =
          (some (.nodeAdded node), ids)) ∧
      ∃ connection : Connection, connection.id = "3" ∧
        ∀ ids, (PushEvent.decode? "connection_added" (.object [("connection_id", .number (.int 3)),
            ("source", .string "a"), ("target", .string "b")]) :
              Drawing (Option (PushEvent Float))).run ids =
          (some (.connectionAdded connection), ids) := by
  constructor
  · obtain ⟨answer, hrun, -, hnode, -⟩ := decoding_makes_up_nothing (R := Float) "node_added"
      (.object [("node", .object [("id", .null)]), ("node_id", .string "a")])
    obtain ⟨node, rfl, hid⟩ := (hnode "a").2 ⟨rfl, rfl, rfl⟩
    exact ⟨node, hid, hrun⟩
  · obtain ⟨answer, hrun, -, -, hconnection, -⟩ :=
      decoding_makes_up_nothing (R := Float) "connection_added"
        (.object [("connection_id", .number (.int 3)), ("source", .string "a"),
          ("target", .string "b")])
    obtain ⟨connection, rfl, hid⟩ := (hconnection "3").2 ⟨rfl, rfl, rfl⟩
    exact ⟨connection, hid, hrun⟩

end

end NodeCanvas
