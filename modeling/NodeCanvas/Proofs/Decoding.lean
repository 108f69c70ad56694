import NodeCanvas.Document.Canvas
import NodeCanvas.Proofs.Bag
/-!
# The bags of a document

A canvas comes from a document by one of two ways: it decodes exactly, or it is read as a foreign
document. Either way the parameters of its nodes are such as reading produces
(`Document.readable_of_decodeSnapshot?`, `Import.readable_of_project`), so a canvas that is restored
from a document brings in no others.
-/

namespace NodeCanvas

variable {R : Type} {value : Json}

/-- The parameters of every saved node are such as reading produces. -/
def Snapshot.Readable (s : Snapshot R) : Prop :=
  ∀ node ∈ s.nodes, Bag.Decodable node.parameters

/-! ## Exact documents -/

/-- What is decoded from a value is what reading makes of it. -/
theorem Parameters.decodable_of_ofJson? {p : Parameters}
    (h : ofJson? value = some p) : Bag.Decodable p := by
  refine ⟨value, ?_⟩
  cases value with
  | object fields =>
    rw [Bag.ofValue, h]
    rfl
  | null | bool _ | number _ | string _ | array _ => cases h

variable [Scalar R]

theorem Node.decodable_of_ofJson? {node : Node R} (h : ofJson? value = some node) :
    Bag.Decodable node.parameters := by
  change (Json.record? shape value >>= fun fields => _) = _ at h
  simp only [Option.bind_eq_bind, Option.bind_eq_some_iff, Option.pure_def] at h
  obtain ⟨_, -, _, -, _, -, _, -, _, hparameters, _, -, _, -, _, -, h⟩ := h
  cases h
  rw [Json.defaulted] at hparameters
  split at hparameters
  · cases hparameters
    exact Parameters.decodable_empty
  · exact Parameters.decodable_of_ofJson? hparameters

theorem Json.forall_of_listOf? {α : Type} {read : Json → Option α} {P : α → Prop}
    (hread : ∀ value a, read value = some a → P a) {items : List α}
    (h : Json.listOf? read value = some items) : ∀ a ∈ items, P a := by
  obtain ⟨values, -, hvalues⟩ := Option.bind_eq_some_iff.1 h
  clear h
  induction values generalizing items with
  | nil =>
    cases hvalues
    simp
  | cons value values ih =>
    rw [List.mapM_cons] at hvalues
    obtain ⟨a, ha, hvalues⟩ := Option.bind_eq_some_iff.1 hvalues
    obtain ⟨rest, hrest, hvalues⟩ := Option.bind_eq_some_iff.1 hvalues
    cases hvalues
    exact List.forall_mem_cons.2 ⟨hread value a ha, ih hrest⟩

theorem Snapshot.readable_of_ofJson? {s : Snapshot R}
    (h : ofJson? value = some s) : s.Readable := by
  change (Json.record? shape value >>= fun fields => _) = _ at h
  simp only [Option.bind_eq_bind, Option.bind_eq_some_iff, Option.pure_def] at h
  obtain ⟨_, -, _, hnodes, _, -, _, -, h⟩ := h
  cases h
  -- A document may leave the nodes out, and there are none then.
  rw [Json.defaulted] at hnodes
  split at hnodes
  · cases hnodes
    intro node hnode
    cases hnode
  · exact Json.forall_of_listOf? (fun _ _ => Node.decodable_of_ofJson?) hnodes

/-! ## Foreign documents -/

namespace Import

variable {value : Json} {ids : IdSource}

/-- What holds of all that a reader makes of each item holds of all that it makes of the items. -/
theorem forall_of_filterItems {α β : Type} {read : α → Drawing (Option β)} {P : β → Prop}
    {items : List α} (hread : ∀ item ∈ items, ∀ ids b, ((read item).run ids).1 = some b → P b)
    (ids : IdSource) : ∀ b ∈ ((filterItems read items).run ids).1, P b := by
  induction items generalizing ids with
  | nil =>
    intro b hb
    cases hb
  | cons item items ih =>
    rw [List.forall_mem_cons] at hread
    intro b hb
    change b ∈ (((read item).run ids).1.map
      (· :: ((filterItems read items).run ((read item).run ids).2).1)).getD
        ((filterItems read items).run ((read item).run ids).2).1 at hb
    cases hfound : ((read item).run ids).1 with
    | none =>
      rw [hfound] at hb
      exact ih hread.2 _ b hb
    | some first =>
      rw [hfound] at hb
      obtain rfl | hb := List.mem_cons.1 hb
      · exact hread.1 ids b hfound
      · exact ih hread.2 _ b hb

theorem decodable_of_node {key : Option String} {n : Node R}
    (h : ((node value key).run ids).1 = some n) : Bag.Decodable n.parameters := by
  cases value with
  | object fields =>
    cases h
    change Bag.Decodable (((fields.lookup "parameters").map Bag.ofValue).getD ({} : Parameters))
    cases fields.lookup "parameters" with
    | none => exact Parameters.decodable_empty
    | some value => exact Bag.decodable_ofValue value
  | null | bool _ | number _ | string _ | array _ => cases h

theorem decodable_of_nodes (value : Option Json) (ids : IdSource) :
    ∀ n ∈ ((nodes value : Drawing (List (Node R))).run ids).1, Bag.Decodable n.parameters := by
  unfold nodes
  split
  · exact forall_of_filterItems (fun _ _ _ _ => decodable_of_node) _
  · exact forall_of_filterItems (fun _ _ _ _ => decodable_of_node) _
  · intro n hn
    cases hn

theorem readable_snapshot (fields : List (String × Json)) (ids : IdSource) :
    ((snapshot fields : Drawing (Snapshot R)).run ids).1.Readable :=
  decodable_of_nodes (fields.lookup "nodes") ids

/-- What is imported is read from fields of the document. -/
theorem exists_of_project {imported : ImportedProject R}
    (h : ((project value).run ids).1 = .ok imported) :
    ∃ root state, value = .object root ∧ stateFields root = .ok state ∧
      imported.snapshot = ((snapshot state).run ids).1 := by
  cases value with
  | object root =>
    rw [project] at h
    cases hstate : stateFields root with
    | error cause =>
      rw [hstate] at h
      cases h
    | ok state =>
      rw [hstate] at h
      cases h
      exact ⟨root, state, rfl, hstate, rfl⟩
  | null | bool _ | number _ | string _ | array _ => cases h

theorem readable_of_project {imported : ImportedProject R}
    (h : ((project value).run ids).1 = .ok imported) : imported.snapshot.Readable := by
  obtain ⟨root, state, -, -, hsnapshot⟩ := exists_of_project h
  rw [hsnapshot]
  exact readable_snapshot state ids

end Import

/-! ## Saved documents -/

theorem Document.readable_of_decodeSnapshot {body : Json} {ids : IdSource} {s : Snapshot R}
    (h : ((decodeSnapshot body).run ids).1 = .ok s) : s.Readable := by
  unfold decodeSnapshot at h
  split at h
  · rename_i hread
    cases h
    exact Snapshot.readable_of_ofJson? hread
  · split at h
    · cases h
      exact Import.readable_snapshot _ ids
    · cases h

theorem Document.readable_of_decodeSnapshot? {document : Option StoredDocument} {ids : IdSource}
    {s : Snapshot R} (h : ((decodeSnapshot? document).run ids).1 = .ok (some s)) :
    s.Readable := by
  cases document with
  | none => cases h
  | some document =>
    change (((decodeSnapshot document.body).run ids).1.map some) = _ at h
    cases hbody : ((decodeSnapshot (R := R) document.body).run ids).1 with
    | error cause =>
      rw [hbody] at h
      cases h
    | ok found =>
      rw [hbody] at h
      cases h
      exact readable_of_decodeSnapshot hbody

end NodeCanvas
