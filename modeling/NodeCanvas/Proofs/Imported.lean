import NodeCanvas.Proofs.Decoding
import NodeCanvas.Proofs.RoundTrip
import NodeCanvas.Proofs.TextValues
/-!
# Canvases from foreign documents

Whatever a foreign document looks like, the canvas that is made of it is canonical: its numbers are
those of the document or defaults, its bags were read from parts of the document, and a data type
that stands for none is dropped (`Import.canonical_of_project`). So what is written of such a canvas
is a fixed point of all the rules for foreign documents (`Import.project_snapshot`).
-/

namespace NodeCanvas

namespace Import

open Json (Valid)

variable {value : Option Json} {fields : List (String × Json)} {ids : IdSource}

/-! ## Parts of a document -/

theorem isFinite_coordinate (h : ∀ v ∈ value, v.Valid) :
    (coordinate value : Float).isFinite = true := by
  change ((value >>= Json.float?).getD 0.0).isFinite = true
  cases value with
  | none => decide +kernel
  | some v =>
    change (v.float?.getD 0.0).isFinite = true
    cases hx : v.float? with
    | none => decide +kernel
    | some x => exact (h v rfl).float? hx

theorem isFinite_position (h : ∀ v ∈ value, v.Valid) :
    (position value : Position Float).IsFinite := by
  unfold position
  split
  · rename_i x y rest
    have harray : (Json.array (x :: y :: rest)).Valid := h _ rfl
    refine ⟨isFinite_coordinate fun v hv => ?_, isFinite_coordinate fun v hv => ?_⟩
    · cases hv
      exact harray.mem List.mem_cons_self
    · cases hv
      exact harray.mem (List.mem_cons_of_mem _ List.mem_cons_self)
  · rename_i fields
    have hfields : (Json.object fields).Valid := h _ rfl
    exact ⟨isFinite_coordinate fun v hv => hfields.lookup hv,
      isFinite_coordinate fun v hv => hfields.lookup hv⟩
  · exact ⟨by decide +kernel, by decide +kernel⟩

theorem canonical_bag {β : Type} [Bag β] {default : β}
    (h : ∀ v ∈ value, v.Valid) (hdefault : Bag.Canonical default) :
    Bag.Canonical ((value.map Bag.ofValue).getD default) := by
  cases value with
  | none => exact hdefault
  | some v => exact ⟨v, (h v rfl).canonical, rfl⟩

theorem isFinite_numberField (h : (Json.object fields).Valid)
    {names : List String} {x : Float} (hx : numberField fields names = some x) :
    x.isFinite = true := by
  obtain ⟨name, -, hname⟩ := List.exists_of_findSome?_eq_some hx
  obtain ⟨v, hv, hfloat⟩ := Option.bind_eq_some_iff.1 hname
  exact (h.lookup hv).float? hfloat

/-- The pan of a view that is given as a position. -/
theorem isFinite_pan (h : (Json.object fields).Valid)
    {part : Position Float → Float} (hpart : ∀ p, p.IsFinite → (part p).isFinite = true) :
    ((((fields.lookup "pan").map fun pan => (position (some pan) : Position Float)).map
      part).getD 0.0).isFinite = true := by
  cases hpan : fields.lookup "pan" with
  | none =>
    change (0.0 : Float).isFinite = true
    decide +kernel
  | some pan =>
    refine hpart _ (isFinite_position fun v hv => ?_)
    cases hv
    exact h.lookup hpan

theorem canonical_view (h : ∀ v ∈ value, v.Valid) : (view value : View Float).Canonical := by
  unfold view
  split
  · rename_i fields
    have hfields : (Json.object fields).Valid := h _ rfl
    refine ⟨?_, ?_, ?_, ?_⟩ <;> dsimp only
    · split
      · rename_i z hz
        obtain ⟨v, hv, hfloat⟩ := Option.bind_eq_some_iff.1 hz
        split
        · exact (hfields.lookup hv).float? hfloat
        · decide +kernel
      · decide +kernel
    · split
      · rename_i x hx
        exact isFinite_numberField hfields hx
      · exact isFinite_pan hfields fun p hp => hp.1
    · split
      · rename_i y hy
        exact isFinite_numberField hfields hy
      · exact isFinite_pan hfields fun p hp => hp.2
    · split
      · split
        · rename_i hpositive
          exact hpositive
        · decide +kernel
      · decide +kernel
  · exact ⟨by decide +kernel, by decide +kernel, by decide +kernel, by decide +kernel⟩

/-! ## Nodes and connections -/

theorem canonical_of_node {value : Json} (hvalue : value.Valid) {key : Option String} {n : Node Float}
    (h : ((node value key).run ids).1 = some n) :
    n.Canonical := by
  cases value with
  | object fields =>
    cases h
    exact ⟨isFinite_position fun v hv => hvalue.lookup hv,
      canonical_bag (fun v hv => hvalue.lookup hv) ⟨.null, rfl, rfl⟩,
      canonical_bag (fun v hv => hvalue.lookup hv) ⟨.null, rfl, rfl⟩⟩
  | null | bool _ | number _ | string _ | array _ => cases h

theorem canonical_nodes (h : ∀ v ∈ value, v.Valid) (ids : IdSource) :
    ∀ n ∈ ((nodes value : Drawing (List (Node Float))).run ids).1, n.Canonical := by
  unfold nodes
  split
  · rename_i items
    have hitems : (Json.array items).Valid := h _ rfl
    exact forall_of_filterItems (fun item hitem _ _ => canonical_of_node (hitems.mem hitem)) ids
  · rename_i fields
    have hfields : (Json.object fields).Valid := h _ rfl
    exact forall_of_filterItems
      (fun field hfield _ _ => canonical_of_node (hfields.mem_fields hfield)) ids
  · intro n hn
    cases hn

/-- A data type that stands for none is dropped. -/
theorem isTyped_of_connection {value : Json} {c : Connection}
    (h : ((connection value).run ids).1 = some c) : c.IsTyped := by
  cases value with
  | object fields =>
    unfold connection at h
    simp only at h
    split at h
    · cases h
      constructor
      · intro hempty
        exact absurd (Option.filter_eq_some_iff.1 hempty).2 (by decide)
      · intro hnone
        exact absurd (Option.filter_eq_some_iff.1 hnone).2 (by decide)
    · cases h
  | null | bool _ | number _ | string _ | array _ => cases h

theorem isTyped_of_keyedConnection {key : String} {value : Json} {c : Connection}
    (h : ((keyedConnection key value).run ids).1 = some c) : c.IsTyped := by
  change ((connection value).run ids).1.map _ = some c at h
  obtain ⟨found, hfound, rfl⟩ := Option.map_eq_some_iff.1 h
  have htyped : found.IsTyped := isTyped_of_connection hfound
  split
  · exact htyped
  · exact htyped

theorem isTyped_connections (value : Option Json) (ids : IdSource) :
    ∀ c ∈ ((connections value).run ids).1, c.IsTyped := by
  unfold connections
  split
  · exact forall_of_filterItems (fun _ _ _ _ => isTyped_of_connection) ids
  · exact forall_of_filterItems (fun _ _ _ _ => isTyped_of_keyedConnection) ids
  · intro c hc
    cases hc

/-! ## Documents -/

theorem canonical_snapshot (h : (Json.object fields).Valid)
    (ids : IdSource) : ((snapshot fields : Drawing (Snapshot Float)).run ids).1.Canonical where
  nodes := canonical_nodes (fun _ hv => h.lookup hv) ids
  connections := isTyped_connections (fields.lookup "connections") _
  view := canonical_view fun _ hv => h.lookup hv

/-- **What is imported is canonical.** -/
theorem canonical_of_project {value : Json} (hvalue : value.Valid)
    {imported : ImportedProject Float} (h : ((project value).run ids).1 = .ok imported) :
    imported.snapshot.Canonical := by
  obtain ⟨root, state, rfl, hstate, hsnapshot⟩ := exists_of_project h
  rw [hsnapshot]
  refine canonical_snapshot ?_ ids
  unfold stateFields at hstate
  split at hstate
  · rename_i found hfound
    cases hstate
    exact hvalue.lookup hfound
  · cases hstate
  · split at hstate
    · cases hstate
      exact hvalue
    · cases hstate

/-- **What is written of a canonical canvas is imported as it was**, as a document without a name and
without tabs. -/
theorem project_snapshot {s : Snapshot Float} (h : s.Canonical) (ids : IdSource) :
    (project (JsonForm.toValue s)).run ids = (.ok ⟨s, none, []⟩, ids) := by
  obtain ⟨fields, hs, hnodes, -⟩ := s.exists_toValue
  have habsent : ∀ name, name ≠ "nodes" → name ≠ "connections" → name ≠ "viewport" →
      fields.lookup name = none := by
    intro name hnodes hconnections hview
    have hwritten : Json.written [("nodes", toJson s.nodes), ("connections", toJson s.connections),
        ("viewport", toJson s.view)] = fields := Json.object.inj hs
    rw [← hwritten, Json.lookup_written]
    simp [Table.lookup_cons_eq_ite, List.lookup_nil, hnodes, hconnections, hview]
  have hstate : fields.lookup "state" = none := habsent _ (by decide) (by decide) (by decide)
  have hproject : fields.lookup "project" = none := habsent _ (by decide) (by decide) (by decide)
  have htabs : fields.lookup "engine_tabs" = none :=
    habsent _ (by decide) (by decide) (by decide)
  have hfields : stateFields fields = .ok fields := by
    simp [stateFields, hstate, hnodes]
  rw [hs]
  unfold project
  simp only [hfields, hproject, htabs]
  exact Drawing.run_bind (Snapshot.snapshot_written h hs ids)

end Import

end NodeCanvas
