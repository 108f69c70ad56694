import NodeCanvas.Proofs.Written
/-!
# Merging into bags

A merge writes a bag, replaces fields in what is written, and reads the whole again. What comes out
is decided by all own fields at once: if each of them has its type or is null, the bag is recognized,
and the null ones are dropped; if one has another type, everything is kept as it stands, the null ones
too. So a bag may go from recognized to not and back, and lose a null field on the way, but nothing
else (`Bag.MergeLaw`).
-/

namespace NodeCanvas

/-- A field that is never replaced is found as it was. -/
theorem Table.get?_foldl_override {α : Type} {changes : List (Table α)} {k : String}
    (h : ∀ t ∈ changes, t.get? k = none) (t : Table α) :
    (changes.foldl Table.override t).get? k = t.get? k := by
  induction changes generalizing t with
  | nil => rfl
  | cons first rest ih =>
    rw [List.forall_mem_cons] at h
    rw [List.foldl_cons, ih h.2, Table.get?_override, h.1, Option.none_or]

namespace Bag

theorem withoutNulls_foldl_override {types : List (String × FieldType)} {s t : Table Json}
    (h : withoutNulls types s = withoutNulls types t) (changes : List (Table Json)) :
    withoutNulls types (changes.foldl Table.override s) =
      withoutNulls types (changes.foldl Table.override t) := by
  induction changes generalizing s t with
  | nil => exact h
  | cons first rest ih => exact ih (withoutNulls_override h first)

end Bag

/-- The own fields of parameters. -/
def Parameters.fieldTypes : List (String × FieldType) :=
  [("name", .text), ("source_code", .text), ("code", .text), ("function_name", .text),
    ("source_language", .text), ("hide_title", .flag), ("hide_ports", .flag)]

/-- The own fields of metadata. -/
def Metadata.fieldTypes : List (String × FieldType) :=
  [("display_name", .text), ("description", .text), ("source_language", .text),
    ("raw_name", .text), ("extended_type", .text)]

/-! ## Merging and reloading -/

namespace Bag

/-- What happens to a bag on the way: fields are replaced, or it is saved and loaded again. -/
inductive Step where
  | merge (changes : Table Json)
  | reload

namespace Step

/-- The fields that a step replaces. -/
def changes : Step → Table Json
  | .merge changes => changes
  | .reload => ∅

/-- The values that a step brings are written already. -/
def Canonical (step : Step) : Prop := ∀ k v, step.changes.get? k = some v → v.Canonical

end Step

variable {β : Type} [Bag β]

def take (b : β) : Step → β
  | .merge changes => mergedWith b changes
  | .reload => ofValue (JsonForm.toValue b)

/-- The bag after several steps. -/
def run (b : β) (steps : List Step) : β := steps.foldl take b

/-- How a kind of bag with own fields of these types is merged into, saved and loaded. -/
structure MergeLaw (β : Type) [Bag β] (types : List (String × FieldType)) : Prop where
  /-- A merge drops null own fields if every own field fits, and otherwise changes nothing more. -/
  fields_mergedWith (b : β) (changes : Table Json) :
    fields (mergedWith b changes) =
      if fits types ((fields b).override changes) then
        withoutNulls types ((fields b).override changes)
      else (fields b).override changes
  /-- The fields of a bag that was read are read as that bag. -/
  ofValue_fields {b : β} : Canonical b → ofValue (.ofTable (fields b)) = b
  /-- Null own fields apart, any steps are the replacements that they make, one after the other. -/
  withoutNulls_run {b : β} {steps : List Step} : Canonical b → (∀ step ∈ steps, step.Canonical) →
    withoutNulls types (fields (run b steps)) =
      withoutNulls types ((steps.map Step.changes).foldl Table.override (fields b))
  /-- A field that no step replaces is kept, whatever its name and its value, unless it is an own
  field that is null. -/
  get?_run {b : β} {steps : List Step} {k : String} {v : Json} :
    Canonical b → (∀ step ∈ steps, step.Canonical) → (fields b).get? k = some v →
    (k ∈ types.map (·.1) → v ≠ .null) → (∀ step ∈ steps, step.changes.get? k = none) →
    (fields (run b steps)).get? k = some v

end Bag

namespace LaidBag

open Bag

variable {β : Type} [Bag β] [LaidBag β] {b : β}

theorem fields_mergedWith (b : β) (changes : Table Json) :
    fields (mergedWith b changes) =
      if fits (types β) ((fields b).override changes) then
        withoutNulls (types β) ((fields b).override changes)
      else (fields b).override changes := by
  generalize hm : (fields b).override changes = m
  have hmerged : mergedWith b changes =
      ((ofJson? (Json.ofTable m) : Option β)).getD (unrecognized m) := by
    rw [mergedWith, hm]
    change (ofJson? (Json.ofTable m)).getD (unrecognized (Table.ofList m.entries)) = _
    rw [Table.ofList_entries]
  rw [hmerged, ← isSome_ofJson?_eq_fits]
  cases hread : (ofJson? (Json.ofTable m) : Option β) with
  | none => exact LaidBag.fields_unrecognized m
  | some c => exact fields_of_ofJson? hread

/-- Every field of a bag that was read from a written value is written already. -/
theorem canonical_fields (h : Bag.Canonical b) {k : String} {v : Json}
    (hv : (fields b).get? k = some v) : v.Canonical := by
  obtain ⟨value, hvalue, rfl⟩ := h
  obtain ⟨-, hcanonical⟩ | ⟨-, t, -, hcanonical, ht⟩ := LaidBag.ofValue_cases (β := β) hvalue
  · exact hcanonical k v hv
  · rw [ht, LaidBag.fields_unrecognized] at hv
    exact hcanonical k v hv

theorem ofValue_fields (h : Bag.Canonical b) : ofValue (.ofTable (fields b)) = b := by
  rw [← LaidBag.toValue_eq fun _ _ => canonical_fields h]
  exact LaidBag.ofValue_toValue h

/-- A step leads from such a bag to another one. -/
theorem canonical_take (h : Bag.Canonical b) {step : Step} (hstep : step.Canonical) :
    Bag.Canonical (take b step) := by
  cases step with
  | reload =>
    rw [take, LaidBag.ofValue_toValue h]
    exact h
  | merge changes =>
    refine ⟨.ofTable ((fields b).override changes), ?_, rfl⟩
    have hvalues : ∀ k v, (Table.ofList ((fields b).override changes).entries).get? k = some v →
        v.Canonical := by
      intro k v hv
      rw [Table.ofList_entries, Table.get?_override, Option.or_eq_some_iff] at hv
      obtain hv | ⟨-, hv⟩ := hv
      · exact hstep k v hv
      · exact canonical_fields h hv
    rw [Json.Canonical, Json.ofTable, Json.canonical_object, Json.written_of_canonical hvalues,
      Table.ofList_entries]

/-- **One step**: null own fields apart, it is the replacement that it makes. -/
theorem withoutNulls_take (h : Bag.Canonical b) (step : Step) :
    withoutNulls (types β) (fields (take b step)) =
      withoutNulls (types β) ((fields b).override step.changes) := by
  cases step with
  | reload =>
    have hsame : (fields b).override ∅ = fields b := Table.ext_get? fun k => by
      rw [Table.get?_override, Table.get?_empty, Option.none_or]
    rw [take, LaidBag.ofValue_toValue h, Step.changes, hsame]
  | merge changes =>
    rw [take, fields_mergedWith, Step.changes]
    split
    · rw [withoutNulls_withoutNulls]
    · rfl

/-- **Any number of steps.** -/
theorem withoutNulls_run {steps : List Step} (h : Bag.Canonical b)
    (hsteps : ∀ step ∈ steps, step.Canonical) :
    withoutNulls (types β) (fields (run b steps)) =
      withoutNulls (types β) ((steps.map Step.changes).foldl Table.override (fields b)) := by
  induction steps generalizing b with
  | nil => rfl
  | cons step steps ih =>
    rw [List.forall_mem_cons] at hsteps
    calc withoutNulls (types β) (fields (run (take b step) steps))
        = withoutNulls (types β)
            ((steps.map Step.changes).foldl Table.override (fields (take b step))) :=
          ih (canonical_take h hsteps.1) hsteps.2
      _ = withoutNulls (types β)
            ((steps.map Step.changes).foldl Table.override ((fields b).override step.changes)) :=
          withoutNulls_foldl_override (withoutNulls_take h step) _

theorem get?_run {steps : List Step} {k : String} {v : Json} (h : Bag.Canonical b)
    (hsteps : ∀ step ∈ steps, step.Canonical)
    (hv : (fields b).get? k = some v) (hnull : k ∈ (types β).map (·.1) → v ≠ .null)
    (hk : ∀ step ∈ steps, step.changes.get? k = none) :
    (fields (run b steps)).get? k = some v := by
  have hrun := congrArg (·.get? k) (withoutNulls_run h hsteps)
  simp only [get?_withoutNulls] at hrun
  rw [Table.get?_foldl_override (List.forall_mem_map.2 hk), hv] at hrun
  have hkept : (v.isNull && ((types β).map (·.1)).contains k) = false := by
    rw [Bool.and_eq_false_iff, ← Bool.not_eq_true, ← Bool.not_eq_true, List.contains_iff_mem]
    by_cases hown : k ∈ (types β).map (·.1)
    · refine .inl fun hisNull => hnull hown ?_
      cases v with
      | null => rfl
      | _ => cases hisNull
    · exact .inr hown
  rw [Option.filter_some, hkept] at hrun
  exact (Option.filter_eq_some_iff.1 hrun).1

theorem mergeLaw : MergeLaw β (types β) where
  fields_mergedWith := fields_mergedWith
  ofValue_fields := ofValue_fields
  withoutNulls_run := withoutNulls_run
  get?_run := get?_run

end LaidBag

/-! ## The main result -/

/-- **Merging, saving and loading keep what is in a bag**, for parameters and for metadata: the one
thing that is ever lost is an own field that is null. -/
theorem bags_obey_mergeLaw :
    Bag.MergeLaw Parameters Parameters.fieldTypes ∧ Bag.MergeLaw Metadata Metadata.fieldTypes :=
  ⟨LaidBag.mergeLaw, LaidBag.mergeLaw⟩

/-- Code that is a number is kept as it came when the title is hidden and the bag is saved and loaded,
although the field next to it is an own one and null. -/
theorem bags_obey_mergeLaw_mistyped :
    (Bag.fields (Bag.run
      (Bag.ofValue (.object [("code", .number (.int 5)), ("name", .null)]) : Parameters)
      [.merge (Table.ofList [("hide_title", .bool true)]), .reload])).get? "code" =
        some (.number (.int 5)) := by
  have hsteps : ∀ step ∈ [Bag.Step.merge (Table.ofList [("hide_title", .bool true)]), .reload],
      step.Canonical ∧ step.changes.get? "code" = none := by
    simp only [List.forall_mem_cons, List.not_mem_nil, false_implies, implies_true, and_true]
    refine ⟨⟨?_, rfl⟩, ?_, rfl⟩
    · intro k v hv
      cases (Prod.mk.inj (List.mem_singleton.1 (Table.mem_of_get?_ofList hv))).2
      rfl
    · intro k v hv
      cases hv
  exact bags_obey_mergeLaw.1.get?_run ⟨_, by rfl, rfl⟩ (fun step h => (hsteps step h).1) rfl
    (fun _ h => by cases h) fun step h => (hsteps step h).2

end NodeCanvas
