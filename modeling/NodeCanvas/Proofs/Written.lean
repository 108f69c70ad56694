import NodeCanvas.Proofs.Bag
/-!
# Written values

Writing puts the fields of every object in ascending order, and what is found in a written object
is what was put into it, written (`Json.lookup_written`). A value that is written already is kept as
it is: `Json.Canonical`. A bag that was read from such a value is written as the fields that it
has, and these read back as the same bag, whether they are recognized or not
(`LaidBag.ofValue_toValue`). Whether they are is `LaidBag.Plain`.
-/

namespace NodeCanvas

namespace Json

/-- Every object in the value lists its fields in ascending order, and none twice. -/
def Canonical (value : Json) : Prop := value.canonical = value

theorem canonicalItems_eq_map (items : List Json) : canonicalItems items = items.map canonical := by
  induction items with
  | nil => rfl
  | cons item items ih => rw [canonicalItems, ih, List.map_cons]

theorem canonicalFields_eq_map (fields : List (String × Json)) :
    canonicalFields fields = fields.map fun field => (field.1, field.2.canonical) := by
  induction fields with
  | nil => rfl
  | cons field fields ih => rw [canonicalFields, ih, List.map_cons]

theorem lookup_map_canonical (fields : List (String × Json)) (k : String) :
    (fields.map fun field => (field.1, field.2.canonical)).lookup k =
      (fields.lookup k).map canonical := by
  induction fields with
  | nil => rfl
  | cons field fields ih =>
    rw [List.map_cons, Table.lookup_cons_eq_ite, ih, Table.lookup_cons_eq_ite]
    split <;> rfl

/-- The fields of an object as they are written. -/
def written (fields : List (String × Json)) : List (String × Json) :=
  (Table.ofList (canonicalFields fields)).entries

theorem canonical_array (items : List Json) :
    (array items).canonical = .array (items.map canonical) := by
  rw [canonical, canonicalItems_eq_map]

theorem canonical_object (fields : List (String × Json)) :
    (object fields).canonical = .object (written fields) := rfl

/-- **What is found in a written object** is the last field of that name, written. -/
theorem lookup_written (fields : List (String × Json)) (k : String) :
    (written fields).lookup k = (fields.reverse.lookup k).map canonical := by
  change (Table.ofList (canonicalFields fields)).get? k = _
  rw [Table.get?_ofList, canonicalFields_eq_map, ← List.map_reverse, lookup_map_canonical]

/-- Fields that are written already are only put in order. -/
theorem written_of_canonical {fields : List (String × Json)}
    (h : ∀ k v, (Table.ofList fields).get? k = some v → v.Canonical) :
    written fields = (Table.ofList fields).entries := by
  refine congrArg Table.entries (Table.ext_get? fun k => ?_)
  change (written fields).lookup k = _
  rw [lookup_written, ← Table.get?_ofList]
  cases hfound : (Table.ofList fields).get? k with
  | none => rfl
  | some v => exact congrArg some (h k v hfound)

/-- An object that is written already is that of a table of such values. -/
theorem Canonical.exists_table {fields : List (String × Json)} (h : (object fields).Canonical) :
    ∃ t : Table Json, fields = t.entries ∧ ∀ k v, t.get? k = some v → v.Canonical := by
  obtain ⟨t, rfl⟩ : ∃ t : Table Json, fields = t.entries :=
    ⟨Table.ofList (canonicalFields fields), (Json.object.inj h).symm⟩
  have hsame : written t.entries = t.entries := Json.object.inj h
  refine ⟨t, rfl, fun k v hv => ?_⟩
  have hfound := lookup_written t.entries k
  rw [hsame, ← Table.get?_ofList, Table.ofList_entries] at hfound
  change t.get? k = _ at hfound
  rw [hv] at hfound
  exact (Option.some.inj hfound).symm

theorem eq_string_of_text? {v : Json} {s : String} (h : text? v = some s) : v = .string s := by
  cases v with
  | string t =>
    cases h
    rfl
  | _ => cases h

end Json

/-! ## Bags -/

/-- A bag that reading some written value produces. -/
def Bag.Canonical {β : Type} [Bag β] (b : β) : Prop :=
  ∃ value : Json, value.Canonical ∧ b = Bag.ofValue value

namespace LaidBag

variable {β : Type} [Bag β] [LaidBag β]

/-- Fields that are written already are what is written of a bag. -/
theorem toValue_eq {b : β} (h : ∀ k v, (Bag.fields b).get? k = some v → v.Canonical) :
    JsonForm.toValue b = .ofTable (Bag.fields b) := by
  obtain ⟨fields, hfields⟩ := toJson_eq b
  have hbag : Bag.fields b = Table.ofList fields := by rw [Bag.fields, hfields]
  rw [hbag] at h ⊢
  rw [JsonForm.toValue, hfields, Json.canonical_object, Json.written_of_canonical h]
  rfl

/-- What reading makes of a written object: a plain bag of fields that stood in it, or one that has
nothing but the untouched fields and is not plain. -/
theorem ofValue_cases {value : Json} (h : value.Canonical) :
    (Plain (Bag.ofValue value : β) ∧
        ∀ k v, (Bag.fields (Bag.ofValue value : β)).get? k = some v → v.Canonical) ∨
      (ofJson? value : Option β) = none ∧
        ∃ t, value = .ofTable t ∧ (∀ k v, t.get? k = some v → v.Canonical) ∧
          Bag.ofValue value = (Bag.unrecognized t : β) := by
  have hempty : ∀ k v, (Bag.fields (Bag.unrecognized ∅ : β)).get? k = some v → v.Canonical := by
    intro k v hv
    rw [fields_unrecognized] at hv
    cases hv
  cases value with
  | object fields =>
    obtain ⟨t, rfl, hcanonical⟩ := h.exists_table
    change _ ∨ ofJson? (Json.ofTable t) = none ∧ _
    rw [Bag.ofValue]
    cases hread : (ofJson? (Json.object t.entries) : Option β) with
    | none =>
      refine .inr ⟨hread, t, rfl, hcanonical, ?_⟩
      rw [Option.getD_none, Table.ofList_entries]
    | some b =>
      exact .inl ⟨plain_of_ofJson? hread, fun k v hv => hcanonical k v (get?_of_ofJson? hread hv)⟩
  | null | bool _ | number _ | string _ | array _ => exact .inl ⟨plain_unrecognized, hempty⟩

/-- What reading accepts is what it makes of the value. -/
theorem ofValue_of_ofJson? {value : Json} {b : β} (h : ofJson? value = some b) :
    Bag.ofValue value = b := by
  obtain ⟨fields, rfl⟩ := exists_of_ofJson? h
  rw [Bag.ofValue, h, Option.getD_some]

variable {b : β}

/-- A written bag that is plain is read again. -/
theorem ofJson?_toValue_of_plain (h : Bag.Canonical b) (hplain : Plain b) :
    ofJson? (JsonForm.toValue b) = some b := by
  obtain ⟨value, hvalue, rfl⟩ := h
  obtain ⟨-, hcanonical⟩ | ⟨-, t, -, hcanonical, ht⟩ := ofValue_cases (β := β) hvalue
  · rw [toValue_eq hcanonical, ofJson?_fields hplain]
  · rw [ht] at hplain ⊢
    rw [toValue_eq (by rwa [fields_unrecognized]), ofJson?_fields hplain]

/-- One that is not is the value that it was read from, and this is not accepted. -/
theorem toValue_of_not_plain (h : Bag.Canonical b) (hplain : ¬ Plain b) :
    ofJson? (JsonForm.toValue b) = (none : Option β) ∧ Bag.ofValue (JsonForm.toValue b) = b := by
  obtain ⟨value, hvalue, rfl⟩ := h
  obtain ⟨hnot, -⟩ | ⟨hread, t, rfl, hcanonical, ht⟩ := ofValue_cases (β := β) hvalue
  · exact (hplain hnot).elim
  · have hwritten : JsonForm.toValue (Bag.ofValue (.ofTable t) : β) = .ofTable t := by
      rw [ht, toValue_eq (by rwa [fields_unrecognized]), fields_unrecognized]
    rw [hwritten]
    exact ⟨hread, rfl⟩

/-- **What is written of a bag reads back as that bag**, whether it is recognized or not. -/
theorem ofValue_toValue (h : Bag.Canonical b) : Bag.ofValue (JsonForm.toValue b) = b := by
  by_cases hplain : Plain b
  · exact ofValue_of_ofJson? (ofJson?_toValue_of_plain h hplain)
  · exact (toValue_of_not_plain h hplain).2

end LaidBag

end NodeCanvas
