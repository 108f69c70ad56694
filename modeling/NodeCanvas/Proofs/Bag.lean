import NodeCanvas.Bag
import NodeCanvas.Proofs.Table
/-!
# Bags that reading produces

A kind of bag is described by its own fields, each with a name, a type and what is written of it
(`LaidBag`). It is read if every own field is absent, null or of its type, and then it is written as
it stood there, but for own fields that are null (`LaidBag.fields_of_ofJson?`).

A bag can carry, among its untouched fields, one with the name of a field of its own. Reading does
so only when it keeps a whole value unrecognized, and then none of the bag's own fields is set. For
every other bag, writing and reading it back is the identity, and replacing a field in the written
form is the same as setting it in the record (`Parameters.mergedWith_sourceCode`). This is what
makes a change of the code of a node mean the same as a change set and as a record update.
-/

namespace NodeCanvas

/-! ## Types of fields -/

/-- The type of an own field of a bag. -/
inductive FieldType where
  | text
  | flag
  deriving DecidableEq

/-- Whether a value is of a type. -/
def FieldType.admits : FieldType → Json → Bool
  | .text, .string _ => true
  | .flag, .bool _ => true
  | _, _ => false

namespace FieldType

@[reducible] def Value : FieldType → Type
  | .text => String
  | .flag => Bool

def write : (type : FieldType) → type.Value → Json
  | .text => .string
  | .flag => .bool

def read? : (type : FieldType) → Json → Option type.Value
  | .text => Json.text?
  | .flag => Json.bool?

theorem read?_eq_some_iff {type : FieldType} {v : Json} {a : type.Value} :
    type.read? v = some a ↔ v = type.write a := by
  cases type <;> cases v <;> simp [read?, write, Json.text?, Json.bool?]

theorem isSome_read? (type : FieldType) (v : Json) : (type.read? v).isSome = type.admits v := by
  cases type <;> cases v <;> rfl

theorem admits_write {type : FieldType} (a : type.Value) :
    type.admits (type.write a) = true ∧ (type.write a).isNull = false := by
  cases type <;> exact ⟨rfl, rfl⟩

end FieldType

namespace Bag

/-- Whether each of these fields, where it is there, is null or of its type. -/
def fits (types : List (String × FieldType)) (t : Table Json) : Bool :=
  types.all fun field => (t.get? field.1).all fun v => v.isNull || field.2.admits v

/-- The table without those of these fields that are null. -/
def withoutNulls (types : List (String × FieldType)) (t : Table Json) : Table Json :=
  t.filter fun k v => !(v.isNull && (types.map (·.1)).contains k)

section

variable {types : List (String × FieldType)} {t : Table Json} {k : String}

theorem get?_withoutNulls (types : List (String × FieldType)) (t : Table Json) (k : String) :
    (withoutNulls types t).get? k =
      (t.get? k).filter fun v => !(v.isNull && (types.map (·.1)).contains k) :=
  Table.get?_filter ..

theorem get?_withoutNulls_own (h : k ∈ types.map (·.1)) :
    (withoutNulls types t).get? k = (t.get? k).filter (!·.isNull) := by
  rw [get?_withoutNulls, List.contains_iff_mem.2 h]
  simp only [Bool.and_true]

theorem get?_withoutNulls_other (h : k ∉ types.map (·.1)) :
    (withoutNulls types t).get? k = t.get? k := by
  rw [get?_withoutNulls, Bool.eq_false_iff.2 (mt List.contains_iff_mem.1 h)]
  cases t.get? k <;> simp [Option.filter]

theorem withoutNulls_withoutNulls (types : List (String × FieldType)) (t : Table Json) :
    withoutNulls types (withoutNulls types t) = withoutNulls types t := by
  refine Table.ext_get? fun k => ?_
  rw [get?_withoutNulls, get?_withoutNulls, Option.filter_filter]
  simp only [Bool.and_self]

/-- Null fields that are dropped before some are replaced are dropped afterwards. -/
theorem withoutNulls_override {s : Table Json} (h : withoutNulls types s = withoutNulls types t)
    (changes : Table Json) :
    withoutNulls types (s.override changes) = withoutNulls types (t.override changes) := by
  refine Table.ext_get? fun k => ?_
  have hk := congrArg (·.get? k) h
  simp only [get?_withoutNulls] at hk
  rw [get?_withoutNulls, get?_withoutNulls, Table.get?_override, Table.get?_override]
  cases changes.get? k with
  | none => exact hk
  | some v => rfl

theorem fits_iff : fits types t = true ↔
    ∀ field ∈ types, ∀ v, t.get? field.1 = some v → (v.isNull || field.2.admits v) = true := by
  simp only [fits, List.all_eq_true, Option.all_eq_true]

/-- Fields that fit once some are replaced fit when these are replaced once more. -/
theorem fits_override_again {changes : Table Json} (h : fits types (t.override changes) = true) :
    fits types ((withoutNulls types (t.override changes)).override changes) = true := by
  rw [fits_iff] at h ⊢
  intro field hfield v hv
  refine h field hfield v ?_
  rw [Table.get?_override, Option.or_eq_some_iff, get?_withoutNulls] at hv
  obtain hv | ⟨-, hv⟩ := hv
  · rw [Table.get?_override, hv, Option.some_or]
  · exact (Option.filter_eq_some_iff.1 hv).1

end

end Bag

/-! ## Fields of written bags -/

namespace Json

theorem get?_ofList_optionalField {α : Type} (name : String) (write : α → Json) (o : Option α)
    (k : String) :
    (Table.ofList (optionalField name write o)).get? k =
      if k = name then o.map write else none := by
  cases o with
  | none => simp [optionalField, Table.get?_ofList]
  | some a =>
    rw [Table.get?_ofList]
    simp only [optionalField, List.reverse_singleton, Table.lookup_cons_eq_ite, List.lookup_nil,
      Option.map_some]

theorem any_const {α : Type} (o : Option α) (c : Bool) : (o.any fun _ => c) = (o.isSome && c) := by
  cases o <;> rfl

variable {fields : List (String × Json)} {name : String} {type : FieldType}

/-- A field is accepted if it is absent, null or of its type. -/
theorem isSome_optional :
    (optional fields name type.read?).isSome =
      (fields.lookup name).all fun v => v.isNull || type.admits v := by
  rw [optional]
  cases fields.lookup name with
  | none => rfl
  | some v =>
    cases v with
    | null => rfl
    | bool _ | number _ | string _ | array _ | object _ =>
      rw [Option.all_some, ← type.isSome_read?]
      exact Option.isSome_map

/-- It is then what is written of it, unless it is null. -/
theorem optional_eq_some_iff {o : Option type.Value} :
    optional fields name type.read? = some o ↔
      ((fields.lookup name).all fun v => v.isNull || type.admits v) = true ∧
        o.map type.write = (fields.lookup name).filter (!·.isNull) := by
  rw [← isSome_optional, optional]
  cases fields.lookup name with
  | none => cases o <;> simp
  | some v =>
    cases v with
    | null =>
      change some none = some o ↔ true = true ∧ o.map type.write = none
      cases o <;> simp
    | bool _ | number _ | string _ | array _ | object _ =>
      constructor
      · intro h
        obtain ⟨a, ha, rfl⟩ := Option.map_eq_some_iff.1 h
        exact ⟨by rw [h]; rfl, congrArg some (FieldType.read?_eq_some_iff.1 ha).symm⟩
      · rintro ⟨-, h⟩
        obtain ⟨a, rfl, ha⟩ := Option.map_eq_some_iff.1 h
        exact congrArg (Option.map some) (FieldType.read?_eq_some_iff.2 ha.symm)

end Json

theorem otherFields_entries (own : List String) (t : Table Json) :
    otherFields own t.entries = t.filter fun k _ => !own.contains k :=
  Table.ofList_entries (t.filter fun k _ => !own.contains k)

theorem get?_otherFields_own {own : List String} {k : String} (hk : k ∈ own)
    (fields : List (String × Json)) : (otherFields own fields).get? k = none := by
  rw [otherFields, Table.get?_ofList, Table.lookup_eq_none_iff, List.mem_map]
  rintro ⟨field, hmem, rfl⟩
  rw [List.mem_reverse, List.mem_filter] at hmem
  simp [hk] at hmem

/-! ## Kinds of bags -/

/-- An own field of a kind of bag. -/
structure OwnField (β : Type) where
  name : String
  type : FieldType
  value : β → Option type.Value

namespace OwnField

variable {β : Type}

/-- What is written of the field. -/
def written (f : OwnField β) (b : β) : Option Json := (f.value b).map f.type.write

/-- What is written of a field is read as that field. -/
theorem optional_of_written {f : OwnField β} {b : β} {fields : List (String × Json)}
    (h : fields.lookup f.name = f.written b) :
    Json.optional fields f.name f.type.read? = some (f.value b) := by
  rw [Json.optional_eq_some_iff, h, written]
  cases f.value b with
  | none => exact ⟨rfl, rfl⟩
  | some a =>
    obtain ⟨hadmits, hnull⟩ := FieldType.admits_write a
    simp [hadmits, Option.filter_some, hnull]

end OwnField

/-- A kind of bag that is read and written by a list of own fields. -/
class LaidBag (β : Type) [Bag β] where
  own : List (OwnField β)
  /-- The fields that are kept untouched. -/
  extra : β → Table Json
  toJson_eq (b : β) : ∃ fields, toJson b = .object fields
  get?_own (b : β) : ∀ f ∈ own,
    (Bag.fields b).get? f.name = ((extra b).get? f.name).or (f.written b)
  get?_other (b : β) {k : String} :
    k ∉ own.map (·.name) → (Bag.fields b).get? k = (extra b).get? k
  extra_unrecognized (t : Table Json) : extra (Bag.unrecognized t) = t
  fields_unrecognized (t : Table Json) : Bag.fields (Bag.unrecognized t : β) = t
  exists_of_ofJson? {value : Json} {b : β} :
    ofJson? value = some b → ∃ fields, value = .object fields
  ofJson?_eq_some_iff {fields : List (String × Json)} {b : β} : ofJson? (.object fields) = some b ↔
    (∀ f ∈ own, Json.optional fields f.name f.type.read? = some (f.value b)) ∧
      otherFields (own.map (·.name)) fields = extra b
  isSome_ofJson? (fields : List (String × Json)) : (ofJson? (.object fields) : Option β).isSome =
    own.all fun f => (Json.optional fields f.name f.type.read?).isSome

/-- A bag that reading some value produces. -/
def Bag.Decodable {β : Type} [Bag β] (b : β) : Prop := ∃ value, b = Bag.ofValue value

theorem Bag.decodable_ofValue {β : Type} [Bag β] (value : Json) :
    Bag.Decodable (Bag.ofValue value : β) :=
  ⟨value, rfl⟩

theorem Bag.decodable_mergedWith {β : Type} [Bag β] (b : β) (changes : Table Json) :
    Bag.Decodable (Bag.mergedWith b changes) :=
  Bag.decodable_ofValue _

namespace LaidBag

open Bag

variable (β : Type) [Bag β] [LaidBag β]

def names : List String := (own (β := β)).map (·.name)

def types : List (String × FieldType) := (own (β := β)).map fun f => (f.name, f.type)

variable {β} {b : β} {t changes : Table Json}

/-- None of the untouched fields has the name of an own field. -/
def Plain (b : β) : Prop := ∀ k ∈ names β, (extra b).get? k = none

theorem plain_unrecognized : Plain (unrecognized ∅ : β) := by
  intro k _
  rw [extra_unrecognized]
  rfl

theorem plain_of_ofJson? {fields : List (String × Json)} (h : ofJson? (.object fields) = some b) :
    Plain b := by
  intro k hk
  rw [← (ofJson?_eq_some_iff.1 h).2]
  exact get?_otherFields_own hk fields

/-- **A bag is written as it stood there**, but for own fields that are null. -/
theorem fields_of_ofJson? (h : ofJson? (Json.ofTable t) = some b) :
    fields b = withoutNulls (types β) t := by
  have hnames : (types β).map (·.1) = names β := List.map_map
  obtain ⟨hown, hextra⟩ := ofJson?_eq_some_iff.1 h
  refine Table.ext_get? fun k => ?_
  by_cases hk : k ∈ names β
  · rw [get?_withoutNulls_own (hnames ▸ hk)]
    have hplain := plain_of_ofJson? h k hk
    obtain ⟨f, hf, rfl⟩ := List.mem_map.1 hk
    rw [get?_own b f hf, hplain, Option.none_or]
    exact (Json.optional_eq_some_iff.1 (hown f hf)).2
  · rw [get?_withoutNulls_other (hnames ▸ hk), get?_other b hk, ← hextra, otherFields_entries,
      Table.get?_filter]
    have hother : k ∉ (own (β := β)).map (·.name) := hk
    cases t.get? k <;> simp [Option.filter, hother]

theorem get?_of_ofJson? {k : String} {v : Json} (h : ofJson? (Json.ofTable t) = some b)
    (hv : (fields b).get? k = some v) : t.get? k = some v := by
  rw [fields_of_ofJson? h, get?_withoutNulls] at hv
  exact (Option.filter_eq_some_iff.1 hv).1

theorem isSome_ofJson?_eq_fits (t : Table Json) :
    (ofJson? (Json.ofTable t) : Option β).isSome = fits (types β) t := by
  rw [fits, types, List.all_map]
  refine (isSome_ofJson? t.entries).trans (congrArg _ (funext fun f => ?_))
  exact Json.isSome_optional

/-- **What is written of a plain bag reads back as that bag.** -/
theorem ofJson?_fields (h : Plain b) : ofJson? (Json.ofTable (fields b)) = some b := by
  refine ofJson?_eq_some_iff.2 ⟨fun f hf => OwnField.optional_of_written ?_, ?_⟩
  · change (fields b).get? f.name = _
    rw [get?_own b f hf, h _ (List.mem_map_of_mem hf), Option.none_or]
  · rw [otherFields_entries]
    refine Table.ext_get? fun k => ?_
    rw [Table.get?_filter]
    by_cases hk : k ∈ (own (β := β)).map (·.name)
    · rw [h k hk, Option.filter_eq_none_iff]
      simp [hk]
    · rw [get?_other b hk]
      cases (extra b).get? k <;> simp [Option.filter, hk]

theorem ofValue_fields_of_plain (h : Plain b) : ofValue (.ofTable (fields b)) = b := by
  change (ofJson? (Json.ofTable (fields b))).getD _ = b
  rw [ofJson?_fields h]
  rfl

theorem decodable_of_plain (h : Plain b) : Decodable b := ⟨_, (ofValue_fields_of_plain h).symm⟩

/-- What reading makes of an object: a plain bag, or one that has only untouched fields. -/
theorem plain_or_unrecognized (h : Decodable b) : Plain b ∨ ∃ t, b = unrecognized t := by
  obtain ⟨value, rfl⟩ := h
  cases value with
  | object fields =>
    rw [ofValue]
    cases hread : (ofJson? (Json.object fields) : Option β) with
    | none => exact .inr ⟨_, rfl⟩
    | some b => exact .inl (plain_of_ofJson? hread)
  | null | bool _ | number _ | string _ | array _ => exact .inr ⟨_, rfl⟩

/-- What was read after some changes is read again when they are made to what is written of it. -/
theorem ofJson?_override (hread : ofJson? (Json.ofTable (t.override changes)) = some b) :
    ofJson? (Json.ofTable ((fields b).override changes)) = some b := by
  have hfields := fields_of_ofJson? hread
  have hfits : fits (types β) ((fields b).override changes) = true := by
    rw [hfields]
    refine fits_override_again ?_
    rw [← isSome_ofJson?_eq_fits, hread]
    rfl
  rw [← isSome_ofJson?_eq_fits] at hfits
  obtain ⟨c, hc⟩ := Option.isSome_iff_exists.1 hfits
  -- Both are plain and written alike.
  have hsame : fields c = fields b := by
    rw [fields_of_ofJson? hc, hfields, withoutNulls_override (withoutNulls_withoutNulls ..),
      Table.override_override]
  have hb := ofJson?_fields (plain_of_ofJson? hread)
  rw [← hsame, ofJson?_fields (plain_of_ofJson? hc)] at hb
  rw [hc, hb]

/-- **The same changes once more change nothing.** Either all of it can be read, before and after,
or nothing was and everything is kept as it is. -/
theorem mergedWith_mergedWith (b : β) (changes : Table Json) :
    mergedWith (mergedWith b changes) changes = mergedWith b changes := by
  cases hread : (ofJson? (Json.ofTable ((fields b).override changes)) : Option β) with
  | none =>
    have hmerged : mergedWith b changes = unrecognized ((fields b).override changes) := by
      change (ofJson? (Json.ofTable _)).getD (unrecognized (Table.ofList _)) = _
      rw [hread, Table.ofList_entries]
      rfl
    rw [hmerged, mergedWith, fields_unrecognized, Table.override_override]
    exact hmerged
  | some c =>
    have hmerged : mergedWith b changes = c := by
      change (ofJson? (Json.ofTable _)).getD _ = _
      rw [hread]
      rfl
    rw [hmerged]
    change (ofJson? (Json.ofTable ((fields c).override changes))).getD _ = c
    rw [ofJson?_override hread]
    rfl

end LaidBag

/-! ## Parameters -/

namespace Parameters

variable {p q : Parameters}

theorem get?_fields (p : Parameters) (k : String) :
    (Bag.fields p).get? k =
      (p.extra.get? k).or
        ((if k = "hide_ports" then p.hidePorts.map .bool else none).or
        ((if k = "hide_title" then p.hideTitle.map .bool else none).or
        ((if k = "source_language" then p.sourceLanguage.map .string else none).or
        ((if k = "function_name" then p.functionName.map .string else none).or
        ((if k = "code" then p.code.map .string else none).or
        ((if k = "source_code" then p.sourceCode.map .string else none).or
        (if k = "name" then p.name.map .string else none))))))) := by
  change (Table.ofList (_ ++ _)).get? k = _
  simp only [Table.get?_ofList_append, Json.get?_ofList_optionalField, Table.ofList_entries]

instance : LaidBag Parameters where
  own := [⟨"name", .text, (·.name)⟩, ⟨"source_code", .text, (·.sourceCode)⟩,
    ⟨"code", .text, (·.code)⟩, ⟨"function_name", .text, (·.functionName)⟩,
    ⟨"source_language", .text, (·.sourceLanguage)⟩, ⟨"hide_title", .flag, (·.hideTitle)⟩,
    ⟨"hide_ports", .flag, (·.hidePorts)⟩]
  extra := (·.extra)
  toJson_eq _ := ⟨_, rfl⟩
  get?_own p := by simp [get?_fields, OwnField.written, FieldType.write]
  get?_other p k hk := by
    simp only [List.map_cons, List.map_nil, List.mem_cons, List.not_mem_nil, or_false, not_or] at hk
    simp [get?_fields, hk]
  extra_unrecognized _ := rfl
  fields_unrecognized t := Table.ext_get? fun k => by
    rw [get?_fields]
    simp [Bag.unrecognized]
  exists_of_ofJson? {value _} h := by
    cases value with
    | object fields => exact ⟨fields, rfl⟩
    | _ => cases h
  ofJson?_eq_some_iff {fields p} := by
    cases p
    simp [ofJson?, Option.bind_eq_some_iff, FieldType.read?, ownFields, and_assoc]
  isSome_ofJson? fields := by
    simp [ofJson?, Option.isSome_bind, Json.any_const, FieldType.read?]

theorem decodable_empty : Bag.Decodable ({} : Parameters) :=
  LaidBag.decodable_of_plain fun _ _ => rfl

/-- A bag that was read and has code of its own is plain. -/
theorem plain_of_decodable_sourceCode {code : String}
    (h : Bag.Decodable { p with sourceCode := some code }) : LaidBag.Plain p := by
  obtain hplain | ⟨extra, heq⟩ := LaidBag.plain_or_unrecognized h
  · exact hplain
  · cases congrArg Parameters.sourceCode heq

/-- A bag that was read and in which there is code to be run is plain. -/
theorem plain_of_decodable_sourceText {code : String} (h : Bag.Decodable p)
    (hcode : p.sourceText = some code) : LaidBag.Plain p := by
  obtain hplain | ⟨extra, rfl⟩ := LaidBag.plain_or_unrecognized h
  · exact hplain
  · cases hcode

theorem beq_iff : (p == q) = true ↔
      p.name = q.name ∧ p.sourceCode = q.sourceCode ∧ p.code = q.code ∧
        p.functionName = q.functionName ∧ p.sourceLanguage = q.sourceLanguage ∧
        p.hideTitle = q.hideTitle ∧ p.hidePorts = q.hidePorts ∧ (p.extra == q.extra) = true := by
  cases p
  cases q
  change instBEqParameters.beq _ _ = true ↔ _
  simp only [instBEqParameters.beq, Bool.and_eq_true, beq_iff_eq]

theorem plain_of_beq (h : (p == q) = true) (hq : LaidBag.Plain q) : LaidBag.Plain p :=
  fun k hk => (Table.get?_eq_none_iff_of_beq (beq_iff.1 h).2.2.2.2.2.2.2).2 (hq k hk)

theorem beq_withSourceCode (h : (p == q) = true) (code : Option String) :
    (({ p with sourceCode := code } : Parameters) == { q with sourceCode := code }) = true := by
  obtain ⟨hname, _, hrest⟩ := beq_iff.1 h
  exact beq_iff.2 ⟨hname, rfl, hrest⟩

/-- Replacing the code of a plain bag in its written form replaces it in the record. -/
theorem mergedWith_sourceCode (h : LaidBag.Plain p) (code : String) :
    Bag.mergedWith p (Table.empty.insert "source_code" (.string code)) =
      { p with sourceCode := some code } := by
  have hfields : (Bag.fields p).override (Table.empty.insert "source_code" (.string code)) =
      Bag.fields { p with sourceCode := some code } := by
    refine Table.ext_get? fun k => ?_
    rw [Table.get?_override, Table.get?_insert, get?_fields, get?_fields]
    by_cases hk : k = "source_code"
    · subst hk
      have hother : p.extra.get? "source_code" = none := h _ (by decide)
      rw [hother]
      simp
    · simp [hk, Table.empty, Table.get?]
  rw [Bag.mergedWith, hfields]
  exact LaidBag.ofValue_fields_of_plain h

end Parameters

/-! ## Metadata -/

namespace Metadata

theorem get?_fields (m : Metadata) (k : String) :
    (Bag.fields m).get? k =
      (m.extra.get? k).or
        ((if k = "extended_type" then m.extendedType.map .string else none).or
        ((if k = "raw_name" then m.rawName.map .string else none).or
        ((if k = "source_language" then m.sourceLanguage.map .string else none).or
        ((if k = "description" then m.description.map .string else none).or
        (if k = "display_name" then m.displayName.map .string else none))))) := by
  change (Table.ofList (_ ++ _)).get? k = _
  simp only [Table.get?_ofList_append, Json.get?_ofList_optionalField, Table.ofList_entries]

instance : LaidBag Metadata where
  own := [⟨"display_name", .text, (·.displayName)⟩, ⟨"description", .text, (·.description)⟩,
    ⟨"source_language", .text, (·.sourceLanguage)⟩, ⟨"raw_name", .text, (·.rawName)⟩,
    ⟨"extended_type", .text, (·.extendedType)⟩]
  extra := (·.extra)
  toJson_eq _ := ⟨_, rfl⟩
  get?_own m := by simp [get?_fields, OwnField.written, FieldType.write]
  get?_other m k hk := by
    simp only [List.map_cons, List.map_nil, List.mem_cons, List.not_mem_nil, or_false, not_or] at hk
    simp [get?_fields, hk]
  extra_unrecognized _ := rfl
  fields_unrecognized t := Table.ext_get? fun k => by
    rw [get?_fields]
    simp [Bag.unrecognized]
  exists_of_ofJson? {value _} h := by
    cases value with
    | object fields => exact ⟨fields, rfl⟩
    | _ => cases h
  ofJson?_eq_some_iff {fields m} := by
    cases m
    simp [ofJson?, Option.bind_eq_some_iff, FieldType.read?, ownFields, and_assoc]
  isSome_ofJson? fields := by
    simp [ofJson?, Option.isSome_bind, Json.any_const, FieldType.read?]

end Metadata

end NodeCanvas
