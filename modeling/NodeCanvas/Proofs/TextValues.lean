import NodeCanvas.Json.Markup
import NodeCanvas.Proofs.Magnitude
import NodeCanvas.Proofs.Written
/-!
# Values of texts

What a text stands for is a value in which every object is a table and every whole number has at most
64 bits (`Json.Valid`). Such a value is written already, and all of its numbers are finite. Reading a
text makes no others (`Json.valid_of_parse?`).
-/

namespace NodeCanvas

namespace Json

/-- Whole numbers are those of a signed or of an unsigned word. -/
def Number.IsWord : Number → Prop
  | .int n => -9223372036854775808 ≤ n ∧ n ≤ 18446744073709551615
  | .float _ _ => True

/-- A value such as texts stand for. -/
inductive Valid : Json → Prop
  | null : Valid .null
  | bool (b : Bool) : Valid (.bool b)
  | number {n : Number} (h : n.IsWord) : Valid (.number n)
  | string (s : String) : Valid (.string s)
  | array {items : List Json} (h : ∀ item ∈ items, Valid item) : Valid (.array items)
  | object {t : Table Json} (h : ∀ k v, t.get? k = some v → Valid v) : Valid (.object t.entries)

theorem Number.IsWord.isFinite {n : Number} (h : n.IsWord) : n.toFloat.isFinite = true := by
  cases n with
  | int n =>
    have hword : n.natAbs < 2 ^ 64 := by
      obtain ⟨hlow, hhigh⟩ := h
      omega
    exact isFinite_ofInt hword
  | float x finite => exact finite

namespace Valid

variable {v : Json} {fields : List (String × Json)}

/-- Every object of such a value is in order. -/
theorem canonical (h : v.Valid) : v.Canonical := by
  induction h with
  | null | bool | number | string => rfl
  | array _ ih =>
    rw [Canonical, canonical_array]
    exact congrArg Json.array ((List.map_congr_left ih).trans (List.map_id _))
  | @object t _ ih =>
    have hfields : ∀ k v, (Table.ofList t.entries).get? k = some v → v.Canonical := by
      rw [Table.ofList_entries]
      exact ih
    rw [Canonical, canonical_object, written_of_canonical hfields, Table.ofList_entries]

theorem float? (h : v.Valid) {x : Float} (hx : v.float? = some x) : x.isFinite = true := by
  cases h with
  | number hword =>
    cases hx
    exact hword.isFinite
  | null | bool | string | array | object => cases hx

theorem lookup (h : (Json.object fields).Valid) {name : String}
    (hv : fields.lookup name = some v) : v.Valid := by
  cases h with
  | object hfields => exact hfields name v hv

theorem mem {items : List Json} (h : (Json.array items).Valid) (hv : v ∈ items) : v.Valid := by
  cases h with
  | array hitems => exact hitems v hv

theorem mem_fields (h : (Json.object fields).Valid)
    {field : String × Json} (hfield : field ∈ fields) : field.2.Valid := by
  cases h with
  | object hfields => exact hfields field.1 field.2 (Table.get?_eq_some_iff.2 hfield)

/-- The object of fields that were read one after the other. -/
theorem ofList (h : ∀ field ∈ fields, field.2.Valid) :
    (Json.object (Table.ofList fields).entries).Valid :=
  .object fun _ _ hv => h _ (Table.mem_of_get?_ofList hv)

end Valid

end Json

/-! ## Reading -/

theorem Json.Number.isWord_ofFloat? {x : Float} {n : Json.Number}
    (h : Json.Number.ofFloat? x = some n) : n.IsWord := by
  unfold Json.Number.ofFloat? at h
  split at h
  · cases h
    trivial
  · cases h

theorem Numeral.isWord_number? {numeral : Numeral} {n : Json.Number}
    (h : numeral.number? = some n) : n.IsWord := by
  have hgreatest : greatestWord = 18446744073709551615 := rfl
  unfold number? at h
  simp only at h
  split at h
  · rename_i hwhole
    split at h
    · cases h
      exact ⟨by omega, by omega⟩
    · split at h
      · exact Json.Number.isWord_ofFloat? h
      · cases h
        exact ⟨by omega, by omega⟩
  · obtain ⟨size, -, hsize⟩ := Option.bind_eq_some_iff.1 h
    exact Json.Number.isWord_ofFloat? hsize

namespace Markup

mutual

theorem valid_of_valueWithin? : ∀ (tree : Markup) {depth : Nat} {v : Json},
    valueWithin? depth tree = some v → v.Valid
  | .null, _, _, h => by
    cases h
    exact .null
  | .bool b, _, _, h => by
    cases h
    exact .bool b
  | .number n, _, _, h => by
    obtain ⟨number, hnumber, rfl⟩ := Option.map_eq_some_iff.1 h
    exact .number (Numeral.isWord_number? hnumber)
  | .string s, _, _, h => by
    obtain ⟨text, -, rfl⟩ := Option.map_eq_some_iff.1 h
    exact .string text
  | .array items, 0, _, h => by cases h
  | .array items, depth + 1, _, h => by
    obtain ⟨values, hvalues, rfl⟩ := Option.map_eq_some_iff.1 h
    exact .array (valid_of_itemsWithin? items hvalues)
  | .object fields, 0, _, h => by cases h
  | .object fields, depth + 1, _, h => by
    obtain ⟨values, hvalues, rfl⟩ := Option.map_eq_some_iff.1 h
    exact .ofList (valid_of_fieldsWithin? fields hvalues)

theorem valid_of_itemsWithin? : ∀ (items : List Markup) {depth : Nat} {vs : List Json},
    itemsWithin? depth items = some vs → ∀ v ∈ vs, v.Valid
  | [], _, _, h => by
    cases h
    exact List.forall_mem_nil _
  | item :: rest, depth, _, h => by
    simp only [itemsWithin?, Option.pure_def, Option.bind_eq_bind, Option.bind_eq_some_iff,
      Option.some.injEq] at h
    obtain ⟨v, hv, vs, hvs, rfl⟩ := h
    exact List.forall_mem_cons.2 ⟨valid_of_valueWithin? item hv, valid_of_itemsWithin? rest hvs⟩

theorem valid_of_fieldsWithin? : ∀ (fields : List (Option String × Markup)) {depth : Nat}
    {vs : List (String × Json)}, fieldsWithin? depth fields = some vs → ∀ v ∈ vs, v.2.Valid
  | [], _, _, h => by
    cases h
    exact List.forall_mem_nil _
  | (name, value) :: rest, depth, _, h => by
    simp only [fieldsWithin?, Option.pure_def, Option.bind_eq_bind, Option.bind_eq_some_iff,
      Option.some.injEq] at h
    obtain ⟨name, -, v, hv, vs, hvs, rfl⟩ := h
    exact List.forall_mem_cons.2 ⟨valid_of_valueWithin? value hv, valid_of_fieldsWithin? rest hvs⟩

end

end Markup

/-- **What a text stands for is valid.** -/
theorem Json.valid_of_parse? {text : String} {v : Json} (h : Json.parse? text = some v) :
    v.Valid := by
  obtain ⟨tree, -, hv⟩ := Option.bind_eq_some_iff.1 h
  exact tree.valid_of_valueWithin? hv

end NodeCanvas
