import NodeCanvas.Table
import Mathlib.Data.List.Nodup
/-!
# Tables by what is found in them

A table is determined by what `get?` finds under each key
(`Table.ext_get?`), so every operation is described by what is found
afterwards: one equation for each way to change a table. Proofs about
graphs and backends use these equations and never look at the entries.
-/

namespace NodeCanvas

universe u v

namespace Table

variable {α : Type u} {β : Type v}
  {entries : List (String × α)} {k : String} {v : α} {t s : Table α} {key : α → String}

/-! ## What the entries say -/

theorem lookup_cons_eq_ite (key : String) (v : α) (rest : List (String × α)) (k : String) :
    ((key, v) :: rest).lookup k = if k = key then some v else rest.lookup k := by
  rw [List.lookup_cons]
  by_cases hk : k = key
  · simp [hk]
  · rw [beq_eq_false_iff_ne.2 hk, if_neg hk]

/-- In a list without two entries for one key, a key is found exactly
where its entry stands. -/
theorem lookup_eq_some_iff (h : (entries.map (·.1)).Nodup) :
    entries.lookup k = some v ↔ (k, v) ∈ entries := by
  induction entries with
  | nil => simp
  | cons head rest ih =>
    obtain ⟨key, value⟩ := head
    rw [List.map_cons, List.nodup_cons] at h
    rw [lookup_cons_eq_ite]
    by_cases hk : k = key
    · subst hk
      have hnot : (k, v) ∉ rest := fun hmem => h.1 (List.mem_map.2 ⟨(k, v), hmem, rfl⟩)
      simp only [if_true, Option.some.injEq, List.mem_cons, Prod.mk.injEq, true_and, hnot, or_false]
      exact eq_comm
    · simp [hk, ih h.2]

theorem lookup_eq_none_iff : entries.lookup k = none ↔ k ∉ entries.map (·.1) := by
  rw [List.lookup_eq_none_iff, List.mem_map, not_exists]
  refine forall_congr' fun e => ?_
  rw [bne_iff_ne, not_and, ne_comm]

theorem mem_of_lookup (h : entries.lookup k = some v) : (k, v) ∈ entries := by
  obtain ⟨before, after, rfl, -⟩ := List.lookup_eq_some_iff.1 h
  simp

/-- A second list with the same keys adds nothing. -/
theorem lookup_or_of_keys_eq {xs ys : List (String × α)} (h : xs.map (·.1) = ys.map (·.1))
    (k : String) : (xs.lookup k).or (ys.lookup k) = xs.lookup k := by
  cases hxs : xs.lookup k with
  | some v => rfl
  | none =>
    rw [Option.none_or, lookup_eq_none_iff, ← h]
    exact lookup_eq_none_iff.1 hxs

/-- No key of a table stands twice. -/
theorem nodup_keys (t : Table α) : (t.entries.map (·.1)).Nodup := by
  rw [List.Nodup, List.pairwise_map]
  refine t.ascending.imp ?_
  intro a b hab heq
  rw [heq] at hab
  exact String.lt_irrefl b.1 hab

theorem get?_eq_some_iff : t.get? k = some v ↔ (k, v) ∈ t.entries :=
  lookup_eq_some_iff t.nodup_keys

/-- A table is what is found in it. -/
theorem ext_get? (h : ∀ k, s.get? k = t.get? k) : s = t := by
  have hmem : ∀ e, e ∈ s.entries ↔ e ∈ t.entries := by
    rintro ⟨k, v⟩
    rw [← get?_eq_some_iff, ← get?_eq_some_iff, h k]
  have hperm : s.entries.Perm t.entries :=
    (List.perm_ext_iff_of_nodup s.nodup_keys.of_map t.nodup_keys.of_map).2 hmem
  refine ext_entries (hperm.eq_of_pairwise ?_ s.ascending t.ascending)
  intro a b _ _ hab hba
  exact absurd (String.lt_trans hab hba) (String.lt_irrefl a.1)

theorem mem_values_iff : v ∈ t.values ↔ ∃ k, t.get? k = some v := by
  simp only [values, List.mem_map, Prod.exists, get?_eq_some_iff]
  exact ⟨fun ⟨k, w, hmem, hw⟩ => ⟨k, hw ▸ hmem⟩, fun ⟨k, hmem⟩ => ⟨k, v, hmem, rfl⟩⟩

theorem contains_iff : t.contains k = true ↔ ∃ v, t.get? k = some v := by
  rw [contains, Option.isSome_iff_exists]

theorem contains_eq_of_rel {r : α → β → Prop} {t : Table β}
    (h : Option.Rel r (s.get? k) (t.get? k)) : s.contains k = t.contains k := by
  rw [contains, contains]
  generalize s.get? k = o, t.get? k = o' at h ⊢
  cases h with
  | none => rfl
  | some => rfl

theorem isEmpty_iff : t.isEmpty = true ↔ ∀ k, t.get? k = none := by
  rw [isEmpty, List.isEmpty_iff]
  constructor
  · intro h k
    rw [get?, h, List.lookup_nil]
  · intro h
    refine List.eq_nil_iff_forall_not_mem.2 fun ⟨k, v⟩ hmem => ?_
    rw [← get?_eq_some_iff, h k] at hmem
    cases hmem

/-- What tables that compare as equal hold under a key compares as equal. -/
theorem get?_beq_of_beq [BEq α] (h : (s == t) = true) (k : String) :
    (s.get? k == t.get? k) = true := by
  have hlookup : ∀ xs ys : List (String × α), (xs == ys) = true →
      (xs.lookup k == ys.lookup k) = true := by
    intro xs
    induction xs with
    | nil =>
      intro ys hxs
      cases ys with
      | nil => rfl
      | cons => cases hxs
    | cons x xs ih =>
      intro ys hxs
      cases ys with
      | nil => cases hxs
      | cons y ys =>
        rw [List.cons_beq_cons, Bool.and_eq_true] at hxs
        have hfst : (x.1 == y.1 && x.2 == y.2) = true := hxs.1
        rw [Bool.and_eq_true, beq_iff_eq] at hfst
        rw [lookup_cons_eq_ite, lookup_cons_eq_ite, hfst.1]
        split
        · exact hfst.2
        · exact ih ys hxs.2
  exact hlookup _ _ h

theorem get?_eq_none_iff : t.get? k = none ↔ k ∉ t.keys :=
  lookup_eq_none_iff

theorem get?_eq_none_iff_of_beq [BEq α] (h : (s == t) = true) :
    s.get? k = none ↔ t.get? k = none := by
  have hfound := get?_beq_of_beq h k
  cases hs : s.get? k <;> cases ht : t.get? k <;> simp_all

/-! ## What is found after a change -/

@[simp] theorem get?_empty (k : String) : (∅ : Table α).get? k = none := rfl

@[simp] theorem contains_empty (k : String) : (∅ : Table α).contains k = false := rfl

theorem lookup_insertEntry {key : String} {value : α} (k : String) (entries : List (String × α)) :
    (insertEntry key value entries).lookup k = if k = key then some value else entries.lookup k := by
  induction entries with
  | nil => rw [insertEntry, lookup_cons_eq_ite]
  | cons head rest ih =>
    obtain ⟨first, v⟩ := head
    simp only [insertEntry]
    split
    · rw [lookup_cons_eq_ite]
    · split
      · rename_i hsame
        subst hsame
        rw [lookup_cons_eq_ite, lookup_cons_eq_ite]
        by_cases hk : k = key <;> simp [hk]
      · rename_i hother
        rw [lookup_cons_eq_ite, lookup_cons_eq_ite, ih]
        by_cases hk : k = first
        · subst hk
          simp [Ne.symm hother]
        · simp [hk]

theorem get?_insert (t : Table α) (key : String) (value : α) (k : String) :
    (t.insert key value).get? k = if k = key then some value else t.get? k :=
  lookup_insertEntry k t.entries

@[simp] theorem get?_insert_self (t : Table α) (key : String) (value : α) :
    (t.insert key value).get? key = some value := by
  rw [get?_insert, if_pos rfl]

/-- What is there stays when something is inserted. -/
theorem contains_insert {key : String} {value : α} (h : t.contains k = true) :
    (t.insert key value).contains k = true := by
  rw [contains, get?_insert]
  split
  · rfl
  · exact h

theorem get?_filter (t : Table α) (keep : String → α → Bool) (k : String) :
    (t.filter keep).get? k = (t.get? k).filter (keep k) := by
  refine Option.ext fun v => ?_
  rw [get?_eq_some_iff, Option.filter_eq_some_iff, get?_eq_some_iff]
  simp [filter]

theorem values_filter (t : Table α) (keep : α → Bool) :
    (t.filter fun _ v => keep v).values = t.values.filter keep := by
  rw [values, values, List.filter_map]
  rfl

theorem get?_erase (t : Table α) (key k : String) :
    (t.erase key).get? k = if k = key then none else t.get? k := by
  rw [erase, get?_filter]
  by_cases hk : k = key
  · simp [hk]
  · cases t.get? k <;> simp [hk, Option.filter]

theorem get?_mapValues (t : Table α) (f : String → α → β) (k : String) :
    (t.mapValues f).get? k = (t.get? k).map (f k) := by
  refine Option.ext fun v => ?_
  rw [get?_eq_some_iff, Option.map_eq_some_iff]
  simp only [mapValues, List.mem_map, Prod.mk.injEq, Prod.exists, get?_eq_some_iff]
  constructor
  · rintro ⟨k', a, hmem, rfl, hv⟩
    exact ⟨a, hmem, hv⟩
  · rintro ⟨a, hmem, hv⟩
    exact ⟨k, a, hmem, rfl, hv⟩

theorem get?_modify (t : Table α) (key : String) (f : α → α) (k : String) :
    (t.modify key f).get? k = if k = key then (t.get? k).map f else t.get? k := by
  rw [modify, get?_mapValues]
  by_cases hk : k = key
  · simp [hk]
  · simp [hk]

/-- Erasing several keys leaves what stands under the others. -/
theorem get?_foldl_erase (keys : List String) (t : Table α) (k : String) :
    (keys.foldl erase t).get? k = if k ∈ keys then none else t.get? k := by
  induction keys generalizing t with
  | nil => simp
  | cons key keys ih =>
    rw [List.foldl_cons, ih, get?_erase]
    by_cases hk : k = key
    · simp [hk]
    · simp [hk]

/-- Of several entries put into a table the last with a key counts. -/
theorem get?_foldl_insert (entries : List (String × α)) (t : Table α) (k : String) :
    (entries.foldl (fun t e => t.insert e.1 e.2) t).get? k =
      (entries.reverse.lookup k).or (t.get? k) := by
  induction entries generalizing t with
  | nil => simp
  | cons e entries ih =>
    obtain ⟨key, v⟩ := e
    rw [List.foldl_cons, ih, get?_insert, List.reverse_cons, List.lookup_append, Option.or_assoc,
      lookup_cons_eq_ite, List.lookup_nil]
    by_cases hk : k = key
    · simp [hk]
    · simp [hk]

theorem get?_ofList (entries : List (String × α)) (k : String) :
    (ofList entries).get? k = entries.reverse.lookup k := by
  rw [ofList, get?_foldl_insert]
  change (entries.reverse.lookup k).or none = _
  rw [Option.or_none]

/-- What is found in the table of a list stands in the list. -/
theorem mem_of_get?_ofList (h : (ofList entries).get? k = some v) : (k, v) ∈ entries := by
  rw [get?_ofList] at h
  exact List.mem_reverse.1 (mem_of_lookup h)

theorem get?_ofList_append (xs ys : List (String × α)) (k : String) :
    (ofList (xs ++ ys)).get? k = ((ofList ys).get? k).or ((ofList xs).get? k) := by
  simp only [get?_ofList, List.reverse_append, List.lookup_append]

/-- Where no key stands twice, each entry is found under its key. -/
theorem get?_ofList_of_nodup (h : (entries.map (·.1)).Nodup)
    (k : String) : (ofList entries).get? k = entries.lookup k := by
  have hreverse : (entries.reverse.map (·.1)).Nodup := by
    rw [List.map_reverse]
    exact List.nodup_reverse.2 h
  refine Option.ext fun v => ?_
  rw [get?_ofList, lookup_eq_some_iff hreverse, lookup_eq_some_iff h, List.mem_reverse]

theorem get?_ofList_of_mem (h : (entries.map (·.1)).Nodup) (hmem : (k, v) ∈ entries) :
    (ofList entries).get? k = some v := by
  rw [get?_ofList_of_nodup h]
  exact (lookup_eq_some_iff h).2 hmem

theorem get?_override (t other : Table α) (k : String) :
    (t.override other).get? k = (other.get? k).or (t.get? k) := by
  rw [override, get?_foldl_insert, ← get?_ofList, get?_ofList_of_nodup other.nodup_keys]
  rfl

theorem override_override (t other : Table α) :
    (t.override other).override other = t.override other := by
  refine ext_get? fun k => ?_
  rw [get?_override, get?_override, ← Option.or_assoc, Option.or_self]

/-- The entries of a table make up the table. -/
theorem ofList_entries (t : Table α) : ofList t.entries = t := by
  refine ext_get? fun k => ?_
  rw [get?_ofList_of_nodup t.nodup_keys]
  rfl

/-- A table in which is found what stands in a list, each key once, holds the values of the list. -/
theorem values_perm (hkeys : (entries.map (·.1)).Nodup) (hget : ∀ k, t.get? k = entries.lookup k) :
    t.values.Perm (entries.map (·.2)) := by
  refine List.Perm.map _ ((List.perm_ext_iff_of_nodup t.nodup_keys.of_map hkeys.of_map).2 ?_)
  rintro ⟨k, v⟩
  rw [← get?_eq_some_iff, hget, lookup_eq_some_iff hkeys]

/-! ## Values that name their keys -/

/-- The keys that values name, where they name their own. -/
theorem map_values_eq_keys
    (hkey : ∀ k v, t.get? k = some v → key v = k) : t.values.map key = t.keys := by
  rw [values, keys, List.map_map]
  refine List.map_congr_left fun e he => ?_
  exact hkey e.1 e.2 (get?_eq_some_iff.2 he)

/-- The values of a table, each under its key, make up the table. -/
theorem ofList_values (hkey : ∀ k v, t.get? k = some v → key v = k) :
    ofList (t.values.map fun v => (key v, v)) = t := by
  have hentries : t.values.map (fun v => (key v, v)) = t.entries := by
    rw [values, List.map_map]
    refine (List.map_congr_left fun e he => ?_).trans (List.map_id t.entries)
    exact congrArg (·, e.2) (hkey e.1 e.2 (get?_eq_some_iff.2 he))
  rw [hentries, ofList_entries]

/-- What is picked from the values of a table, each under its key, has no key twice. -/
theorem nodup_filterMap_values (hkey : ∀ k v, t.get? k = some v → key v = k) (f : α → Option β) :
    ((t.values.filterMap fun v => (f v).map fun x => (key v, x)).map (·.1)).Nodup := by
  have hkeys : (t.values.map key).Nodup := by
    rw [map_values_eq_keys hkey]
    exact t.nodup_keys
  rw [List.Nodup, List.pairwise_map, List.pairwise_filterMap]
  refine (List.pairwise_map.1 hkeys).imp fun {v w} hne x hx y hy => ?_
  obtain ⟨_, _, rfl⟩ := Option.map_eq_some_iff.1 hx
  obtain ⟨_, _, rfl⟩ := Option.map_eq_some_iff.1 hy
  exact hne

theorem lookup_filterMap_values
    (hkey : ∀ k v, t.get? k = some v → key v = k) (f : α → Option β) (k : String) :
    (t.values.filterMap fun v => (f v).map fun x => (key v, x)).lookup k = (t.get? k).bind f := by
  refine Option.ext fun x => ?_
  rw [lookup_eq_some_iff (nodup_filterMap_values hkey f), List.mem_filterMap,
    Option.bind_eq_some_iff]
  simp only [mem_values_iff, Option.map_eq_some_iff, Prod.mk.injEq]
  constructor
  · rintro ⟨v, ⟨k', hv⟩, x', hx, rfl, rfl⟩
    rw [hkey k' v hv]
    exact ⟨v, hv, hx⟩
  · rintro ⟨v, hv, hx⟩
    exact ⟨v, ⟨k, hv⟩, x, hx, hkey k v hv, rfl⟩

end Table

end NodeCanvas
