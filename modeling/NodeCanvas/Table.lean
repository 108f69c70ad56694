/-!
# Tables keyed by text

A table holds at most one value per key and lists its entries in ascending order of their keys.
The order is part of the type, so two tables with the same entries are equal and a listing of a
table never depends on how it was built. Keys are compared character by character, which for
text is also the order of their UTF-8 bytes.
-/

namespace NodeCanvas

universe u v

/-- Keys strictly ascending from the head on. -/
def Ascending {α : Type u} (entries : List (String × α)) : Prop :=
  entries.Pairwise fun a b => a.1 < b.1

/-- A finite map from text, listed in ascending order of its keys. -/
structure Table (α : Type u) where
  entries : List (String × α)
  ascending : Ascending entries

namespace Table

variable {α : Type u} {β : Type v}

theorem ext_entries {s t : Table α} (h : s.entries = t.entries) : s = t := by
  cases s; cases t; cases h; rfl

def empty : Table α := ⟨[], List.Pairwise.nil⟩

instance : Inhabited (Table α) := ⟨empty⟩
instance : EmptyCollection (Table α) := ⟨empty⟩

instance [BEq α] : BEq (Table α) := ⟨fun s t => s.entries == t.entries⟩

def isEmpty (t : Table α) : Bool := t.entries.isEmpty

def size (t : Table α) : Nat := t.entries.length

def keys (t : Table α) : List String := t.entries.map (·.1)

def values (t : Table α) : List α := t.entries.map (·.2)

/-- The value under a key. -/
def get? (t : Table α) (key : String) : Option α := t.entries.lookup key

def contains (t : Table α) (key : String) : Bool := (t.get? key).isSome

/-- Put an entry in its place, over any entry with the same key. -/
def insertEntry (key : String) (value : α) : List (String × α) → List (String × α)
  | [] => [(key, value)]
  | (k, v) :: rest =>
    if key < k then (key, value) :: (k, v) :: rest
    else if key = k then (key, value) :: rest
    else (k, v) :: insertEntry key value rest

theorem mem_insertEntry {key : String} {value : α} {entries : List (String × α)} {e : String × α}
    (h : e ∈ insertEntry key value entries) : e = (key, value) ∨ e ∈ entries := by
  induction entries with
  | nil => simpa [insertEntry] using h
  | cons head rest ih =>
    obtain ⟨k, v⟩ := head
    simp only [insertEntry] at h
    split at h
    · simpa using h
    · split at h
      · simp only [List.mem_cons] at h ⊢
        exact h.imp_right .inr
      · simp only [List.mem_cons] at h ⊢
        rcases h with h | h
        · exact .inr (.inl h)
        · exact (ih h).imp_right .inr

theorem ascending_insertEntry {key : String} {value : α} {entries : List (String × α)}
    (h : Ascending entries) : Ascending (insertEntry key value entries) := by
  induction entries with
  | nil => simp [insertEntry, Ascending]
  | cons head rest ih =>
    obtain ⟨k, v⟩ := head
    have above : ∀ e ∈ rest, k < e.1 := (List.pairwise_cons.1 h).1
    have tail : Ascending rest := (List.pairwise_cons.1 h).2
    simp only [insertEntry]
    split
    · rename_i before
      refine List.pairwise_cons.2 ⟨fun e mem => ?_, h⟩
      rcases List.mem_cons.1 mem with rfl | mem
      · exact before
      · exact String.lt_trans before (above e mem)
    · rename_i notBefore
      split
      · rename_i same
        subst same
        exact List.pairwise_cons.2 ⟨above, tail⟩
      · rename_i different
        refine List.pairwise_cons.2 ⟨fun e mem => ?_, ih tail⟩
        rcases mem_insertEntry mem with rfl | mem
        · exact Std.lt_of_le_of_ne (String.not_lt.1 notBefore) (Ne.symm different)
        · exact above e mem

/-- The table with a value put under a key. -/
def insert (t : Table α) (key : String) (value : α) : Table α :=
  ⟨insertEntry key value t.entries, ascending_insertEntry t.ascending⟩

/-- The table restricted to the entries a test accepts. -/
def filter (t : Table α) (keep : String → α → Bool) : Table α :=
  ⟨t.entries.filter fun e => keep e.1 e.2, t.ascending.filter _⟩

/-- The table without a key. -/
def erase (t : Table α) (key : String) : Table α := t.filter fun k _ => k != key

/-- Every value replaced, every key kept. -/
def mapValues (t : Table α) (f : String → α → β) : Table β where
  entries := t.entries.map fun e => (e.1, f e.1 e.2)
  ascending := by
    unfold Ascending
    rw [List.pairwise_map]
    exact t.ascending

/-- The value under one key replaced, if the key is there. -/
def modify (t : Table α) (key : String) (f : α → α) : Table α :=
  t.mapValues fun k value => if k = key then f value else value

/-- The table of a list of entries; of two entries with one key the later counts. -/
def ofList (entries : List (String × α)) : Table α :=
  entries.foldl (fun t e => t.insert e.1 e.2) empty

/-- Every entry of `other` put into the table, over what is there. -/
def override (t other : Table α) : Table α :=
  other.entries.foldl (fun t e => t.insert e.1 e.2) t

end Table

/-- A set of texts, listed in ascending order. -/
abbrev KeySet := Table Unit

namespace KeySet

def add (s : KeySet) (key : String) : KeySet := s.insert key ()

end KeySet

end NodeCanvas
