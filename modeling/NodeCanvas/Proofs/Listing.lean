import NodeCanvas.Proofs.Interchange
/-!
# The list of documents

Whatever was saved and deleted, an archive lists what the last call about each key has left under it
(`RowCall.left?`), by ascending key. This is what the statements behind it give, which keep rows in
any order and sort them by the bytes of their keys (`DocumentTable.list`): the order of keys is that
of their bytes as well (`utf8_lt_of_lt`). The size of a body is listed in characters up to the first
null character, so it is the number of its bytes for plain ASCII text only.
-/

namespace NodeCanvas

/-! ## Text and its bytes -/

/-- The lesser of two characters has the lesser bytes, whatever follows them. -/
theorem utf8EncodeChar_append_lt {c d : Char} (h : c < d) (xs ys : List UInt8) :
    String.utf8EncodeChar c ++ xs < String.utf8EncodeChar d ++ ys := by
  have hlt : c.val.toNat < d.val.toNat := h
  have hvalid : d.val.toNat.isValidChar := d.valid
  have hmax : d.val.toNat < 0x110000 := by
    unfold Nat.isValidChar at hvalid
    omega
  have hdigits (n : Nat) : n / 64 / 64 = n / 4096 ∧ n / 4096 / 64 = n / 262144 := by omega
  have hc := hdigits c.val.toNat
  have hd := hdigits d.val.toNat
  -- A longer encoding starts with a greater byte; in those of one length the first digit that
  -- differs decides.
  rw [String.utf8EncodeChar.eq_1, String.utf8EncodeChar.eq_1]
  split_ifs <;>
    simp (disch := omega) only [List.cons_append, List.nil_append, List.cons_lt_cons_iff,
      UInt8.lt_iff_toNat_lt, ← UInt8.toNat_inj, UInt8.toNat_ofNat', Nat.mod_eq_of_lt] <;>
    omega

theorem flatMap_utf8EncodeChar_lt {s t : List Char} (h : s < t) :
    s.flatMap String.utf8EncodeChar < t.flatMap String.utf8EncodeChar := by
  induction h with
  | @nil c l =>
    obtain ⟨byte, bytes, hbytes⟩ :=
      List.exists_cons_of_ne_nil (String.utf8EncodeChar_ne_nil (c := c))
    rw [List.flatMap_nil, List.flatMap_cons, hbytes]
    exact List.nil_lt_cons ..
  | rel hlt => exact utf8EncodeChar_append_lt hlt _ _
  | cons _ ih => exact List.append_left_lt ih

/-- **Text by ascending characters is text by ascending bytes.** -/
theorem utf8_lt_of_lt {s t : String} (h : s < t) : s.toUTF8.data < t.toUTF8.data := by
  have hbytes (s : String) :
      s.toUTF8.data = (s.toList.flatMap String.utf8EncodeChar).toArray := by
    rw [String.toUTF8_eq_toByteArray, ← String.utf8Encode_toList, List.utf8Encode,
      List.data_toByteArray]
  rw [hbytes, hbytes, List.lt_toArray]
  exact flatMap_utf8EncodeChar_lt (String.lt_iff.1 h)

/-- The first characters of a text are no more than its bytes, and as many only if all are taken and
each has one byte. -/
theorem length_takeWhile_le_utf8Len (keep : Char → Bool) (cs : List Char) :
    (cs.takeWhile keep).length ≤ String.utf8Len cs ∧
      ((cs.takeWhile keep).length = String.utf8Len cs ↔ ∀ c ∈ cs, keep c = true ∧ c.val ≤ 127) := by
  induction cs with
  | nil => simp
  | cons c cs ih =>
    obtain ⟨hle, hiff⟩ := ih
    have hpos := Char.utf8Size_pos c
    rw [List.forall_mem_cons, ← hiff, ← Char.utf8Size_eq_one_iff, String.utf8Len_cons,
      List.takeWhile_cons]
    cases keep c with
    | true =>
      simp only [if_true, List.length_cons, true_and]
      omega
    | false =>
      simp only [Bool.false_eq_true, if_false, List.length_nil, false_and, iff_false]
      omega

theorem Row.size_le_utf8ByteSize (row : Row) :
    row.size ≤ row.body.utf8ByteSize ∧ (row.size = row.body.utf8ByteSize ↔
      ∀ c ∈ row.body.toList, c ≠ '\x00' ∧ c.val ≤ 127) := by
  have hlen : row.body.utf8ByteSize = String.utf8Len row.body.toList := by
    rw [← String.utf8ByteSize_ofList, String.ofList_toList]
  simpa only [Row.size, hlen, bne_iff_ne] using
    length_takeWhile_le_utf8Len (· != '\x00') row.body.toList

/-! ## Changes of the rows -/

/-- A change of the rows of an archive. -/
inductive RowCall where
  | save (key : String) (row : Row)
  | delete (key : String)

namespace RowCall

def key : RowCall → String
  | .save key _ | .delete key => key

/-- The row that a call leaves under its key. -/
def row? : RowCall → Option Row
  | .save _ row => some row
  | .delete _ => none

/-- What the last call about a key leaves under it. -/
def left? (calls : List RowCall) (key : String) : Option Row :=
  (calls.reverse.find? (·.key == key)).bind row?

theorem left?_concat (calls : List RowCall) (call : RowCall) (key : String) :
    left? (calls ++ [call]) key = if key = call.key then call.row? else left? calls key := by
  rw [left?, List.reverse_append, List.reverse_singleton, List.singleton_append, List.find?_cons]
  by_cases hkey : key = call.key
  · simp [hkey]
  · rw [beq_eq_false_iff_ne.2 (Ne.symm hkey), if_neg hkey]
    rfl

end RowCall

namespace Archive

/-- The archive after a call. -/
def call (a : Archive) : RowCall → Except StoreError Archive
  | .save key row => a.saveRow key row
  | .delete key => (a.deleteRow key).map (·.2)

/-- The archive can be used, and these rows are found in it. -/
def Finds (a : Archive) (find : String → Option Row) : Prop :=
  a.closed = false ∧ a.writable = true ∧ ∀ key, a.rows.get? key = find key

theorem Finds.call {a : Archive} {find : String → Option Row} (h : a.Finds find) (call : RowCall) :
    ∃ a', a.call call = .ok a' ∧
      a'.Finds fun key => if key = call.key then call.row? else find key := by
  obtain ⟨hopen, hwritable, hrows⟩ := h
  cases call with
  | save key row =>
    refine ⟨{ a with rows := a.rows.insert key row }, if_neg (by simp [hopen, hwritable]), hopen,
      hwritable, fun k => ?_⟩
    rw [Table.get?_insert, hrows]
    rfl
  | delete key =>
    refine ⟨{ a with rows := a.rows.erase key }, ?_, hopen, hwritable, fun k => ?_⟩
    · rw [Archive.call, deleteRow_eq hopen hwritable]
      rfl
    · rw [Table.get?_erase, hrows]
      rfl

/-- **Saving and deleting leave under each key what the last call about it has left there.** -/
theorem exists_foldlM_call (calls : List RowCall) :
    ∃ a, calls.foldlM call {} = .ok a ∧ a.Finds (RowCall.left? calls) := by
  induction calls using List.reverseRecOn with
  | nil => exact ⟨{}, rfl, rfl, rfl, fun _ => rfl⟩
  | append_singleton calls call ih =>
    obtain ⟨a, hrun, ha⟩ := ih
    obtain ⟨a', hcall, ha'⟩ := ha.call call
    refine ⟨a', ?_, ?_⟩
    · rw [List.foldlM_append, hrun]
      change (a.call call >>= _) = _
      rw [hcall]
      rfl
    · simpa only [Finds, RowCall.left?_concat] using ha'

end Archive

namespace DocumentTable

/-- The table after a statement. -/
def call (t : DocumentTable) : RowCall → DocumentTable
  | .save key row => t.upsert key row
  | .delete key => (t.deleteWhere key).2

/-- The order of rows by the bytes of their keys. -/
def keyLe (e f : String × Row) : Bool := e.1.toUTF8.data ≤ f.1.toUTF8.data

/-- What is listed of all rows, in this order. -/
def list (t : DocumentTable) : List RowSummary :=
  (t.rows.mergeSort keyLe).map fun (key, row) => ⟨key, row.version, row.savedAt, row.size⟩

/-- **The statements keep at most one row for each key, what the last of them has left there.** -/
theorem keyed_foldl_call (calls : List RowCall) :
    (calls.foldl call {}).Keyed ∧
      ∀ key, (calls.foldl call {}).rows.lookup key = RowCall.left? calls key := by
  induction calls using List.reverseRecOn with
  | nil => exact ⟨List.nodup_nil, fun _ => rfl⟩
  | append_singleton calls call ih =>
    obtain ⟨hkeyed, hrows⟩ := ih
    rw [List.foldl_append]
    simp only [RowCall.left?_concat, ← hrows]
    cases call with
    | save key row => exact ⟨hkeyed.upsert key row, lookup_upsert _ key row⟩
    | delete key => exact ⟨hkeyed.deleteWhere key, lookup_deleteWhere _ key⟩

/-- Sorting gives the rows of an archive in which the same are found. -/
theorem list_eq {t : DocumentTable} (h : t.Keyed) {rows : Table Row}
    (hfind : ∀ k, t.rows.lookup k = rows.get? k) :
    t.list = rows.entries.map fun (key, row) => ⟨key, row.version, row.savedAt, row.size⟩ := by
  have hsorted : (t.rows.mergeSort keyLe).Pairwise (keyLe · ·) := by
    refine List.pairwise_mergeSort (fun e f g hef hfg => ?_) (fun e f => ?_) t.rows
    · exact decide_eq_true (Array.le_trans (of_decide_eq_true hef) (of_decide_eq_true hfg))
    · simpa [keyLe] using Array.le_total e.1.toUTF8.data f.1.toUTF8.data
  have hascending : rows.entries.Pairwise (keyLe · ·) :=
    rows.ascending.imp fun hlt => decide_eq_true (Array.le_of_lt (utf8_lt_of_lt hlt))
  have hperm := (List.mergeSort_perm t.rows keyLe).trans (h.perm hfind)
  refine congrArg _ (hperm.eq_of_pairwise (fun e f he hf hef hfe => ?_) hsorted hascending)
  -- Of two different keys one has the lesser bytes.
  obtain hlt | hkey | hlt := lt_trichotomy e.1 f.1
  · exact absurd (of_decide_eq_true hfe) (Array.not_le.2 (utf8_lt_of_lt hlt))
  · exact List.inj_on_of_nodup_map rows.nodup_keys (hperm.mem_iff.1 he) hf hkey
  · exact absurd (of_decide_eq_true hef) (Array.not_le.2 (utf8_lt_of_lt hlt))

end DocumentTable

/-- **The list of documents.** Whatever documents were saved and deleted in an empty archive, it
lists the rows that the statements behind it leave, sorted by the bytes of their keys. These are the
documents that are left: by ascending keys, so that no key comes twice; each with the version and
the time of the last save; and with a size that is at most the number of bytes of the body, and this
number exactly if the body is ASCII text without null characters. -/
theorem documents_listed (calls : List RowCall) :
    ∃ a summaries, calls.foldlM Archive.call {} = .ok a ∧ a.list = .ok summaries ∧
      summaries = (calls.foldl DocumentTable.call {}).list ∧
      summaries.Pairwise (fun s t => s.key.toUTF8.data < t.key.toUTF8.data) ∧
      (∀ key, (∃ s ∈ summaries, s.key = key) ↔ (RowCall.left? calls key).isSome = true) ∧
      ∀ s ∈ summaries, ∃ row, RowCall.left? calls s.key = some row ∧
        s = ⟨s.key, row.version, row.savedAt, row.size⟩ ∧ row.size ≤ row.body.utf8ByteSize ∧
        (row.size = row.body.utf8ByteSize ↔
          ∀ c ∈ row.body.toList, c ≠ '\x00' ∧ c.val ≤ 127) := by
  obtain ⟨a, hrun, hopen, -, hrows⟩ := Archive.exists_foldlM_call calls
  obtain ⟨hkeyed, hlookup⟩ := DocumentTable.keyed_foldl_call calls
  refine ⟨a, _, hrun, if_neg (by simp [hopen]), ?_, ?_, fun key => ?_, fun s hs => ?_⟩
  · exact (DocumentTable.list_eq hkeyed fun k => (hlookup k).trans (hrows k).symm).symm
  · exact List.pairwise_map.2 (a.rows.ascending.imp utf8_lt_of_lt)
  · rw [← hrows, Option.isSome_iff_exists]
    simp only [Table.get?_eq_some_iff, List.mem_map, Prod.exists]
    constructor
    · rintro ⟨s, ⟨k, row, hmem, rfl⟩, rfl⟩
      exact ⟨row, hmem⟩
    · rintro ⟨row, hmem⟩
      exact ⟨_, ⟨key, row, hmem, rfl⟩, rfl⟩
  · obtain ⟨⟨key, row⟩, hmem, rfl⟩ := List.mem_map.1 hs
    exact ⟨row, (hrows key).symm.trans (Table.get?_eq_some_iff.2 hmem), rfl,
      row.size_le_utf8ByteSize⟩

/-- **A document of two bytes is listed with size one.** -/
theorem listed_size_not_bytes :
    ∃ a summaries, [RowCall.save "note" ⟨1, ⟨0, 0⟩, "é"⟩].foldlM Archive.call {} = .ok a ∧
      a.list = .ok summaries ∧ summaries.map (·.size) = [1] ∧ "é".utf8ByteSize = 2 :=
  ⟨_, _, rfl, rfl, by decide, by decide⟩

end NodeCanvas
