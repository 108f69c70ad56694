import Mathlib
import NodeCanvas.Document.Archive
import NodeCanvas.Proofs.Table
/-!
# One store in place of another

A client works alike over the archive and over a store in memory. `StoreCall.dueAll` says what calls
are to be answered, by what the calls before have left, and `Faithful` what it takes for a store to
answer so: a reading of the store as documents under keys that its operations respect. The archive
keeps documents as rows of text, so it is faithful as far as text gives back what was written
(`StoredDocument.Storable`).

The rows of the archive are a table by its type. `DocumentTable` has the statements behind it, on rows
in any order; that no key stands twice comes from the statements there.
-/

namespace NodeCanvas

/-- A call of a document store. -/
inductive StoreCall where
  | load (key : String)
  | save (key : String) (document : StoredDocument)
  | delete (key : String)

inductive StoreReply where
  | loaded (document : Option StoredDocument)
  | saved
  | deleted (found : Bool)
  | failed (error : StoreError)

/-! ## What calls are to be answered -/

namespace StoreCall

/-- What is kept under each key once a call is made, by what was kept before. -/
def keep (kept : String → Option StoredDocument) : StoreCall → String → Option StoredDocument
  | .load _ => kept
  | .save key document => Function.update kept key (some document)
  | .delete key => Function.update kept key none

/-- The answer to a call, by what is kept. -/
def due (kept : String → Option StoredDocument) : StoreCall → StoreReply
  | .load key => .loaded (kept key)
  | .save _ _ => .saved
  | .delete key => .deleted (kept key).isSome

/-- The answers to calls, each by what those before it have left. -/
def dueAll (kept : String → Option StoredDocument) : List StoreCall → List StoreReply
  | [] => []
  | call :: calls => call.due kept :: dueAll (call.keep kept) calls

end StoreCall

/-! ## What stores answer -/

namespace DocumentStore

variable {σ : Type} [DocumentStore σ]

/-- The answer to a call, and the store after it. A call that fails leaves it as it is. -/
def answer (s : σ) : StoreCall → StoreReply × σ
  | .load key =>
    match load s key with
    | .ok found => (.loaded found, s)
    | .error cause => (.failed cause, s)
  | .save key document =>
    match save s key document with
    | .ok s' => (.saved, s')
    | .error cause => (.failed cause, s)
  | .delete key =>
    match delete s key with
    | .ok (found, s') => (.deleted found, s')
    | .error cause => (.failed cause, s)

/-- The answers to calls, one after the other. -/
def answers (s : σ) : List StoreCall → List StoreReply
  | [] => []
  | call :: calls => (answer s call).1 :: answers (answer s call).2 calls

/-- The store after calls. -/
def after (s : σ) (calls : List StoreCall) : σ := calls.foldl (fun s call => (answer s call).2) s

end DocumentStore

open DocumentStore (answer answers after)

/-- The call saves only documents of some kind. -/
def StoreCall.Saves (kind : StoredDocument → Prop) : StoreCall → Prop
  | .save _ document => kind document
  | .load _ | .delete _ => True

/-- A reading of a store as documents under keys: calls that save documents of some kind are answered
by what is read, and leave what they should. -/
structure Faithful (σ : Type) [DocumentStore σ] (kind : StoredDocument → Prop)
    (Reads : σ → (String → Option StoredDocument) → Prop) : Prop where
  load {s : σ} {kept : String → Option StoredDocument} (h : Reads s kept) (key : String) :
    DocumentStore.load s key = .ok (kept key)
  save {s : σ} {kept : String → Option StoredDocument} (h : Reads s kept) (key : String)
    {document : StoredDocument} (hkind : kind document) :
    ∃ s', DocumentStore.save s key document = .ok s' ∧
      Reads s' (Function.update kept key (some document))
  delete {s : σ} {kept : String → Option StoredDocument} (h : Reads s kept) (key : String) :
    ∃ s', DocumentStore.delete s key = .ok ((kept key).isSome, s') ∧
      Reads s' (Function.update kept key none)

namespace Faithful

variable {σ : Type} [DocumentStore σ] {kind : StoredDocument → Prop}
  {Reads : σ → (String → Option StoredDocument) → Prop}
  {s : σ} {kept : String → Option StoredDocument}

theorem answer_eq (hf : Faithful σ kind Reads) (h : Reads s kept) {call : StoreCall}
    (hcall : call.Saves kind) :
    (answer s call).1 = call.due kept ∧ Reads (answer s call).2 (call.keep kept) := by
  cases call with
  | load key =>
    simp only [answer, hf.load h key]
    exact ⟨rfl, h⟩
  | save key document =>
    obtain ⟨s', hsave, hs'⟩ := hf.save h key hcall
    simp only [answer, hsave]
    exact ⟨rfl, hs'⟩
  | delete key =>
    obtain ⟨s', hdelete, hs'⟩ := hf.delete h key
    simp only [answer, hdelete]
    exact ⟨rfl, hs'⟩

/-- **A store that is read faithfully answers every call as it is to be answered.** -/
theorem answers_eq (hf : Faithful σ kind Reads) (h : Reads s kept) {calls : List StoreCall}
    (hcalls : ∀ call ∈ calls, call.Saves kind) :
    answers s calls = StoreCall.dueAll kept calls ∧
      Reads (after s calls) (calls.foldl StoreCall.keep kept) := by
  induction calls generalizing s kept with
  | nil => exact ⟨rfl, h⟩
  | cons call calls ih =>
    obtain ⟨hanswer, hreads⟩ := hf.answer_eq h (hcalls call List.mem_cons_self)
    obtain ⟨hanswers, hlast⟩ := ih hreads fun c hc => hcalls c (List.mem_cons_of_mem call hc)
    refine ⟨?_, hlast⟩
    rw [answers, StoreCall.dueAll, hanswer, hanswers]

end Faithful

/-! ## The store in memory -/

namespace MemoryStore

/-- The store can be written and holds just these documents. -/
def Holds (s : MemoryStore) (kept : String → Option StoredDocument) : Prop :=
  s.readOnly = false ∧ ∀ key, s.documents.get? key = kept key

theorem faithful (kind : StoredDocument → Prop) : Faithful MemoryStore kind Holds where
  load {s kept} h key := by
    change Except.ok (s.documents.get? key) = _
    rw [h.2]
  save {s kept} h key document _ := by
    refine ⟨{ s.put key document with saves := s.saves.insert key (s.saveCount key + 1) },
      if_neg (by simp [h.1]), h.1, fun k => ?_⟩
    change (s.documents.insert key document).get? k = _
    rw [Table.get?_insert, h.2, Function.update_apply]
  delete {s kept} h key := by
    refine ⟨{ s with documents := s.documents.erase key }, ?_, h.1, fun k => ?_⟩
    · change Except.ok (s.documents.contains key, _) = _
      rw [Table.contains, h.2]
    · rw [Table.get?_erase, h.2, Function.update_apply]

end MemoryStore

/-! ## Rows -/

namespace StoredDocument

/-- The row that stands for a document. -/
def row (d : StoredDocument) : Row := ⟨d.version, d.savedAt, d.body.compact⟩

/-- The document can be read from its row: its version is a number of 32 bits, and the text of its
body reads as the body. -/
def Storable (d : StoredDocument) : Prop :=
  d.version < 4294967296 ∧ Json.parse? d.body.compact = some d.body

theorem Storable.document_row {d : StoredDocument} (h : d.Storable) (key : String) :
    d.row.document key = .ok d := by
  rw [Row.document, row]
  simp only [h.2]
  rw [if_pos (by have := h.1; omega)]
  rfl

end StoredDocument

/-- What is found by key stands for these documents. -/
def RowsFor (find : String → Option Row) (kept : String → Option StoredDocument) : Prop :=
  ∀ key, find key = (kept key).map (·.row) ∧ ∀ d ∈ kept key, d.Storable

namespace RowsFor

variable {find find' : String → Option Row} {kept : String → Option StoredDocument}

theorem save (h : RowsFor find kept) {key : String} {d : StoredDocument} (hd : d.Storable)
    (hfind : ∀ k, find' k = if k = key then some d.row else find k) :
    RowsFor find' (Function.update kept key (some d)) := by
  intro k
  rw [hfind, Function.update_apply]
  split
  · refine ⟨rfl, fun d' hd' => ?_⟩
    cases hd'
    exact hd
  · exact h k

theorem delete (h : RowsFor find kept) {key : String}
    (hfind : ∀ k, find' k = if k = key then none else find k) :
    RowsFor find' (Function.update kept key none) := by
  intro k
  rw [hfind, Function.update_apply]
  split
  · exact ⟨rfl, fun _ hd' => by cases hd'⟩
  · exact h k

/-- A key for which no row is found has no document; else its row reads as the document. -/
theorem cases (h : RowsFor find kept) (key : String) :
    find key = none ∧ kept key = none ∨
      ∃ row d, find key = some row ∧ kept key = some d ∧ row.document key = .ok d := by
  obtain ⟨hfind, hstorable⟩ := h key
  cases hkept : kept key with
  | none =>
    rw [hkept] at hfind
    exact .inl ⟨hfind, rfl⟩
  | some d =>
    rw [hkept] at hfind hstorable
    exact .inr ⟨d.row, d, hfind, rfl, (hstorable d rfl).document_row key⟩

theorem isSome_eq (h : RowsFor find kept) (key : String) : (find key).isSome = (kept key).isSome := by
  rw [(h key).1, Option.isSome_map]

end RowsFor

/-! ## The archive -/

namespace Archive

/-- The archive can be used and its rows stand for these documents. -/
def Holds (a : Archive) (kept : String → Option StoredDocument) : Prop :=
  a.closed = false ∧ a.writable = true ∧ RowsFor a.rows.get? kept

theorem deleteRow_eq {a : Archive} (hopen : a.closed = false) (hwritable : a.writable = true)
    (key : String) :
    a.deleteRow key = .ok (a.rows.contains key, { a with rows := a.rows.erase key }) :=
  if_neg (by simp [hopen, hwritable])

theorem faithful : Faithful Archive StoredDocument.Storable Holds where
  load {a kept} h key := by
    obtain ⟨hopen, -, hrows⟩ := h
    have hrow : a.loadRow key = .ok (a.rows.get? key) := if_neg (by simp [hopen])
    change (a.loadRow key >>= _) = _
    rw [hrow]
    obtain ⟨hfind, hkept⟩ | ⟨row, d, hfind, hkept, hdocument⟩ := hrows.cases key
    · rw [hfind, hkept]
      rfl
    · rw [hfind, hkept]
      change (row.document key >>= _) = _
      rw [hdocument]
      rfl
  save {a kept} h key document hd := by
    obtain ⟨hopen, hwritable, hrows⟩ := h
    refine ⟨{ a with rows := a.rows.insert key document.row }, if_neg (by simp [hopen, hwritable]),
      hopen, hwritable, hrows.save hd (Table.get?_insert _ _ _)⟩
  delete {a kept} h key := by
    obtain ⟨hopen, hwritable, hrows⟩ := h
    refine ⟨{ a with rows := a.rows.erase key }, ?_, hopen, hwritable,
      hrows.delete (Table.get?_erase _ _)⟩
    change a.deleteRow key = _
    rw [deleteRow_eq hopen hwritable, Table.contains, hrows.isSome_eq]

end Archive

/-! ## The statements behind the archive -/

/-- The rows of documents as statements see them, in any order. -/
structure DocumentTable where
  rows : List (String × Row) := []

namespace DocumentTable

variable {t : DocumentTable}

/-- Insert a row; where rows with its key stand, these take over its values instead. -/
def upsert (t : DocumentTable) (key : String) (row : Row) : DocumentTable :=
  if t.rows.any (·.1 == key) then ⟨t.rows.map fun e => if e.1 = key then (key, row) else e⟩
  else ⟨t.rows ++ [(key, row)]⟩

/-- The rows with a key. -/
def select (t : DocumentTable) (key : String) : List Row :=
  (t.rows.filter (·.1 == key)).map (·.2)

/-- Delete the rows with a key; tells how many there were. -/
def deleteWhere (t : DocumentTable) (key : String) : Nat × DocumentTable :=
  (t.rows.countP (·.1 == key), ⟨t.rows.filter (·.1 != key)⟩)

instance store : DocumentStore DocumentTable where
  load t key :=
    match (t.select key).head? with
    | some row => (row.document key).map some
    | none => .ok none
  save t key document := .ok (t.upsert key document.row)
  delete t key := .ok (decide (0 < (t.deleteWhere key).1), (t.deleteWhere key).2)

/-- No key stands twice. -/
def Keyed (t : DocumentTable) : Prop := (t.rows.map (·.1)).Nodup

theorem any_eq_isSome_lookup (rows : List (String × Row)) (key : String) :
    rows.any (·.1 == key) = (rows.lookup key).isSome := by
  induction rows with
  | nil => rfl
  | cons e rows ih =>
    obtain ⟨k, row⟩ := e
    rw [List.any_cons, ih, Table.lookup_cons_eq_ite]
    by_cases hk : k = key
    · simp [hk]
    · simp [hk, Ne.symm hk]

theorem head?_select (t : DocumentTable) (key : String) :
    (t.select key).head? = t.rows.lookup key := by
  rw [select]
  induction t.rows with
  | nil => rfl
  | cons e rows ih =>
    obtain ⟨k, row⟩ := e
    rw [List.filter_cons, Table.lookup_cons_eq_ite]
    by_cases hk : k = key
    · simp [hk]
    · simpa [hk, Ne.symm hk] using ih

theorem map_fst_upsert (t : DocumentTable) (key : String) (row : Row) :
    (t.upsert key row).rows.map (·.1) =
      if t.rows.any (·.1 == key) then t.rows.map (·.1) else t.rows.map (·.1) ++ [key] := by
  rw [upsert]
  split
  · rw [List.map_map]
    refine List.map_congr_left fun e _ => ?_
    change (if e.1 = key then (key, row) else e).1 = e.1
    split
    · rename_i hkey
      exact hkey.symm
    · rfl
  · exact List.map_append

/-- **Inserting or updating keeps at most one row for each key.** -/
theorem Keyed.upsert (h : t.Keyed) (key : String) (row : Row) : (t.upsert key row).Keyed := by
  rw [Keyed, map_fst_upsert]
  split
  · exact h
  · rename_i hnew
    rw [Bool.not_eq_true, any_eq_isSome_lookup, Option.isSome_eq_false_iff, Option.isNone_iff_eq_none,
      Table.lookup_eq_none_iff] at hnew
    exact List.nodup_append'.2 ⟨h, List.nodup_singleton key, by simpa using hnew⟩

theorem Keyed.deleteWhere (h : t.Keyed) (key : String) : (t.deleteWhere key).2.Keyed :=
  (List.filter_sublist.map _).nodup h

theorem lookup_overwrite (rows : List (String × Row)) (key : String) (row : Row) (k : String) :
    (rows.map fun e => if e.1 = key then (key, row) else e).lookup k =
      if k = key then (rows.lookup k).map fun _ => row else rows.lookup k := by
  induction rows with
  | nil => simp
  | cons e rows ih =>
    obtain ⟨first, old⟩ := e
    rw [List.map_cons, Table.lookup_cons_eq_ite]
    by_cases hfirst : first = key
    · subst hfirst
      rw [if_pos rfl, Table.lookup_cons_eq_ite, ih]
      by_cases hk : k = first <;> simp [hk]
    · rw [if_neg hfirst, Table.lookup_cons_eq_ite, ih]
      by_cases hk : k = first
      · simp [hk, hfirst]
      · simp [hk]

theorem lookup_upsert (t : DocumentTable) (key : String) (row : Row) (k : String) :
    (t.upsert key row).rows.lookup k = if k = key then some row else t.rows.lookup k := by
  rw [upsert, any_eq_isSome_lookup]
  split
  · rename_i hstored
    obtain ⟨old, hold⟩ := Option.isSome_iff_exists.1 hstored
    change (t.rows.map _).lookup k = _
    rw [lookup_overwrite]
    by_cases hk : k = key
    · rw [if_pos hk, if_pos hk, hk, hold, Option.map_some]
    · rw [if_neg hk, if_neg hk]
  · rename_i hnew
    rw [Bool.not_eq_true, Option.isSome_eq_false_iff, Option.isNone_iff_eq_none] at hnew
    change (t.rows ++ [(key, row)]).lookup k = _
    rw [List.lookup_append, Table.lookup_cons_eq_ite, List.lookup_nil]
    by_cases hk : k = key
    · rw [if_pos hk, if_pos hk, hk, hnew, Option.none_or]
    · rw [if_neg hk, if_neg hk, Option.or_none]

theorem lookup_deleteWhere (t : DocumentTable) (key k : String) :
    (t.deleteWhere key).2.rows.lookup k = if k = key then none else t.rows.lookup k := by
  change (t.rows.filter (·.1 != key)).lookup k = _
  induction t.rows with
  | nil => simp
  | cons e rows ih =>
    obtain ⟨first, old⟩ := e
    rw [List.filter_cons]
    by_cases hfirst : first = key
    · subst hfirst
      rw [if_neg (by simp), ih, Table.lookup_cons_eq_ite]
      by_cases hk : k = first <;> simp [hk]
    · rw [if_pos (by simpa using hfirst), Table.lookup_cons_eq_ite, Table.lookup_cons_eq_ite, ih]
      by_cases hk : k = first
      · simp [hk, hfirst]
      · simp [hk]

theorem deleteWhere_fst_pos (t : DocumentTable) (key : String) :
    decide (0 < (t.deleteWhere key).1) = (t.rows.lookup key).isSome := by
  rw [← any_eq_isSome_lookup, deleteWhere, Bool.eq_iff_iff, decide_eq_true_iff, List.countP_pos_iff,
    List.any_eq_true]

/-- No key stands twice, and the rows stand for these documents. -/
def Holds (t : DocumentTable) (kept : String → Option StoredDocument) : Prop :=
  t.Keyed ∧ RowsFor (t.rows.lookup ·) kept

theorem faithful : Faithful DocumentTable StoredDocument.Storable Holds where
  load {t kept} h key := by
    simp only [DocumentStore.load, head?_select]
    obtain ⟨hfind, hkept⟩ | ⟨row, d, hfind, hkept, hdocument⟩ := h.2.cases key
    · rw [hfind, hkept]
    · rw [hfind, hkept]
      simp only [hdocument]
      rfl
  save {t kept} h key document hd :=
    ⟨t.upsert key document.row, rfl, h.1.upsert _ _, h.2.save hd (t.lookup_upsert _ _)⟩
  delete {t kept} h key := by
    refine ⟨(t.deleteWhere key).2, ?_, h.1.deleteWhere _, h.2.delete (t.lookup_deleteWhere _)⟩
    simp only [DocumentStore.delete, deleteWhere_fst_pos]
    rw [h.2.isSome_eq]

/-- Rows in any order and rows by key of which the same are found are the same rows. -/
theorem Keyed.perm (h : t.Keyed) {rows : Table Row}
    (hfind : ∀ k, t.rows.lookup k = rows.get? k) : t.rows.Perm rows.entries := by
  refine (List.perm_ext_iff_of_nodup h.of_map rows.nodup_keys.of_map).2 ?_
  rintro ⟨k, row⟩
  rw [← Table.get?_eq_some_iff, ← Table.lookup_eq_some_iff h, hfind]

end DocumentTable

/-! ## Histories -/

/-- Nothing is kept at first. -/
def nothingKept : String → Option StoredDocument := fun _ => none

theorem rowsFor_nothingKept {find : String → Option Row} (h : ∀ key, find key = none) :
    RowsFor find nothingKept :=
  fun key => ⟨h key, fun _ hd => by cases hd⟩

/-- **The archive and the store in memory give the same answers to every sequence of calls, which are
those that the calls before make right; and after every one of the calls, the statements behind the
archive have left at most one row for each key, the rows of the archive.** -/
theorem stores_interchangeable {calls : List StoreCall}
    (h : ∀ call ∈ calls, call.Saves StoredDocument.Storable) :
    answers ({} : Archive) calls = answers ({} : MemoryStore) calls ∧
      answers ({} : MemoryStore) calls = StoreCall.dueAll nothingKept calls ∧
      answers ({} : DocumentTable) calls = StoreCall.dueAll nothingKept calls ∧
      ∀ before, before <+: calls →
        (after ({} : DocumentTable) before).Keyed ∧
          (after ({} : DocumentTable) before).rows.Perm (after ({} : Archive) before).rows.entries := by
  have harchive : ({} : Archive).Holds nothingKept := ⟨rfl, rfl, rowsFor_nothingKept fun _ => rfl⟩
  have hmemory : ({} : MemoryStore).Holds nothingKept := ⟨rfl, fun _ => rfl⟩
  have htable : ({} : DocumentTable).Holds nothingKept :=
    ⟨List.nodup_nil, rowsFor_nothingKept fun _ => rfl⟩
  have hanswers := ((MemoryStore.faithful StoredDocument.Storable).answers_eq hmemory h).1
  refine ⟨?_, hanswers, (DocumentTable.faithful.answers_eq htable h).1, fun before hbefore => ?_⟩
  · rw [hanswers, (Archive.faithful.answers_eq harchive h).1]
  · have hcalls : ∀ call ∈ before, call.Saves StoredDocument.Storable :=
      fun call hcall => h call (hbefore.subset hcall)
    have hrows := (DocumentTable.faithful.answers_eq htable hcalls).2
    have harchived := (Archive.faithful.answers_eq harchive hcalls).2.2.2
    exact ⟨hrows.1, hrows.1.perm fun k => (hrows.2 k).1.trans (harchived k).1.symm⟩

/-- Two documents under one key and one under another, overwritten, deleted twice and saved again. -/
def rewrites : List StoreCall :=
  let first : StoredDocument := ⟨1, ⟨10, 0⟩, .array [.ofInt 1, .null]⟩
  let second : StoredDocument := ⟨4294967295, ⟨20, 5⟩, .object [("x", .ofInt 1)]⟩
  [.load "view", .save "view" first, .save "graph" second, .save "view" second, .load "view",
    .delete "view", .delete "view", .load "view", .save "view" first, .load "view"]

theorem stores_interchangeable_rewrites :
    (∀ call ∈ rewrites, call.Saves StoredDocument.Storable) ∧
      answers ({} : Archive) rewrites = answers ({} : MemoryStore) rewrites ∧
      (after ({} : DocumentTable) rewrites).Keyed := by
  have hfirst : StoredDocument.Storable ⟨1, ⟨10, 0⟩, .array [.ofInt 1, .null]⟩ :=
    ⟨by decide, by cbv⟩
  have hsecond : StoredDocument.Storable ⟨4294967295, ⟨20, 5⟩, .object [("x", .ofInt 1)]⟩ :=
    ⟨by decide, by cbv⟩
  have hcalls : ∀ call ∈ rewrites, call.Saves StoredDocument.Storable := by
    simp [rewrites, StoreCall.Saves, hfirst, hsecond]
  have hstores := stores_interchangeable hcalls
  exact ⟨hcalls, hstores.1, (hstores.2.2.2 rewrites List.prefix_rfl).1⟩

end NodeCanvas
