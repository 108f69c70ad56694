import NodeCanvas.Proofs.Republish
/-!
# Which shared variables are shown

A binding carries the number of its write, and the count goes on over overwrites and clears. So the
number of a binding and its age, the number of writes since it was written, always add up to the
count (`SharedNamespace.Follows`). A higher number is a lower age, no two names have one age
(`eq_of_age_eq`), and the bindings in the order of their numbers are the last writes to their names,
the latest first (`visible_are_latest`).
-/

namespace NodeCanvas

/-- A call of the shared namespace that changes it. -/
inductive NamespaceCall where
  | publish (session : SessionId) (written : Table Json)
  | clear

/-- The writes of a session that publishes variables: in the order of their names. -/
def publishedWrites (session : SessionId) (written : Table Json) : List NamespaceWrite :=
  written.entries.map fun entry => ⟨session, entry.1, entry.2⟩

/-- The writes since the last clear, after a call more. -/
def NamespaceCall.extend (ws : List NamespaceWrite) : NamespaceCall → List NamespaceWrite
  | .publish session written => ws ++ publishedWrites session written
  | .clear => []

/-- The writes of some calls since the last clear. -/
def sinceClear (calls : List NamespaceCall) : List NamespaceWrite :=
  calls.foldl NamespaceCall.extend []

namespace SharedNamespace

/-! ## Histories -/

section Histories

variable {ws : List NamespaceWrite} {name name' : String}

/-- The last write to a name. -/
def lastWriteTo? (ws : List NamespaceWrite) (name : String) : Option NamespaceWrite :=
  ws.reverse.find? (·.name == name)

/-- How many writes there have been since the last write to a name. -/
def age (ws : List NamespaceWrite) (name : String) : Nat := ws.reverse.findIdx (·.name == name)

theorem lastWriteTo?_concat (ws : List NamespaceWrite) (w : NamespaceWrite) (name : String) :
    lastWriteTo? (ws ++ [w]) name = if name = w.name then some w else lastWriteTo? ws name := by
  unfold lastWriteTo?
  rw [List.reverse_concat, List.find?_cons]
  by_cases hname : name = w.name
  · simp [hname]
  · rw [beq_eq_false_iff_ne.2 (Ne.symm hname), if_neg hname]

theorem age_concat (ws : List NamespaceWrite) (w : NamespaceWrite) (name : String) :
    age (ws ++ [w]) name = if name = w.name then 0 else age ws name + 1 := by
  unfold age
  rw [List.reverse_concat, List.findIdx_cons]
  by_cases hname : name = w.name
  · simp [hname]
  · rw [beq_eq_false_iff_ne.2 (Ne.symm hname), if_neg hname, cond_false]

theorem name_of_lastWriteTo? {w : NamespaceWrite} (h : lastWriteTo? ws name = some w) :
    w.name = name := by
  have hfound := List.find?_some h
  exact beq_iff_eq.1 hfound

/-- The last write to a name is found at its age. -/
theorem lastWriteTo?_eq (ws : List NamespaceWrite) (name : String) :
    lastWriteTo? ws name = ws.reverse[age ws name]? :=
  List.find?_eq_getElem?_findIdx

/-- Two names of one age are one name. -/
theorem eq_of_age_eq {w w' : NamespaceWrite} (h : lastWriteTo? ws name = some w)
    (h' : lastWriteTo? ws name' = some w') (hage : age ws name = age ws name') : name = name' := by
  have hwrite : some w = some w' := by
    rw [← h, ← h', lastWriteTo?_eq, lastWriteTo?_eq, hage]
  cases hwrite
  exact (name_of_lastWriteTo? h).symm.trans (name_of_lastWriteTo? h')

end Histories

variable {ns : SharedNamespace} {ws : List NamespaceWrite}

/-! ## Numbers of writes -/

/-- The namespace holds what some writes have left in it. -/
structure Follows (ns : SharedNamespace) (ws : List NamespaceWrite) : Prop where
  content name : (ns.get? name).map Binding.content =
    (lastWriteTo? ws name).map fun w => (w.value, w.session)
  number {name : String} {b : Binding} (h : ns.get? name = some b) :
    b.writeNumber + age ws name = ns.writes

theorem Follows.write (h : ns.Follows ws) (w : NamespaceWrite) :
    (ns.write w.session w.name w.value).Follows (ws ++ [w]) where
  content name := by
    rw [get?_write, lastWriteTo?_concat]
    split
    · rfl
    · exact h.content name
  number {name b} hb := by
    change b.writeNumber + age (ws ++ [w]) name = ns.writes + 1
    rw [get?_write] at hb
    rw [age_concat]
    split at hb
    · rename_i hname
      cases hb
      rw [if_pos hname]
    · rename_i hname
      rw [if_neg hname, ← Nat.add_assoc, h.number hb]

theorem Follows.writeAll (h : ns.Follows ws) (ws' : List NamespaceWrite) :
    (ns.writeAll ws').Follows (ws ++ ws') := by
  induction ws' using List.reverseRecOn with
  | nil => rwa [List.append_nil]
  | append_singleton ws' w ih =>
    rw [writeAll_concat, ← List.append_assoc]
    exact ih.write w

/-- Nothing is left of the writes before a clear, whatever the count. -/
theorem follows_nil (h : ∀ name, ns.get? name = none) : ns.Follows [] where
  content name := by rw [h name]; rfl
  number {name b} hb := by
    rw [h name] at hb
    cases hb

/-! ## Calls -/

/-- The namespace after a call. -/
def call (ns : SharedNamespace) : NamespaceCall → SharedNamespace
  | .publish session written => ns.publish session written
  | .clear => ns.clear

/-- The namespace after several calls. -/
def ofCalls (calls : List NamespaceCall) : SharedNamespace := calls.foldl call {}

theorem Follows.call (h : ns.Follows ws) (c : NamespaceCall) : (ns.call c).Follows (c.extend ws) := by
  cases c with
  | publish session written =>
    change (ns.publish session written).Follows _
    rw [publish_eq]
    exact h.writeAll _
  | clear => exact follows_nil fun _ => rfl

theorem follows_ofCalls (calls : List NamespaceCall) : (ofCalls calls).Follows (sinceClear calls) := by
  induction calls using List.reverseRecOn with
  | nil => exact follows_nil fun _ => rfl
  | append_singleton calls c ih =>
    rw [ofCalls, sinceClear, List.foldl_concat, List.foldl_concat]
    exact ih.call c

/-! ## The order in which bindings are shown -/

/-- The public bindings in the order in which they are shown. -/
def ranked (ns : SharedNamespace) : List (String × Binding) :=
  (ns.bindings.entries.filter fun entry => isPublic entry.1).mergeSort
    fun a b => b.2.writeNumber ≤ a.2.writeNumber

theorem mem_ranked_iff {name : String} {b : Binding} :
    (name, b) ∈ ns.ranked ↔ isPublic name = true ∧ ns.get? name = some b := by
  rw [ranked, (List.mergeSort_perm _ _).mem_iff, List.mem_filter, and_comm]
  exact and_congr_right fun _ => Table.get?_eq_some_iff.symm

theorem nodup_ranked (ns : SharedNamespace) : (ns.ranked.map (·.1)).Nodup := by
  rw [ranked, ((List.mergeSort_perm _ _).map _).nodup_iff]
  exact (ns.bindings.nodup_keys).sublist (List.filter_sublist.map _)

theorem writeNumber_ranked (ns : SharedNamespace) :
    ns.ranked.Pairwise fun a b => b.2.writeNumber ≤ a.2.writeNumber := by
  refine (List.pairwise_mergeSort ?_ ?_ _).imp of_decide_eq_true
  · intro a b c hab hbc
    simp only [decide_eq_true_eq] at hab hbc ⊢
    omega
  · intro a b
    simp only [Bool.or_eq_true, decide_eq_true_eq]
    omega

/-- A binding comes from the last write to its name. -/
theorem Follows.lastWriteTo?_eq_some (h : ns.Follows ws) {name : String} {b : Binding}
    (hb : ns.get? name = some b) : lastWriteTo? ws name = some ⟨b.session, name, b.value⟩ := by
  have hcontent := h.content name
  rw [hb] at hcontent
  obtain ⟨w, hw, hwrite⟩ := Option.map_eq_some_iff.1 hcontent.symm
  have hname := name_of_lastWriteTo? hw
  obtain ⟨session, name', value⟩ := w
  cases hname
  cases hwrite
  exact hw

/-- The latest come first: no two names have one age, so different names have different numbers. -/
theorem Follows.age_ranked (h : ns.Follows ws) :
    ns.ranked.Pairwise fun a b => age ws a.1 < age ws b.1 := by
  have hnames : ns.ranked.Pairwise fun a b => a.1 ≠ b.1 := List.pairwise_map.1 ns.nodup_ranked
  refine (ns.writeNumber_ranked.and hnames).imp_of_mem fun {a b} ha hb hab => ?_
  have hgeta := (mem_ranked_iff.1 ha).2
  have hgetb := (mem_ranked_iff.1 hb).2
  have hage : age ws a.1 ≠ age ws b.1 := fun heq =>
    hab.2 (eq_of_age_eq (h.lastWriteTo?_eq_some hgeta) (h.lastWriteTo?_eq_some hgetb) heq)
  have hnumbera := h.number hgeta
  have hnumberb := h.number hgetb
  omega

/-! ## The last writes -/

/-- The last writes to public names, the latest first. -/
structure RanksLatest (ws listed : List NamespaceWrite) : Prop where
  mem_iff {w : NamespaceWrite} : w ∈ listed ↔
    isPublic w.name = true ∧ lastWriteTo? ws w.name = some w
  latestFirst : listed.Pairwise fun w w' => age ws w.name < age ws w'.name

/-- A binding as the write that it comes from. -/
def writeOf (entry : String × Binding) : NamespaceWrite :=
  ⟨entry.2.session, entry.1, entry.2.value⟩

theorem Follows.ranksLatest (h : ns.Follows ws) : RanksLatest ws (ns.ranked.map writeOf) where
  mem_iff {w} := by
    rw [List.mem_map]
    constructor
    · rintro ⟨⟨name, b⟩, hmem, rfl⟩
      obtain ⟨hpublic, hget⟩ := mem_ranked_iff.1 hmem
      exact ⟨hpublic, h.lastWriteTo?_eq_some hget⟩
    · rintro ⟨hpublic, hlast⟩
      have hcontent := h.content w.name
      rw [hlast] at hcontent
      obtain ⟨b, hget, hb⟩ := Option.map_eq_some_iff.1 hcontent
      refine ⟨(w.name, b), mem_ranked_iff.2 ⟨hpublic, hget⟩, ?_⟩
      obtain ⟨session, name, value⟩ := w
      cases hb
      rfl
  latestFirst := List.pairwise_map.2 h.age_ranked

/-- **The bindings shown are the latest public ones.** Whatever has been published and cleared, a
name is bound to what the last write to it since the last clear has given it; and with the last
writes to the public names listed from the latest on, the first twenty of this list are shown, each
with its value and its writer. -/
theorem visible_are_latest (calls : List NamespaceCall) :
    (∀ name, ((ofCalls calls).get? name).map Binding.content =
      (lastWriteTo? (sinceClear calls) name).map fun w => (w.value, w.session)) ∧
      ∃ listed, RanksLatest (sinceClear calls) listed ∧ (listed.map (·.name)).Nodup ∧
        (ofCalls calls).visible.map (fun entry => (entry.1, entry.2.value, entry.2.session)) =
          (listed.take (min 20 listed.length)).map fun w => (w.name, w.value, w.session) := by
  have hfollows := follows_ofCalls calls
  refine ⟨hfollows.content, (ofCalls calls).ranked.map writeOf, hfollows.ranksLatest, ?_, ?_⟩
  · rw [List.map_map]
    exact (ofCalls calls).nodup_ranked
  · rw [← List.take_eq_take_min, ← List.map_take, List.map_map]
    rfl

-- A name that is written again comes first, and a clear does not start the count anew.
example : (ofCalls [.publish "s" (.ofList [("x", .null)]), .clear,
    .publish "s" (.ofList [("a", .null), ("b", .null), ("_c", .null)]),
    .publish "t" (.ofList [("a", .bool true)])]).visible.map (fun entry => (entry.1, entry.2.session)) =
    [("a", "t"), ("b", "s")] := by cbv

end SharedNamespace

end NodeCanvas
