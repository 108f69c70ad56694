import NodeCanvas.Proofs.Table
import NodeCanvas.Debug.Sessions
import Mathlib.Data.List.Induction
/-!
# The outcomes of a run, published twice

The outcomes of a run arrive with the answer to the request and as a push, and both are taken over.
The second time no session changes its state, since there is one outcome for each session. The
variables are written again, and every write has a new number; but what is written again was written
last before (`SharedNamespace.rewritten_iff`), so the order of the bindings by their numbers stays
the same (`SharedNamespace.renumber_le_iff`) and the namespace reads as before.
-/

namespace NodeCanvas

/-- A write of a session to a name. -/
structure NamespaceWrite where
  session : String
  name : String
  value : Json

/-- What a binding says, apart from when it was written. -/
def Binding.content (b : Binding) : Json × String := (b.value, b.session)

/-- The binding counted from later on. -/
def Binding.later (writes : Nat) (b : Binding) : Binding :=
  { b with writeNumber := writes + b.writeNumber }

namespace SharedNamespace

variable {ns : SharedNamespace} {ws : List NamespaceWrite} {k : String} {b : Binding}

/-- Several writes in order. -/
def writeAll (ns : SharedNamespace) (ws : List NamespaceWrite) : SharedNamespace :=
  ws.foldl (fun ns w => ns.write w.session w.name w.value) ns

theorem writeAll_concat (ns : SharedNamespace) (ws : List NamespaceWrite) (w : NamespaceWrite) :
    ns.writeAll (ws ++ [w]) = (ns.writeAll ws).write w.session w.name w.value :=
  List.foldl_concat ..

theorem writeAll_append (ns : SharedNamespace) (ws ws' : List NamespaceWrite) :
    ns.writeAll (ws ++ ws') = (ns.writeAll ws).writeAll ws' :=
  List.foldl_append ..

theorem publish_eq (ns : SharedNamespace) (session : String) (written : Table Json) :
    ns.publish session written =
      ns.writeAll (written.entries.map fun entry => ⟨session, entry.1, entry.2⟩) := by
  rw [publish, writeAll, List.foldl_map]

theorem writes_writeAll (ns : SharedNamespace) (ws : List NamespaceWrite) :
    (ns.writeAll ws).writes = ns.writes + ws.length := by
  induction ws using List.reverseRecOn with
  | nil => rfl
  | append_singleton ws w ih =>
    rw [writeAll_concat, List.length_append, ← Nat.add_assoc, ← ih]
    rfl

theorem get?_write (ns : SharedNamespace) (session name : String) (value : Json) (k : String) :
    (ns.write session name value).get? k =
      if k = name then some ⟨value, session, ns.writes + 1⟩ else ns.get? k :=
  Table.get?_insert ..

/-- Writes leave what they leave in an empty namespace, counted on, and below it what was there
before. -/
theorem get?_writeAll (ns : SharedNamespace) (ws : List NamespaceWrite) (k : String) :
    (ns.writeAll ws).get? k =
      ((((({} : SharedNamespace).writeAll ws).get? k).map (Binding.later ns.writes)).or
        (ns.get? k)) := by
  induction ws using List.reverseRecOn with
  | nil => rfl
  | append_singleton ws w ih =>
    rw [writeAll_concat, writeAll_concat, get?_write, get?_write, writes_writeAll, writes_writeAll]
    by_cases hk : k = w.name
    · rw [if_pos hk, if_pos hk]
      simp [Binding.later, Nat.add_assoc]
    · rw [if_neg hk, if_neg hk, ih]

theorem writeNumber_le (h : ns.get? k = some b) : b.writeNumber ≤ ns.writes :=
  ns.counted (k, b) (Table.get?_eq_some_iff.1 h)

theorem writeNumber_pos
    (h : (({} : SharedNamespace).writeAll ws).get? k = some b) : 0 < b.writeNumber := by
  induction ws using List.reverseRecOn with
  | nil => cases h
  | append_singleton ws w ih =>
    rw [writeAll_concat, get?_write] at h
    split at h
    · cases h
      exact Nat.succ_pos _
    · exact ih h

/-- How the second of two equal rounds of writes numbers a binding that the first has left. -/
def renumber (ws : List NamespaceWrite) (k : String) (b : Binding) : Binding :=
  if ((({} : SharedNamespace).writeAll ws).get? k).isSome then b.later ws.length else b

theorem content_renumber (ws : List NamespaceWrite) (k : String) (b : Binding) :
    (renumber ws k b).content = b.content := by
  unfold renumber
  split <;> rfl

theorem bindings_writeAll_twice (ns : SharedNamespace) (ws : List NamespaceWrite) :
    ((ns.writeAll ws).writeAll ws).bindings =
      (ns.writeAll ws).bindings.mapValues (renumber ws) := by
  refine Table.ext_get? fun k => ?_
  rw [Table.get?_mapValues]
  change ((ns.writeAll ws).writeAll ws).get? k = ((ns.writeAll ws).get? k).map (renumber ws k)
  rw [get?_writeAll (ns.writeAll ws), get?_writeAll ns, writes_writeAll]
  unfold renumber
  cases hk : (({} : SharedNamespace).writeAll ws).get? k with
  | none =>
    cases ns.get? k <;> rfl
  | some b =>
    simp only [Option.map_some, Option.some_or, Option.isSome_some, if_true, Option.some.injEq]
    simp only [Binding.later]
    rw [← Nat.add_assoc, Nat.add_comm ws.length]

/-- Exactly the names that were just written have a number beyond those from before. -/
theorem rewritten_iff (hb : (ns.writeAll ws).get? k = some b) :
    ((({} : SharedNamespace).writeAll ws).get? k).isSome = true ↔ ns.writes < b.writeNumber := by
  rw [get?_writeAll] at hb
  cases hk : (({} : SharedNamespace).writeAll ws).get? k with
  | none =>
    rw [hk, Option.map_none, Option.none_or] at hb
    have hle := writeNumber_le hb
    simp only [Option.isSome_none, Bool.false_eq_true, false_iff]
    omega
  | some fresh =>
    rw [hk, Option.map_some, Option.some_or] at hb
    cases hb
    have hpos := writeNumber_pos hk
    simp only [Option.isSome_some, Binding.later, true_iff]
    omega

/-- Renumbering does not change which of two bindings is the later one: those that are written again
come after all others, before and after it. -/
theorem renumber_le_iff {k' : String} {b' : Binding} (hb : (ns.writeAll ws).get? k = some b)
    (hb' : (ns.writeAll ws).get? k' = some b') :
    (renumber ws k b).writeNumber ≤ (renumber ws k' b').writeNumber ↔
      b.writeNumber ≤ b'.writeNumber := by
  simp only [renumber, rewritten_iff hb, rewritten_iff hb']
  split <;> split <;> simp only [Binding.later] <;> omega

theorem visible_writeAll_twice (ns : SharedNamespace) (ws : List NamespaceWrite) :
    ((ns.writeAll ws).writeAll ws).visible =
      (ns.writeAll ws).visible.map fun entry => (entry.1, renumber ws entry.1 entry.2) := by
  have hfilter : ((ns.writeAll ws).bindings.mapValues (renumber ws)).entries.filter
        (fun entry => isPublic entry.1) =
      ((ns.writeAll ws).bindings.entries.filter fun entry => isPublic entry.1).map
        fun entry => (entry.1, renumber ws entry.1 entry.2) :=
    List.filter_map
  unfold visible
  rw [bindings_writeAll_twice, hfilter, List.map_take]
  congr 1
  refine (List.map_mergeSort fun entry hentry entry' hentry' => ?_).symm
  have hb := Table.get?_eq_some_iff.2 (List.mem_of_mem_filter hentry)
  have hb' := Table.get?_eq_some_iff.2 (List.mem_of_mem_filter hentry')
  exact decide_eq_decide.2 (renumber_le_iff hb' hb).symm

/-- The second namespace reads like the first: the same names are bound to the same values by the
same sessions, and the same bindings are shown in the same order. -/
structure ReadsLike (ns ns' : SharedNamespace) : Prop where
  bindings : ∀ name, (ns'.get? name).map Binding.content = (ns.get? name).map Binding.content
  visible : ns'.visible.map (fun entry => (entry.1, entry.2.content)) =
    ns.visible.map fun entry => (entry.1, entry.2.content)

theorem ReadsLike.refl (ns : SharedNamespace) : ns.ReadsLike ns := ⟨fun _ => rfl, rfl⟩

/-- **The same writes once more change nothing that can be read.** -/
theorem readsLike_writeAll_twice (ns : SharedNamespace) (ws : List NamespaceWrite) :
    (ns.writeAll ws).ReadsLike ((ns.writeAll ws).writeAll ws) where
  bindings name := by
    change (((ns.writeAll ws).writeAll ws).bindings.get? name).map _ = _
    rw [bindings_writeAll_twice, Table.get?_mapValues, Option.map_map]
    refine congrArg (Option.map · _) (funext fun b => ?_)
    exact content_renumber ws name b
  visible := by
    rw [visible_writeAll_twice, List.map_map]
    refine congrArg (List.map · _) (funext fun entry => ?_)
    exact congrArg (entry.1, ·) (content_renumber ws entry.1 entry.2)

end SharedNamespace

/-! ## The outcomes of a run -/

namespace DebugSessions

variable {d : DebugSessions} {id : SessionId} {outcome : Json} {entry : SessionId × Json}

/-- The state that an outcome says its session is in; an error says none. -/
def outcomeState? (outcome : Json) : Option SessionState :=
  if (outcome.get? "error" >>= Json.text?).isSome then none
  else some ((outcome.get? "state" >>= ofJson?).getD .completed)

/-- What an outcome writes. -/
def outcomeWrites (id : SessionId) (outcome : Json) : List NamespaceWrite :=
  if (outcome.get? "error" >>= Json.text?).isSome then []
  else match outcome.get? "variables" >>= Json.table? with
    | some written => written.entries.map fun entry => ⟨id, entry.1, entry.2⟩
    | none => []

theorem shared_setState (d : DebugSessions) (id : SessionId) (state : SessionState) :
    (d.setState id state).1.shared = d.shared := by
  unfold setState
  split
  · split <;> rfl
  · unfold register
    split <;> rfl

/-- An outcome sets the state that it says, and writes what it writes. -/
theorem applyOutcome_eq (d : DebugSessions) (id : SessionId) (outcome : Json) :
    d.applyOutcome id outcome =
      match outcomeState? outcome with
      | none => (d, false)
      | some state =>
        ({ (d.setState id state).1 with shared := d.shared.writeAll (outcomeWrites id outcome) },
          (d.setState id state).2) := by
  unfold applyOutcome outcomeState? outcomeWrites
  split
  · rfl
  · dsimp only
    cases outcome.get? "variables" >>= Json.table? with
    | none =>
      dsimp only
      rw [← shared_setState d id]
      rfl
    | some written =>
      dsimp only
      rw [SharedNamespace.publish_eq, shared_setState]

theorem shared_applyOutcome (d : DebugSessions) (id : SessionId) (outcome : Json) :
    (d.applyOutcome id outcome).1.shared = d.shared.writeAll (outcomeWrites id outcome) := by
  by_cases herror : (outcome.get? "error" >>= Json.text?).isSome = true
  · simp only [applyOutcome_eq, outcomeState?, outcomeWrites, if_pos herror]
    rfl
  · simp only [applyOutcome_eq, outcomeState?, outcomeWrites, if_neg herror]

/-- The session is in the state that an outcome says. -/
def Reflects (d : DebugSessions) (entry : SessionId × Json) : Prop :=
  ∀ state ∈ outcomeState? entry.2, (d.session? entry.1).map (·.state) = some state

theorem setState_of_state {state : SessionState}
    (h : (d.session? id).map (·.state) = some state) : d.setState id state = (d, false) := by
  obtain ⟨session, hsession, hstate⟩ := Option.map_eq_some_iff.1 h
  unfold setState
  rw [hsession]
  exact if_pos hstate

theorem state_setState (d : DebugSessions) (id : SessionId) (state : SessionState) :
    ((d.setState id state).1.session? id).map (·.state) = some state := by
  unfold setState
  cases hsession : d.session? id with
  | none =>
    unfold register
    rw [hsession]
    exact congrArg (Option.map _) (Table.get?_insert_self ..)
  | some session =>
    dsimp only
    split
    · rename_i hstate
      rw [hsession]
      exact congrArg some hstate
    · exact congrArg (Option.map _) (Table.get?_insert_self ..)

theorem session?_setState_of_ne {other : SessionId} (h : other ≠ id) (state : SessionState) :
    (d.setState id state).1.session? other = d.session? other := by
  unfold setState
  cases hsession : d.session? id with
  | none =>
    unfold register
    rw [hsession]
    exact (Table.get?_insert ..).trans (if_neg h)
  | some session =>
    dsimp only
    split
    · rfl
    · exact (Table.get?_insert ..).trans (if_neg h)

theorem reflects_applyOutcome (d : DebugSessions) (entry : SessionId × Json) :
    (d.applyOutcome entry.1 entry.2).1.Reflects entry := by
  intro state hstate
  rw [applyOutcome_eq, Option.mem_def.1 hstate]
  exact state_setState d entry.1 state

theorem Reflects.applyOutcome (h : d.Reflects entry)
    (hne : entry.1 ≠ id) (outcome : Json) : (d.applyOutcome id outcome).1.Reflects entry := by
  intro state hstate
  rw [applyOutcome_eq]
  split
  · exact h state hstate
  · rename_i state' _
    exact (congrArg _ (session?_setState_of_ne hne state')).trans (h state hstate)

theorem Reflects.unchanged (h : d.Reflects entry) :
    (d.applyOutcome entry.1 entry.2).1.sessions = d.sessions ∧
      (d.applyOutcome entry.1 entry.2).2 = false := by
  rw [applyOutcome_eq]
  cases hstate : outcomeState? entry.2 with
  | none => exact ⟨rfl, rfl⟩
  | some state =>
    dsimp only
    rw [setState_of_state (h state hstate)]
    exact ⟨rfl, rfl⟩

/-- The sessions after the outcomes of a list, and whether one of them or an earlier one was a
change. -/
def applyOutcomes (start : DebugSessions × Bool) (outcomes : List (SessionId × Json)) :
    DebugSessions × Bool :=
  outcomes.foldl
    (fun (d, changed) entry =>
      let (d, more) := d.applyOutcome entry.1 entry.2
      (d, changed || more))
    start

theorem applyRunAll_eq (d : DebugSessions) (results : Table Json) :
    d.applyRunAll results = applyOutcomes (d, false) results.entries := rfl

theorem shared_applyOutcomes (start : DebugSessions × Bool) (outcomes : List (SessionId × Json)) :
    (applyOutcomes start outcomes).1.shared =
      start.1.shared.writeAll (outcomes.flatMap fun entry => outcomeWrites entry.1 entry.2) := by
  induction outcomes generalizing start with
  | nil => rfl
  | cons entry outcomes ih =>
    rw [List.flatMap_cons, SharedNamespace.writeAll_append, ← shared_applyOutcome]
    exact ih _

/-- After a run all its outcomes are reflected: there is at most one for each session. -/
theorem reflects_applyOutcomes (start : DebugSessions × Bool) {outcomes : List (SessionId × Json)}
    (hkeys : (outcomes.map (·.1)).Nodup)
    (h : entry ∈ outcomes ∨ start.1.Reflects entry ∧ entry.1 ∉ outcomes.map (·.1)) :
    (applyOutcomes start outcomes).1.Reflects entry := by
  induction outcomes generalizing start with
  | nil => exact (h.resolve_left List.not_mem_nil).1
  | cons head outcomes ih =>
    rw [List.map_cons, List.nodup_cons] at hkeys
    refine ih _ hkeys.2 ?_
    rcases h with hmem | ⟨hreflects, hnot⟩
    · rcases List.mem_cons.1 hmem with rfl | hmem
      · exact .inr ⟨reflects_applyOutcome start.1 entry, hkeys.1⟩
      · exact .inl hmem
    · rw [List.map_cons, List.mem_cons, not_or] at hnot
      exact .inr ⟨hreflects.applyOutcome hnot.1 head.2, hnot.2⟩

theorem applyOutcomes_of_reflects (start : DebugSessions × Bool)
    {outcomes : List (SessionId × Json)} (h : ∀ entry ∈ outcomes, start.1.Reflects entry) :
    (applyOutcomes start outcomes).1.sessions = start.1.sessions ∧
      (applyOutcomes start outcomes).2 = start.2 := by
  induction outcomes generalizing start with
  | nil => exact ⟨rfl, rfl⟩
  | cons head outcomes ih =>
    obtain ⟨hsessions, hchanged⟩ := (h head List.mem_cons_self).unchanged
    obtain ⟨hrest, hflag⟩ := ih ((start.1.applyOutcome head.1 head.2).1,
      start.2 || (start.1.applyOutcome head.1 head.2).2) fun entry hentry state hstate => by
        rw [session?, hsessions]
        exact h entry (List.mem_cons_of_mem head hentry) state hstate
    exact ⟨hrest.trans hsessions, hflag.trans (by rw [hchanged, Bool.or_false])⟩

/-- **The outcomes of a run, taken over once more.** The sessions stay as they are, no change is
reported, and the shared namespace reads as before. -/
theorem applyRunAll_twice (d : DebugSessions) (results : Table Json) :
    ((d.applyRunAll results).1.applyRunAll results).2 = false ∧
      ((d.applyRunAll results).1.applyRunAll results).1.sessions =
        (d.applyRunAll results).1.sessions ∧
      (d.applyRunAll results).1.shared.ReadsLike
        ((d.applyRunAll results).1.applyRunAll results).1.shared := by
  have hreflects : ∀ entry ∈ results.entries, (d.applyRunAll results).1.Reflects entry :=
    fun entry hentry => reflects_applyOutcomes (d, false) results.nodup_keys (.inl hentry)
  obtain ⟨hsessions, hflag⟩ :=
    applyOutcomes_of_reflects ((d.applyRunAll results).1, false) hreflects
  refine ⟨hflag, hsessions, ?_⟩
  rw [applyRunAll_eq (d.applyRunAll results).1, shared_applyOutcomes, applyRunAll_eq,
    shared_applyOutcomes]
  exact SharedNamespace.readsLike_writeAll_twice ..

end DebugSessions
end NodeCanvas
