import NodeCanvas.Proofs.Backend
/-!
# The backend's graph stays whole

Nodes may be put into a backend from outside, over those that it has and under the ids that it will
give out next, and rules may refuse any of its calls. Its graph stays whole all the same
(`Backend.Intact`). What it creates it numbers one by one, nodes and connections together, so it never
gives out an id twice (`Numbered.inj`).
-/

namespace NodeCanvas

/-- A call of the backend in this process: a request, or something that prepares it. -/
inductive BackendCall (R : Type) where
  | ask (r : Request R)
  | seedNode (node : Node R)
  | failAlways (name : String) (error : RequestError)
  | failCall (name : String) (nth : Nat) (error : RequestError)
  | clearFailures
  | scriptStep (session : SessionId) (result : StepResult)

variable {R : Type}

/-- The id that a request is answered with, if it has created a node or a connection. -/
def Request.createdId? : (r : Request R) → Except RequestError r.Reply → Option String
  | .createNode _, .ok id => some id
  | .createConnection _, .ok id => some id
  | _, _ => none

/-! ## Numbered ids -/

/-- The id with this number, of a node or of a connection. -/
def Numbered (n : Nat) (id : String) : Prop :=
  id = "node" ++ "-" ++ Nat.repr n ∨ id = "conn" ++ "-" ++ Nat.repr n

theorem node_ne_conn (m n : Nat) : "node" ++ "-" ++ Nat.repr m ≠ "conn" ++ "-" ++ Nat.repr n := by
  intro heq
  have hchars := congrArg String.toList heq
  simp at hchars

/-- An id has one number. -/
theorem Numbered.inj {m n : Nat} {id : String} (hm : Numbered m id) (hn : Numbered n id) :
    m = n := by
  obtain rfl | rfl := hm
  · obtain hn | hn := hn
    · exact repr_injective ((String.append_right_inj _).1 hn)
    · exact absurd hn (node_ne_conn m n)
  · obtain hn | hn := hn
    · exact absurd hn.symm (node_ne_conn n m)
    · exact repr_injective ((String.append_right_inj _).1 hn)

namespace Backend

variable {b : Backend R}

theorem Intact.seedNode (h : b.Intact) (node : Node R) : (b.seedNode node).Intact := by
  refine h.transfer (fun id n hn => ?_) fun id c hc => .inl ⟨hc, fun a _ ha => ?_⟩
  · change (b.nodes.insert node.id node).get? id = some n at hn
    rw [Table.get?_insert] at hn
    split at hn
    · rename_i hid
      cases hn
      exact hid.symm
    · exact h.nodeIds id n hn
  · change ((b.nodes.insert node.id node).get? a).isSome = true
    rw [Table.get?_insert]
    split
    · rfl
    · exact ha

variable [Scalar R]

/-- A creation is answered with the next number. -/
theorem numbered_of_perform {r : Request R} {done : Accepted R r.Reply}
    (h : b.perform r = .ok done) {id : String} (hid : r.createdId? (.ok done.reply) = some id) :
    Numbered (b.allocated + 1) id ∧ done.backend.allocated = b.allocated + 1 := by
  cases r with
  | createNode spec =>
    cases h
    cases hid
    exact ⟨.inl rfl, rfl⟩
  | createConnection spec =>
    obtain ⟨-, -, -, rfl⟩ := createConnection_eq_ok h
    cases hid
    exact ⟨.inr rfl, rfl⟩
  | _ => cases hid

/-! ## Calls -/

/-- The backend after a call, and the id of what the call has created. -/
def serve (b : Backend R) : BackendCall R → Backend R × Option String
  | .ask r => ((b.answer r).2.1, r.createdId? (b.answer r).1)
  | .seedNode node => (b.seedNode node, none)
  | .failAlways name error => (b.failAlways name error, none)
  | .failCall name nth error => (b.failCall name nth error, none)
  | .clearFailures => (b.clearFailures, none)
  | .scriptStep session result => (b.scriptStep session result, none)

/-- The backend after several calls, and the ids of what they have created, in turn. -/
def serveAll (b : Backend R) : List (BackendCall R) → Backend R × List String
  | [] => (b, [])
  | call :: calls =>
    let rest := (b.serve call).1.serveAll calls
    (rest.1, (b.serve call).2.toList ++ rest.2)

/-- What one call may do: the graph stays whole, and what is created gets the next number. -/
structure Served (b b' : Backend R) (created : Option String) : Prop where
  intact : b'.Intact
  allocated : b.allocated ≤ b'.allocated
  numbered : ∀ id ∈ created, Numbered (b.allocated + 1) id ∧ b'.allocated = b.allocated + 1

theorem served_answer (h : b.Intact) (r : Request R) :
    b.Served (b.answer r).2.1 (r.createdId? (b.answer r).1) := by
  -- The backend answers as it does over a link.
  let link : Link R := { backend := b }
  have hreply : (b.answer r).1 = (link.answer r).1 := rfl
  have hbackend : (b.answer r).2.1 = (link.answer r).2.backend := rfl
  rw [hreply, hbackend]
  obtain ⟨cause, b', hanswer, heffect⟩ | ⟨done, hperform, hanswer, heffect, -⟩ := link.answer_cases r
  · rw [hanswer]
    refine ⟨h.of_effect heffect, heffect.allocated_le, fun id hid => ?_⟩
    cases r <;> cases hid
  · rw [hanswer]
    exact ⟨h.of_effect heffect, heffect.allocated_le, fun id hid => numbered_of_perform hperform hid⟩

theorem served (h : b.Intact) (call : BackendCall R) :
    b.Served (b.serve call).1 (b.serve call).2 := by
  cases call with
  | ask r => exact served_answer h r
  | seedNode node => exact ⟨h.seedNode node, Nat.le_refl _, by simp [serve]⟩
  | failAlways | failCall | clearFailures | scriptStep =>
    exact ⟨⟨h.nodeIds, h.connectionIds, h.ends⟩, Nat.le_refl _, by simp [serve]⟩

/-- The graph stays whole, and what is created gets new numbers, no two the same. -/
theorem served_all (h : b.Intact) (calls : List (BackendCall R)) :
    (b.serveAll calls).1.Intact ∧ (b.serveAll calls).2.Nodup ∧
      ∀ id ∈ (b.serveAll calls).2, ∃ n, b.allocated < n ∧ Numbered n id := by
  induction calls generalizing b with
  | nil => exact ⟨h, .nil, fun _ hid => by cases hid⟩
  | cons call calls ih =>
    have hfirst := served h call
    obtain ⟨hintact, hnodup, hlater⟩ := ih hfirst.intact
    have hle := hfirst.allocated
    refine ⟨hintact, List.nodup_append'.2 ⟨?_, hnodup, ?_⟩, fun id hid => ?_⟩
    · cases (b.serve call).2 <;> simp
    -- What is created now has the number up to which numbers are given out later.
    · intro id hid hid'
      obtain ⟨hnumber, hallocated⟩ := hfirst.numbered id (Option.mem_toList.1 hid)
      obtain ⟨n, hn, hnumber'⟩ := hlater id hid'
      have := hnumber.inj hnumber'
      omega
    · rcases List.mem_append.1 hid with hid | hid
      · exact ⟨b.allocated + 1, Nat.lt_succ_self _,
          (hfirst.numbered id (Option.mem_toList.1 hid)).1⟩
      · obtain ⟨n, hn, hnumber⟩ := hlater id hid
        exact ⟨n, by omega, hnumber⟩

/-- **Whatever is asked of the backend, put into it and refused by it, every connection of its graph
joins two different nodes of the graph, everything is stored under its own id, and no creation is
answered with an id that an earlier one was answered with.** -/
theorem integrity_under_calls (rules : List FailureRule) (calls : List (BackendCall R)) :
    let after := ({ Backend.initial with failures := rules } : Backend R).serveAll calls
    after.1.Intact ∧ after.2.Nodup := by
  have hinitial : ({ Backend.initial with failures := rules } : Backend R).Intact :=
    (sound_of_isEmpty rfl rfl).intact
  obtain ⟨hintact, hnodup, -⟩ := served_all hinitial calls
  exact ⟨hintact, hnodup⟩

-- A node that was put in under the id that comes next is replaced, and a refused call uses up no id.
example : ((Backend.initial : Backend Float).serveAll
    [.seedNode (.fresh "node-1" "old" .origin), .failCall "create_node" 1 (.transport "gone"),
      .ask (.createNode ⟨"a", .origin, {}, {}, [], []⟩),
      .ask (.createNode ⟨"b", .origin, {}, {}, [], []⟩),
      .ask (.createNode ⟨"c", .origin, {}, {}, [], []⟩),
      .ask (.createConnection ⟨"node-1", "output", "node-2", "input"⟩)]).2 =
    ["node-1", "node-2", "conn-3"] := rfl

end Backend

end NodeCanvas
