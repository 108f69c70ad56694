import Mathlib.Logic.Function.Iterate
import NodeCanvas.Proofs.ChangeReports
import NodeCanvas.Proofs.Comparison
import NodeCanvas.Proofs.Merging
import NodeCanvas.Proofs.OverlappingSaves
import NodeCanvas.Proofs.Reachable
/-!
# Updates that overlap

An update of the parameters of a node that exists only here takes three sections: it looks whether
the node is there, merges what is given into the parameters that it finds, and writes the result.
Here two such updates take turns, a section at a time.

What is written is the whole bag, whatever has become of that of the node since it was read. If one
of the updates reads after the other has written, then both are kept: the fields are the old ones
with both changes, up to values that compare as equal, and up to own fields that are null, which a
bag has only as long as another of its own fields is of a wrong type. In every other order both read
before either writes, and the one that writes last undoes the other, although both succeed
(`updates_kept_iff`).

The steps of a call are followed by an `UpdateRace`, which has nothing but the stages of the two and
the parameters of the node.
-/

namespace NodeCanvas

variable {R σ ε α β γ : Type} {v : Json}

/-! ## Turns -/

/-- One more step of a program. One that has broken down takes no more, and what it has done stays. -/
def Program.proceed (answer : Answering R ε) (program : Program R σ α) (w : World R σ ε) :
    Program R σ α × World R σ ε :=
  match program.stepWith answer w with
  | .ok next => next
  | .error _ => (program, w)

/-- The caller of one of two updates. -/
inductive Caller where
  | first
  | second
  deriving DecidableEq

namespace Caller

def other : Caller → Caller
  | .first => .second
  | .second => .first

theorem other_ne (c : Caller) : c.other ≠ c := by cases c <;> decide

theorem other_other (c : Caller) : c.other.other = c := by cases c <;> rfl

theorem eq_other_of_ne {c d : Caller} (h : d ≠ c) : d = c.other := by
  cases c <;> cases d <;> first | rfl | exact (h rfl).elim

/-- At some time one of two calls of three steps has taken them all, and the other one has not yet
taken its second. -/
def Apart (turns : List Caller) : Prop :=
  ∃ before after c, turns = before ++ after ∧ 3 ≤ before.count c ∧ before.count c.other ≤ 1

/-- When the other one of two calls takes its third step, both have taken their second. -/
def Overtakes (c : Caller) (turns : List Caller) : Prop :=
  ∃ before after, turns = before ++ c.other :: after ∧ ∀ d, before.count d = 2

/-- In every order one of the calls overtakes the other, or they are apart. -/
theorem apart_or_overtakes {turns : List Caller} {c : Caller} (h : 3 ≤ turns.count c) :
    Apart turns ∨ ∃ c, Overtakes c turns := by
  -- It is decided by the first of all third steps.
  induction turns using List.reverseRecOn generalizing c with
  | nil => cases h
  | append_singleton turns d ih =>
    by_cases hearlier : ∃ c, 3 ≤ turns.count c
    · obtain ⟨c, hc⟩ := hearlier
      obtain ⟨before, after, c, rfl, hapart⟩ | ⟨c, before, after, rfl, hread⟩ := ih hc
      · exact .inl ⟨before, after ++ [d], c, List.append_assoc .., hapart⟩
      · exact .inr ⟨c, before, after ++ [d], List.append_assoc .., hread⟩
    · have hfew (c : Caller) : turns.count c ≤ 2 := by
        by_contra hc
        exact hearlier ⟨c, by omega⟩
      have hcount := hfew c
      have hother := hfew d.other
      rw [List.count_append, List.count_singleton] at h
      obtain rfl : d = c := by
        by_contra hd
        simp [hd] at h
        omega
      simp only [beq_self_eq_true, if_true] at h
      by_cases hread : turns.count d.other = 2
      · refine .inr ⟨d.other, turns, [], by rw [other_other], fun e => ?_⟩
        by_cases he : e = d
        · subst he
          omega
        · rw [eq_other_of_ne he, hread]
      · refine .inl ⟨turns ++ [d], [], d, (List.append_nil _).symm, ?_, ?_⟩
        · rw [List.count_append, List.count_singleton_self]
          omega
        · rw [List.count_append, List.count_singleton, if_neg (by simpa using d.other_ne.symm)]
          omega

end Caller

/-- What is left of two updates, and the world that they work on. -/
structure UpdatesInFlight (R σ ε : Type) where
  calls : Caller → Program R σ (Except ClientError Unit)
  world : World R σ ε

namespace UpdatesInFlight

/-- Two updates of a node that have not begun. -/
def start [Scalar R] (node : NodeId) (changes : Caller → Table Json) (w : World R σ ε) :
    UpdatesInFlight R σ ε where
  calls c := (Client.updateParameters node (changes c)).run
  world := w

/-- One step of one of them. -/
def step (answer : Answering R ε) (u : UpdatesInFlight R σ ε) (c : Caller) :
    UpdatesInFlight R σ ε :=
  let next := (u.calls c).proceed answer u.world
  ⟨Function.update u.calls c next.1, next.2⟩

/-- The callers taking turns. -/
def play (answer : Answering R ε) (u : UpdatesInFlight R σ ε) (turns : List Caller) :
    UpdatesInFlight R σ ε :=
  turns.foldl (step answer) u

end UpdatesInFlight

/-! ## The stages of an update -/

/-- How far an update has come. -/
inductive UpdateStage where
  | checking
  | merging
  | committing (merged : Parameters)
  | done

namespace UpdateStage

/-- How many steps it has taken. -/
def rank : UpdateStage → Nat
  | .checking => 0
  | .merging => 1
  | .committing _ => 2
  | .done => 3

/-- One step of an update, by what the parameters are. -/
def advance (changes : Table Json) : UpdateStage × Parameters → UpdateStage × Parameters
  | (.checking, current) => (.merging, current)
  | (.merging, current) => (.committing (Bag.mergedWith current changes), current)
  | (.committing merged, current) => (.done, (NodePatch.replace current (some merged)).1)
  | (.done, current) => (.done, current)

theorem rank_advance (changes : Table Json) (stage : UpdateStage) (current : Parameters) :
    (advance changes (stage, current)).1.rank = min 3 (stage.rank + 1) := by
  cases stage <;> rfl

/-- Only the third step writes. -/
theorem advance_snd {stage : UpdateStage} (h : stage.rank ≠ 2) (changes : Table Json)
    (current : Parameters) : (advance changes (stage, current)).2 = current := by
  cases stage with
  | committing merged => exact (h rfl).elim
  | checking | merging | done => rfl

theorem eq_done_of_rank {stage : UpdateStage} (h : stage.rank = 3) : stage = .done := by
  cases stage with
  | done => rfl
  | checking | merging | committing => cases h

/-- What an update leaves of the parameters if nothing comes between its steps. -/
def committed (changes : Table Json) (current : Parameters) : Parameters :=
  (NodePatch.replace current (some (Bag.mergedWith current changes))).1

theorem iterate_advance_done (changes : Table Json) (current : Parameters) (steps : Nat) :
    (advance changes)^[steps] (.done, current) = (.done, current) :=
  Function.iterate_fixed rfl steps

/-- An update that has not read yet and then takes its steps alone. -/
theorem iterate_advance {stage : UpdateStage} {steps : Nat} (hstage : stage.rank ≤ 1)
    (hsteps : 3 ≤ stage.rank + steps) (changes : Table Json) (current : Parameters) :
    (advance changes)^[steps] (stage, current) = (.done, committed changes current) := by
  obtain ⟨extra, rfl⟩ : ∃ extra, steps = extra + (3 - stage.rank) :=
    ⟨_, (Nat.sub_add_cancel (Nat.sub_le_iff_le_add'.2 hsteps)).symm⟩
  rw [Function.iterate_add_apply]
  cases stage with
  | checking | merging => exact iterate_advance_done changes _ extra
  | committing | done => simp [rank] at hstage

end UpdateStage

/-- Two updates of a node, by how far they have come, and the parameters of the node. -/
structure UpdateRace where
  stages : Caller → UpdateStage
  parameters : Parameters

namespace UpdateRace

variable {turns : List Caller}

def step (changes : Caller → Table Json) (r : UpdateRace) (c : Caller) : UpdateRace :=
  let next := UpdateStage.advance (changes c) (r.stages c, r.parameters)
  ⟨Function.update r.stages c next.1, next.2⟩

def play (changes : Caller → Table Json) (r : UpdateRace) (turns : List Caller) : UpdateRace :=
  turns.foldl (step changes) r

variable {changes : Caller → Table Json} {r : UpdateRace} {c : Caller}

theorem stages_step_self : (r.step changes c).stages c =
    (UpdateStage.advance (changes c) (r.stages c, r.parameters)).1 :=
  Function.update_self ..

theorem stages_step_of_ne {d : Caller} (h : d ≠ c) : (r.step changes c).stages d = r.stages d :=
  Function.update_of_ne h ..

/-- How far an update has come is how many turns it had. -/
theorem rank_play (changes : Caller → Table Json) (r : UpdateRace) (turns : List Caller)
    (c : Caller) :
    ((r.play changes turns).stages c).rank = min 3 ((r.stages c).rank + turns.count c) := by
  induction turns generalizing r with
  | nil =>
    change (r.stages c).rank = min 3 ((r.stages c).rank + 0)
    have hrank : (r.stages c).rank ≤ 3 := by cases r.stages c <;> simp [UpdateStage.rank]
    omega
  | cons d turns ih =>
    refine (ih (r.step changes d)).trans ?_
    by_cases hd : d = c
    · subst hd
      rw [stages_step_self, UpdateStage.rank_advance, List.count_cons_self]
      omega
    · rw [stages_step_of_ne (Ne.symm hd), List.count_cons_of_ne hd]

/-- **An update during which the other one does not write** goes on as if it were alone. -/
theorem play_of_quiet (changes : Caller → Table Json) (r : UpdateRace) (c : Caller)
    (turns : List Caller)
    (hquiet : r.stages c.other = .done ∨ (r.stages c.other).rank + turns.count c.other ≤ 2) :
    ((r.play changes turns).stages c, (r.play changes turns).parameters) =
      (UpdateStage.advance (changes c))^[turns.count c] (r.stages c, r.parameters) := by
  induction turns generalizing r with
  | nil => rfl
  | cons d turns ih =>
    by_cases hd : d = c
    · subst hd
      rw [List.count_cons_self, Function.iterate_succ_apply]
      rw [List.count_cons_of_ne (Ne.symm d.other_ne)] at hquiet
      have hother : (r.step changes d).stages d.other = r.stages d.other :=
        stages_step_of_ne d.other_ne
      rw [← hother] at hquiet
      refine (ih _ hquiet).trans ?_
      rw [stages_step_self]
      rfl
    · obtain rfl := Caller.eq_other_of_ne hd
      rw [List.count_cons_self] at hquiet
      rw [List.count_cons_of_ne hd]
      -- The other one does not write in this step, and will not in those to come.
      have hrank : (r.stages c.other).rank ≠ 2 := by
        obtain hdone | hrank := hquiet
        · rw [hdone]
          decide
        · omega
      have hparameters : (r.step changes c.other).parameters = r.parameters :=
        UpdateStage.advance_snd hrank ..
      have hstage : (r.step changes c.other).stages c = r.stages c :=
        stages_step_of_ne (Ne.symm hd)
      rw [← hparameters, ← hstage]
      refine ih _ ?_
      rw [stages_step_self, UpdateStage.rank_advance]
      obtain hdone | hrank := hquiet
      · exact .inl (by rw [hdone]; rfl)
      · exact .inr (by omega)

/-- Two updates that have not begun. -/
def start (parameters : Parameters) : UpdateRace := ⟨fun _ => .checking, parameters⟩

/-- Updates that had all their turns are done. -/
theorem stages_play_start {parameters : Parameters}
    (h : 3 ≤ turns.count c) : ((start parameters).play changes turns).stages c = .done := by
  refine UpdateStage.eq_done_of_rank ?_
  rw [rank_play]
  omega

/-- **Updates apart from each other** make their changes one after the other. -/
theorem parameters_play_of_apart (hturns : ∀ c, 3 ≤ turns.count c)
    (hapart : Caller.Apart turns) (parameters : Parameters) :
    ∃ c : Caller, ((start parameters).play changes turns).parameters =
      UpdateStage.committed (changes c.other) (UpdateStage.committed (changes c) parameters) := by
  obtain ⟨before, after, c, rfl, hbefore, hother⟩ := hapart
  have hafter := hturns c.other
  rw [List.count_append] at hafter
  have hunbegun (d : Caller) : ((start parameters).stages d).rank = 0 := rfl
  have hplay : (start parameters).play changes (before ++ after) =
      ((start parameters).play changes before).play changes after := List.foldl_append ..
  -- Before, `c` is alone: the other one has looked for the node at most, and so has read nothing.
  have hrank := rank_play changes (start parameters) before c.other
  have hfirst := play_of_quiet changes (start parameters) c before
    (.inr (by rw [hunbegun]; omega))
  rw [UpdateStage.iterate_advance (by rw [hunbegun]; omega) (by rw [hunbegun]; omega)] at hfirst
  generalize (start parameters).play changes before = r at hplay hrank hfirst
  obtain ⟨hdone, hwritten⟩ := Prod.mk.inj hfirst
  -- Afterwards the other one is.
  have hsecond := play_of_quiet changes r c.other after
    (.inl (c.other_other.symm ▸ hdone))
  rw [hunbegun] at hrank
  rw [UpdateStage.iterate_advance (by omega) (by omega), hwritten] at hsecond
  exact ⟨c, hplay ▸ (Prod.mk.inj hsecond).2⟩

/-- **An update that overtakes the other** writes what it has made of the parameters that both have
read. -/
theorem parameters_play_of_overtakes (hturns : 3 ≤ turns.count c)
    (hovertakes : c.Overtakes turns) (parameters : Parameters) :
    ((start parameters).play changes turns).parameters =
      (NodePatch.replace (UpdateStage.committed (changes c.other) parameters)
        (some (Bag.mergedWith parameters (changes c)))).1 := by
  obtain ⟨before, after, rfl, hread⟩ := hovertakes
  rw [List.count_append, hread, List.count_cons_of_ne c.other_ne] at hturns
  have hplay : (start parameters).play changes (before ++ c.other :: after) =
      (((start parameters).play changes before).step changes c.other).play changes after :=
    List.foldl_append ..
  have hboth (d : Caller) : (((start parameters).play changes before).stages d,
      ((start parameters).play changes before).parameters) =
        (.committing (Bag.mergedWith parameters (changes d)), parameters) := by
    refine (play_of_quiet changes _ d before (.inr ?_)).trans (by rw [hread]; rfl)
    rw [hread]
    exact Nat.le_refl 2
  generalize (start parameters).play changes before = r at hplay hboth
  obtain ⟨hother, hparameters⟩ := Prod.mk.inj (hboth c.other)
  have hdone : (r.step changes c.other).stages c.other = .done := by
    rw [stages_step_self, hother]
    rfl
  have hwritten : (r.step changes c.other).parameters =
      UpdateStage.committed (changes c.other) parameters := by
    change (UpdateStage.advance _ (r.stages c.other, r.parameters)).2 = _
    rw [hother, hparameters]
    rfl
  have hlast := play_of_quiet changes (r.step changes c.other) c after (.inl hdone)
  obtain ⟨extra, hafter⟩ : ∃ extra, after.count c = extra + 1 :=
    Nat.exists_eq_add_one.2 (by omega)
  rw [stages_step_of_ne c.other_ne.symm, (Prod.mk.inj (hboth c)).1, hwritten, hafter,
    Function.iterate_succ_apply] at hlast
  exact hplay ▸ (Prod.mk.inj (hlast.trans (UpdateStage.iterate_advance_done _ _ extra))).2

end UpdateRace

/-! ## What the calls do -/

section Calls

variable [Scalar R]

namespace Client

/-- What is left of an update that has found its node to exist only here. -/
def mergeParameters (node : NodeId) (changes : Table Json) : Attempt R σ Unit := do
  let merged : Parameters ← mergedHere node fun found => Bag.mergedWith found.parameters changes
  .atomically (Edit.patchNode node { parameters := some merged })

end Client

/-- What is left of an update that has come so far. -/
def UpdateStage.program (node : NodeId) (changes : Table Json) :
    UpdateStage → Program R σ (Except ClientError Unit)
  | .checking => (Client.updateParameters node changes).run
  | .merging => (Client.mergeParameters node changes).run
  | .committing merged =>
    (Attempt.atomically (Edit.patchNode node { parameters := some merged })).run
  | .done => .done (.ok ())

omit [Scalar R] in
/-- A section that looks at the canvas and finds what it looks for goes on with it. -/
theorem Attempt.proceed_checked_bind {f : Canvas R → α} {k : α → Edit R (Except ClientError β)}
    {w : World R σ ε} {b : β} (answer : Answering R ε) (rest : β → Attempt R σ γ)
    (h : k (f w.canvas) = pure (.ok b)) :
    (Attempt.checked (Edit.read f >>= k) >>= rest).run.proceed answer w = ((rest b).run, w) := by
  have hlook : (Edit.read f >>= k) w.moment w.canvas = ⟨.ok b, w.canvas, []⟩ := by
    change k (f w.canvas) w.moment w.canvas = _
    rw [h]
    rfl
  obtain ⟨next, hnext, hok⟩ : ∃ next, (Attempt.checked (Edit.read f >>= k) >>= rest).run =
      .edit (Edit.read f >>= k) next ∧ next (.ok b) = (rest b).run := ⟨_, rfl, rfl⟩
  rw [hnext]
  change (next ((Edit.read f >>= k) w.moment w.canvas).value,
    w.after ((Edit.read f >>= k) w.moment w.canvas)) = _
  rw [hlook, hok]
  simp [World.after]

/-- There is a node that exists only here and has these parameters. -/
def World.HasHere (w : World R σ ε) (node : NodeId) (parameters : Parameters) : Prop :=
  ∃ n, w.canvas.graph.node? node = some n ∧ w.canvas.graph.isLocalNode node = true ∧
    n.parameters = parameters

variable {w : World R σ ε} {node : NodeId} {parameters : Parameters}

omit [Scalar R] in
theorem World.HasHere.identity (h : w.HasHere node parameters) :
    w.canvas.graph.identity? node = some (.localOnly node) := by
  obtain ⟨n, hn, hlocal, -⟩ := h
  have hcontains : w.canvas.graph.nodes.contains node = true :=
    (congrArg Option.isSome hn).trans Option.isSome_some
  simp [Graph.identity?, hcontains, hlocal]

theorem World.HasHere.commit (h : w.HasHere node parameters) (merged : Parameters) :
    (w.after (Edit.patchNode node { parameters := some merged } w.moment w.canvas)).HasHere node
      (NodePatch.replace parameters (some merged)).1 := by
  obtain ⟨n, hn, hlocal, rfl⟩ := h
  have hgraph := (Edit.patchNode_becomes (m := w.moment) (c := w.canvas) node
    { parameters := some merged }).graph
  refine ⟨(NodePatch.apply { parameters := some merged } n).1, ?_, ?_, rfl⟩
  · change (Edit.patchNode node _ w.moment w.canvas).canvas.graph.nodes.get? node = _
    change w.canvas.graph.nodes.get? node = some n at hn
    rw [hgraph, Graph.nodes_patchNode, if_pos rfl, hn, Option.map_some]
  · change (Edit.patchNode node _ w.moment w.canvas).canvas.graph.localNodes.contains node = true
    rw [hgraph, Graph.localNodes_patchNode]
    exact hlocal

/-- **One step of an update** of a node that exists only here. -/
theorem UpdateStage.proceed_program (answer : Answering R ε) (h : w.HasHere node parameters)
    (changes : Table Json) (stage : UpdateStage) :
    ∃ w', (stage.program node changes : Program R σ _).proceed answer w =
        ((advance changes (stage, parameters)).1.program node changes, w') ∧
      w'.HasHere node (advance changes (stage, parameters)).2 := by
  cases stage with
  | checking =>
    refine ⟨w, Attempt.proceed_checked_bind (b := NodeIdentity.localOnly node) answer _ ?_, h⟩
    rw [h.identity]
  | merging =>
    obtain ⟨n, hn, hlocal, rfl⟩ := h
    refine ⟨w, Attempt.proceed_checked_bind (b := Bag.mergedWith n.parameters changes) answer _ ?_,
      n, hn, hlocal, rfl⟩
    rw [hn]
  | committing merged => exact ⟨_, rfl, h.commit merged⟩
  | done => exact ⟨w, rfl, h⟩

namespace UpdatesInFlight

/-- The calls have come as far as a race has, and the node has its parameters. -/
structure Follows (u : UpdatesInFlight R σ ε) (node : NodeId) (changes : Caller → Table Json)
    (r : UpdateRace) : Prop where
  calls (c : Caller) : u.calls c = (r.stages c).program node (changes c)
  here : u.world.HasHere node r.parameters

variable {u : UpdatesInFlight R σ ε} {changes : Caller → Table Json} {r : UpdateRace}

theorem Follows.step (answer : Answering R ε) (h : u.Follows node changes r) (c : Caller) :
    (u.step answer c).Follows node changes (r.step changes c) := by
  obtain ⟨w', hproceed, hhere⟩ :=
    (r.stages c).proceed_program answer h.here (changes c)
  rw [← h.calls c] at hproceed
  refine ⟨fun d => ?_, ?_⟩
  · change Function.update u.calls c _ d = _
    rw [hproceed]
    by_cases hd : d = c
    · subst hd
      rw [Function.update_self, UpdateRace.stages_step_self]
    · rw [Function.update_of_ne hd, UpdateRace.stages_step_of_ne hd]
      exact h.calls d
  · change ((u.calls c).proceed answer u.world).2.HasHere node _
    rw [hproceed]
    exact hhere

/-- **The calls taking turns** do what the race does. -/
theorem Follows.play (answer : Answering R ε) (h : u.Follows node changes r)
    (turns : List Caller) : (u.play answer turns).Follows node changes (r.play changes turns) := by
  induction turns generalizing u r with
  | nil => exact h
  | cons c turns ih => exact ih (h.step answer c)

end UpdatesInFlight

end Calls

/-! ## What is kept -/

theorem Json.isNull_of_beq {w : Json} (h : (v == w) = true) : v.isNull = w.isNull := by
  cases v <;> cases w <;> first | rfl | cases h

theorem FieldType.not_isNull_of_admits {type : FieldType} (h : type.admits v = true) :
    v.isNull = false := by
  cases type <;> cases v <;> first | rfl | cases h

theorem FieldType.admits_of_beq (type : FieldType) {w : Json} (h : (v == w) = true) :
    type.admits v = type.admits w := by
  cases type <;> cases v <;> cases w <;> first | rfl | cases h

/-- The tables hold values that compare as equal, under the same keys. -/
def Table.Agrees (s t : Table Json) : Prop := ∀ k, (s.get? k == t.get? k) = true

namespace Table.Agrees

variable {s t : Table Json}

theorem refl (t : Table Json) : t.Agrees t := fun _ => BEq.refl _

theorem elim (h : s.Agrees t) (k : String) : s.get? k = none ∧ t.get? k = none ∨
      ∃ v w, s.get? k = some v ∧ t.get? k = some w ∧ (v == w) = true := by
  have hk := h k
  cases hs : s.get? k <;> cases ht : t.get? k <;> rw [hs, ht] at hk
  · exact .inl ⟨rfl, rfl⟩
  · cases hk
  · cases hk
  · exact .inr ⟨_, _, rfl, rfl, hk⟩

theorem symm (h : s.Agrees t) : t.Agrees s := by
  intro k
  obtain ⟨hs, ht⟩ | ⟨v, w, hs, ht, hvw⟩ := h.elim k
  · rw [hs, ht]
    rfl
  · rw [hs, ht]
    exact BEq.symm (α := Json) hvw

theorem trans {u : Table Json} (hst : s.Agrees t) (htu : t.Agrees u) : s.Agrees u := by
  intro k
  obtain ⟨hs, ht⟩ | ⟨v, w, hs, ht, hvw⟩ := hst.elim k
  · rw [hs, ← ht]
    exact htu k
  · obtain ⟨ht', -⟩ | ⟨w', x, ht', hu, hwx⟩ := htu.elim k
    · cases ht.symm.trans ht'
    · cases ht.symm.trans ht'
      rw [hs, hu]
      exact BEq.trans (α := Json) hvw hwx

theorem override (h : s.Agrees t) (changes : Table Json) :
    (s.override changes).Agrees (t.override changes) := by
  intro k
  rw [Table.get?_override, Table.get?_override]
  cases changes.get? k with
  | none => exact h k
  | some v => exact BEq.refl (some v)

theorem fits_eq (h : s.Agrees t) (types : List (String × FieldType)) :
    Bag.fits types s = Bag.fits types t := by
  refine congrArg types.all (funext fun field => ?_)
  obtain ⟨hs, ht⟩ | ⟨v, w, hs, ht, hvw⟩ := h.elim field.1
  · rw [hs, ht]
  · rw [hs, ht, Option.all_some, Option.all_some, Json.isNull_of_beq hvw,
      FieldType.admits_of_beq field.2 hvw]

theorem withoutNulls (h : s.Agrees t) (types : List (String × FieldType)) :
    (Bag.withoutNulls types s).Agrees (Bag.withoutNulls types t) := by
  intro k
  rw [Bag.get?_withoutNulls, Bag.get?_withoutNulls]
  obtain ⟨hs, ht⟩ | ⟨v, w, hs, ht, hvw⟩ := h.elim k
  · rw [hs, ht]
    rfl
  · rw [hs, ht, Option.filter_some, Option.filter_some, Json.isNull_of_beq hvw]
    split
    · exact hvw
    · rfl

end Table.Agrees

namespace Bag

/-- Whether the changes give these fields values of their types, so that none of them is null. -/
def wellTyped (types : List (String × FieldType)) (changes : Table Json) : Bool :=
  types.all fun field => (changes.get? field.1).all field.2.admits

/-- What a bag with own fields of these types has of a table. -/
def kept (types : List (String × FieldType)) (t : Table Json) : Table Json :=
  if fits types t then withoutNulls types t else t

variable {types : List (String × FieldType)} {t changes : Table Json}

theorem wellTyped_iff : wellTyped types changes = true ↔
    ∀ field ∈ types, ∀ v, changes.get? field.1 = some v → field.2.admits v = true := by
  simp only [wellTyped, List.all_eq_true, Option.all_eq_true]

theorem fits_override (h : fits types t = true) (hchanges : wellTyped types changes = true) :
    fits types (t.override changes) = true := by
  rw [fits_iff] at h ⊢
  intro field hfield v hv
  rw [Table.get?_override, Option.or_eq_some_iff] at hv
  obtain hv | ⟨-, hv⟩ := hv
  · rw [wellTyped_iff.1 hchanges field hfield v hv, Bool.or_true]
  · exact h field hfield v hv

theorem fits_withoutNulls (h : fits types t = true) : fits types (withoutNulls types t) = true := by
  rw [fits_iff] at h ⊢
  intro field hfield v hv
  rw [get?_withoutNulls] at hv
  exact h field hfield v (Option.filter_eq_some_iff.1 hv).1

/-- Null fields that are dropped on the way are dropped in the end. -/
theorem kept_override_kept (types : List (String × FieldType)) (t : Table Json)
    (hchanges : wellTyped types changes = true) :
    kept types ((kept types t).override changes) = kept types (t.override changes) := by
  by_cases hfits : fits types t = true
  · have hkept : kept types t = withoutNulls types t := if_pos hfits
    rw [hkept, kept, kept, if_pos (fits_override (fits_withoutNulls hfits) hchanges),
      if_pos (fits_override hfits hchanges)]
    exact withoutNulls_override (withoutNulls_withoutNulls types t) changes
  · have hkept : kept types t = t := if_neg hfits
    rw [hkept]

theorem get?_of_get?_kept {k : String} {v : Json} (h : (kept types t).get? k = some v) :
    t.get? k = some v := by
  rw [kept] at h
  split at h
  · rw [get?_withoutNulls] at h
    exact (Option.filter_eq_some_iff.1 h).1
  · exact h

/-- Changes of the right types are kept, as none of them is null. -/
theorem get?_kept_override {k : String} {v : Json} (hchanges : wellTyped types changes = true)
    (hk : changes.get? k = some v) : (kept types (t.override changes)).get? k = some v := by
  have hv : (t.override changes).get? k = some v := by rw [Table.get?_override, hk, Option.some_or]
  rw [kept]
  split
  · by_cases hown : k ∈ types.map (·.1)
    · obtain ⟨field, hfield, rfl⟩ := List.mem_map.1 hown
      have hadmits := wellTyped_iff.1 hchanges field hfield v hk
      rw [get?_withoutNulls_own hown, hv, Option.filter_some,
        FieldType.not_isNull_of_admits hadmits]
      rfl
    · rw [get?_withoutNulls_other hown, hv]
  · exact hv

end Bag

theorem Table.Agrees.kept {s t : Table Json} (h : s.Agrees t) (types : List (String × FieldType)) :
    (Bag.kept types s).Agrees (Bag.kept types t) := by
  rw [Bag.kept, Bag.kept, h.fits_eq types]
  split
  · exact h.withoutNulls types
  · exact h

theorem Table.override_comm {s t : Table α} (h : ∀ k, s.get? k = none ∨ t.get? k = none)
    (u : Table α) : (u.override s).override t = (u.override t).override s := by
  refine Table.ext_get? fun k => ?_
  simp only [Table.get?_override]
  obtain hs | ht := h k
  · rw [hs, Option.none_or, Option.none_or]
  · rw [ht, Option.none_or, Option.none_or]

/-- Changes that were lost would have made no difference exactly if they change nothing. -/
theorem Bag.agrees_kept_override_iff {types : List (String × FieldType)} {made lost : Table Json}
    (hlost : wellTyped types lost = true) (hdisjoint : ∀ k, made.get? k = none ∨ lost.get? k = none)
    (t : Table Json) :
    (kept types (t.override made)).Agrees (kept types ((t.override made).override lost)) ↔
      (t.override lost).Agrees t := by
  refine ⟨fun h k => ?_, fun h => ?_⟩
  · cases hk : lost.get? k with
    | none =>
      rw [Table.get?_override, hk, Option.none_or]
      exact BEq.refl _
    | some v =>
      have hmade : made.get? k = none :=
        (hdisjoint k).resolve_right fun hnone => Option.some_ne_none v (hk.symm.trans hnone)
      obtain ⟨-, hnone⟩ | ⟨u, v', hu, hv', huv⟩ := h.elim k
      · cases (get?_kept_override hlost hk).symm.trans hnone
      · cases (get?_kept_override hlost hk).symm.trans hv'
        have hold := get?_of_get?_kept hu
        rw [Table.get?_override, hmade, Option.none_or] at hold
        rw [Table.get?_override, hk, Option.some_or, hold]
        exact BEq.symm (α := Json) huv
  · rw [Table.override_comm hdisjoint]
    exact ((h.override made).kept types).symm

/-- Parameters that compare as equal have fields that do. -/
theorem Parameters.agrees_of_beq {p q : Parameters} (h : (p == q) = true) :
    (Bag.fields p).Agrees (Bag.fields q) := by
  obtain ⟨hname, hsource, hcode, hfunction, hlanguage, htitle, hports, hextra⟩ := beq_iff.1 h
  intro k
  rw [get?_fields, get?_fields, hname, hsource, hcode, hfunction, hlanguage, htitle, hports]
  obtain ⟨hp, hq⟩ | ⟨v, w, hp, hq, hvw⟩ :=
    Table.Agrees.elim (fun k => Table.get?_beq_of_beq hextra k) k
  · rw [hp, hq]
    exact BEq.refl _
  · rw [hp, hq]
    exact hvw

/-- What is written is there afterwards, up to values that compare as equal. -/
theorem NodePatch.agrees_replace (current written : Parameters) :
    (Bag.fields (NodePatch.replace current (some written)).1).Agrees (Bag.fields written) := by
  rw [NodePatch.replace]
  split
  · rename_i hsame
    exact Parameters.agrees_of_beq hsame
  · exact Table.Agrees.refl _

/-- What an update writes. -/
theorem Parameters.fields_mergedWith (current : Parameters) (changes : Table Json) :
    Bag.fields (Bag.mergedWith current changes) =
      Bag.kept fieldTypes ((Bag.fields current).override changes) :=
  LaidBag.fields_mergedWith current changes

/-- Two updates that are not interrupted. -/
theorem UpdateStage.agrees_committed_committed (first : Table Json) {second : Table Json}
    (hsecond : Bag.wellTyped Parameters.fieldTypes second = true) (current : Parameters) :
    (Bag.fields (committed second (committed first current))).Agrees
      (Bag.kept Parameters.fieldTypes
        (((Bag.fields current).override first).override second)) := by
  rw [← Bag.kept_override_kept _ _ hsecond]
  have hagrees (changes : Table Json) (p : Parameters) : (Bag.fields (committed changes p)).Agrees
      (Bag.kept Parameters.fieldTypes ((Bag.fields p).override changes)) :=
    p.fields_mergedWith changes ▸ NodePatch.agrees_replace p _
  exact (hagrees second _).trans
    (((hagrees first current).override second).kept Parameters.fieldTypes)

/-! ## The main result -/

/-- **Two updates of a node that exists only here**, in any order of their steps. Both succeed. If
they are apart, then the fields of the node are those that it had, with the changes of both; if one
overtakes the other, then with its changes alone. In both cases own fields that are null are dropped
if all own fields fit. So both updates are kept exactly if they are apart or the one that is
overtaken changes nothing. -/
theorem updates_kept_iff [Scalar R] (answer : Answering R ε) {w : World R σ ε} {node : NodeId}
    {n : Node R} (hnode : w.canvas.graph.node? node = some n)
    (hlocal : w.canvas.graph.isLocalNode node = true) {changes : Caller → Table Json}
    (hdisjoint : ∀ k, (changes .first).get? k = none ∨ (changes .second).get? k = none)
    (htyped : ∀ c, Bag.wellTyped Parameters.fieldTypes (changes c) = true) (turns : List Caller)
    (hturns : ∀ c, 3 ≤ turns.count c) :
    let ended := (UpdatesInFlight.start node changes w).play answer turns
    let initial := Bag.fields n.parameters
    let both := Bag.kept Parameters.fieldTypes
      ((initial.override (changes .first)).override (changes .second))
    (∀ c, ended.calls c = .done (.ok ())) ∧
      (Caller.Apart turns ∨ ∃ c, Caller.Overtakes c turns) ∧
      ∃ n', ended.world.canvas.graph.node? node = some n' ∧
        (Caller.Apart turns → (Bag.fields n'.parameters).Agrees both) ∧
        (∀ c, Caller.Overtakes c turns → (Bag.fields n'.parameters).Agrees
          (Bag.kept Parameters.fieldTypes (initial.override (changes c)))) ∧
        ((Bag.fields n'.parameters).Agrees both ↔ Caller.Apart turns ∨
          ∃ c, Caller.Overtakes c turns ∧ (initial.override (changes c.other)).Agrees initial) := by
  intro ended initial both
  have hstart : (UpdatesInFlight.start node changes w).Follows node changes
      (.start n.parameters) := ⟨fun _ => rfl, n, hnode, hlocal, rfl⟩
  have hended := hstart.play answer turns
  have horders := Caller.apart_or_overtakes (hturns .first)
  obtain ⟨n', hn', -, hparameters⟩ := hended.here
  have hboth (c : Caller) : both = Bag.kept Parameters.fieldTypes
      ((initial.override (changes c)).override (changes c.other)) := by
    cases c with
    | first => rfl
    | second => exact congrArg (Bag.kept _) (Table.override_comm hdisjoint initial)
  have hapart (h : Caller.Apart turns) : (Bag.fields n'.parameters).Agrees both := by
    obtain ⟨c, hcommitted⟩ := UpdateRace.parameters_play_of_apart hturns h n.parameters
    rw [hparameters, hcommitted, hboth c]
    exact UpdateStage.agrees_committed_committed (changes c) (htyped c.other) n.parameters
  have hlast (c : Caller) (h : c.Overtakes turns) : (Bag.fields n'.parameters).Agrees
      (Bag.kept Parameters.fieldTypes (initial.override (changes c))) := by
    rw [hparameters, UpdateRace.parameters_play_of_overtakes (hturns c) h,
      ← Parameters.fields_mergedWith]
    exact NodePatch.agrees_replace _ _
  have hlost (c : Caller) :
      (Bag.kept Parameters.fieldTypes (initial.override (changes c))).Agrees both ↔
        (initial.override (changes c.other)).Agrees initial := by
    rw [hboth c]
    refine Bag.agrees_kept_override_iff (htyped c.other) ?_ initial
    cases c with
    | first => exact hdisjoint
    | second => exact fun k => (hdisjoint k).symm
  refine ⟨fun c => ?_, horders, n', hn', hapart, hlast, fun h => ?_, ?_⟩
  · rw [hended.calls c, UpdateRace.stages_play_start (hturns c)]
    rfl
  · refine horders.imp id ?_
    rintro ⟨c, hc⟩
    exact ⟨c, hc, (hlost c).1 ((hlast c hc).symm.trans h)⟩
  · rintro (h | ⟨c, hc, hnothing⟩)
    · exact hapart h
    · exact (hlast c hc).trans ((hlost c).2 hnothing)

/-- A canvas with one node, which exists only here. -/
def draftWorld (parameters : Parameters) : LocalWorld Rat :=
  let w := (Session.initial {} .counting ⟨0, 0⟩ : Session Rat).world
  let node : Node Rat := { Node.fresh "a" "input" .origin with parameters }
  { w with canvas := { w.canvas with
    graph := (w.canvas.graph.upsertNode node).1.markLocalNode "a" } }

/-- The first update sets the code, the second one a field that is no own one. -/
def codeAndLimit : Caller → Table Json
  | .first => Table.ofList [("code", .string "x")]
  | .second => Table.ofList [("limit", .number (.int 1))]

/-- Parameters with a name that is null, and kept because the code is a number. -/
def nullNamed : Parameters := Bag.ofValue (.object [("name", .null), ("code", .number (.int 5))])

theorem codeAndLimit_disjoint (k : String) :
    (codeAndLimit .first).get? k = none ∨ (codeAndLimit .second).get? k = none := by
  by_cases hk : k = "code"
  · subst hk
    exact .inr rfl
  · left
    simp [codeAndLimit, Table.get?_ofList, hk]

/-- One order in which both updates are kept, and one in which the code is lost. -/
theorem updates_kept_iff_interleaved :
    (∃ n, ((UpdatesInFlight.start "a" codeAndLimit (draftWorld nullNamed)).play Link.answering
        [.second, .first, .first, .first, .second, .second]).world.canvas.graph.node? "a" = some n ∧
      (Bag.fields n.parameters).Agrees
        (Table.ofList [("code", .string "x"), ("limit", .number (.int 1))])) ∧
    ∃ n, ((UpdatesInFlight.start "a" codeAndLimit (draftWorld {})).play Link.answering
        [.first, .second, .second, .first, .first, .second]).world.canvas.graph.node? "a" = some n ∧
      (Bag.fields n.parameters).Agrees (Table.ofList [("limit", .number (.int 1))]) ∧
      ¬ (Bag.fields n.parameters).Agrees
        (Table.ofList [("code", .string "x"), ("limit", .number (.int 1))]) := by
  have htyped (c : Caller) : Bag.wellTyped Parameters.fieldTypes (codeAndLimit c) = true := by
    cases c <;> rfl
  have hnode (p : Parameters) : (draftWorld p).canvas.graph.node? "a" =
      some { Node.fresh "a" "input" .origin with parameters := p } := rfl
  constructor
  · obtain ⟨-, -, n, hn, hkept, -⟩ := updates_kept_iff Link.answering (hnode nullNamed) rfl
      codeAndLimit_disjoint htyped [.second, .first, .first, .first, .second, .second]
      fun c => by cases c <;> decide
    exact ⟨n, hn, hkept ⟨[.second, .first, .first, .first], [.second, .second], .first, by decide⟩⟩
  · obtain ⟨-, -, n, hn, -, hlast, -⟩ := updates_kept_iff Link.answering (hnode {}) rfl
      codeAndLimit_disjoint htyped [.first, .second, .second, .first, .first, .second]
      fun c => by cases c <;> decide
    have hlimit := hlast .second ⟨[.first, .second, .second, .first], [.second], rfl,
      fun c => by cases c <;> rfl⟩
    refine ⟨n, hn, hlimit, fun hboth => ?_⟩
    cases (hlimit.symm.trans hboth) "code"

/-- The fields of that node after turns of both updates. -/
def draftFields (parameters : Parameters) (turns : List Caller) : Option (Table Json) :=
  (((UpdatesInFlight.start "a" codeAndLimit (draftWorld parameters)).play Link.answering
    turns).world.canvas.graph.node? "a").map (Bag.fields ·.parameters)

/-- Where the old fields and both changes are not what is left. If both read before either writes,
then the code is lost. And one after the other, the updates repair a code that was a number, and the
name is dropped because it is null. -/
theorem not_every_field_is_kept :
    draftFields {} [.first, .first, .second, .second, .first, .second] =
        some (Table.ofList [("limit", .number (.int 1))]) ∧
      ((Bag.fields nullNamed).override (codeAndLimit .first)).override (codeAndLimit .second) =
        Table.ofList [("code", .string "x"), ("limit", .number (.int 1)), ("name", .null)] ∧
      draftFields nullNamed [.first, .first, .first, .second, .second, .second] =
        some (Table.ofList [("code", .string "x"), ("limit", .number (.int 1))]) :=
  ⟨rfl, rfl, rfl⟩

end NodeCanvas
