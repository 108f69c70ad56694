import NodeCanvas.Proofs.Backend
import NodeCanvas.Proofs.Reachable
/-!
# Worlds that a client reaches

A client over a link reaches a world by operations that run to their end and by deliveries, while
the backend refuses what it likes and time passes: `World.Reachable`. Two things are known of such a
world. Its canvas is one that operations reach (`World.Reachable.canvas`), whatever the program has
learnt from the far side. And its queue is in order (`World.Reachable.orderly`), whatever the client
asks for: a push can be applied, and what it announces or removes bears an id that the backend has
given out.
-/

namespace NodeCanvas

variable {R α : Type} [Scalar R] {n : Nat}

/-! ## Queues in order -/

/-- The change adds, removes and connects only what bears one of the ids given out so far. -/
def GraphChange.IssuedBy (allocated : Nat) : GraphChange R → Prop
  | .put node => Issued "node" allocated node.id
  | .drop id => Issued "node" allocated id
  | .link c => Issued "conn" allocated c.id ∧ Issued "node" allocated c.source ∧
      Issued "node" allocated c.target
  | .unlink id => Issued "conn" allocated id
  | _ => True

omit [Scalar R] in
theorem GraphChange.IssuedBy.mono {m : Nat} {ch : GraphChange R} (h : ch.IssuedBy m)
    (hmn : m ≤ n) : ch.IssuedBy n := by
  cases ch with
  | put node => exact Issued.mono h hmn
  | drop id => exact Issued.mono h hmn
  | link c => exact ⟨h.1.mono hmn, h.2.1.mono hmn, h.2.2.mono hmn⟩
  | unlink id => exact Issued.mono h hmn
  | patch | merge | wipe => trivial

/-- The change adds nothing but what bears one of the ids given out so far. -/
def GraphChange.AddsIssued (allocated : Nat) : GraphChange R → Prop
  | .put node => Issued "node" allocated node.id
  | .link c => Issued "conn" allocated c.id ∧ Issued "node" allocated c.source ∧
      Issued "node" allocated c.target
  | _ => True

omit [Scalar R] in
theorem GraphChange.IssuedBy.addsIssued {ch : GraphChange R} (h : ch.IssuedBy n) :
    ch.AddsIssued n := by
  cases ch with
  | put | link => exact h
  | drop | patch | merge | unlink | wipe => trivial

omit [Scalar R] in
theorem GraphChange.AddsIssued.remote {ch : GraphChange R} (h : ch.AddsIssued n) : ch.Remote := by
  cases ch with
  | put node => exact h.not_isLocalId_of_node
  | link c =>
    exact ⟨h.1.not_isLocalId_of_conn, h.2.1.not_isLocalId_of_node, h.2.2.not_isLocalId_of_node⟩
  | drop | patch | merge | unlink | wipe => trivial

omit [Scalar R] in
/-- What a backend announces bears ids that it has given out. -/
theorem Backend.Effect.issuedBy {b b' : Backend R} {changes : List (GraphChange R)}
    (h : b.Effect b' changes) (hs : b.Sound) : ∀ ch ∈ changes, ch.IssuedBy b'.allocated := by
  have hnode : ∀ {id}, b.nodes.contains id = true → Issued "node" b'.allocated id := by
    intro id hid
    obtain ⟨n, hn⟩ := Table.contains_iff.1 hid
    exact (hs.nodesIssued id n hn).mono h.allocated_le
  cases h with
  | keep => exact List.forall_mem_nil _
  | put node hid hnodes hconnections hallocated =>
    refine List.forall_mem_singleton.2 ?_
    rw [GraphChange.IssuedBy, hid, hallocated]
    exact .next _ _
  | drop node hstored => exact List.forall_mem_singleton.2 (hnode hstored)
  | patch => exact List.forall_mem_singleton.2 trivial
  | recode spec =>
    intro ch hch
    obtain ⟨entry, -, rfl⟩ := List.mem_map.1 hch
    trivial
  | link c hid hsource htarget hloop hnodes hconnections hallocated =>
    refine List.forall_mem_singleton.2 ⟨?_, hnode hsource, hnode htarget⟩
    rw [hid, hallocated]
    exact .next _ _
  | unlink id hstored hnodes hconnections hallocated =>
    obtain ⟨c, hc⟩ := Table.contains_iff.1 hstored
    refine List.forall_mem_singleton.2 ?_
    exact (hs.connectionsIssued id c hc).mono (Nat.le_of_eq hallocated.symm)
  | wipe => exact List.forall_mem_singleton.2 trivial

/-- A queue in order, at a backend in order. -/
structure Link.Orderly (link : Link R) : Prop where
  subscribed : link.subscribed = true
  sound : link.backend.Sound
  safe : ∀ p ∈ link.pushes, p.Safe
  issued : ∀ p ∈ link.pushes, ∀ ch, p.change? = some ch → ch.IssuedBy link.backend.allocated

namespace Link

variable {link : Link R}

omit [Scalar R] in
theorem Orderly.of_effect (h : link.Orderly) {b' : Backend R} {added : List (PushEvent R)}
    (heffect : link.backend.Effect b' (added.filterMap (·.change?))) (hsafe : ∀ p ∈ added, p.Safe) :
    Orderly { link with backend := b', pushes := link.pushes ++ added } where
  subscribed := h.subscribed
  sound := h.sound.of_effect heffect
  safe p hp := (List.mem_append.1 hp).elim (h.safe p) (hsafe p)
  issued p hp ch hch := by
    obtain hold | hnew := List.mem_append.1 hp
    · exact (h.issued p hold ch hch).mono heffect.allocated_le
    · exact heffect.issuedBy h.sound ch (List.mem_filterMap.2 ⟨p, hnew, hch⟩)

omit [Scalar R] in
theorem Orderly.of_keep (h : link.Orderly) {b' : Backend R} (heffect : link.backend.Effect b' []) :
    Orderly { link with backend := b' } where
  subscribed := h.subscribed
  sound := h.sound.of_effect heffect
  safe := h.safe
  issued p hp ch hch := (h.issued p hp ch hch).mono heffect.allocated_le

/-- **Whatever is asked, the queue stays in order.** -/
theorem Orderly.answer (h : link.Orderly) (call : Request R) : (link.answer call).2.Orderly := by
  obtain ⟨cause, b', hanswer, heffect⟩ | ⟨done, -, hanswer, heffect, hsafe⟩ :=
    link.answer_cases call
  · rw [hanswer]
    exact h.of_keep heffect
  · rw [hanswer, if_pos h.subscribed]
    exact h.of_effect heffect hsafe

omit [Scalar R] in
theorem Orderly.drop (h : link.Orderly) (count : Nat) :
    Orderly { link with pushes := link.pushes.drop count } where
  subscribed := h.subscribed
  sound := h.sound
  safe p hp := h.safe p (List.mem_of_mem_drop hp)
  issued p hp := h.issued p (List.mem_of_mem_drop hp)

end Link

/-! ## Kinds of runs -/

/-- A kind of run of a client: where it may start, which operations it may consist of, what may
happen between them, and what is noted on the way. -/
structure RunKind (R σ ε ι : Type) where
  answer : Answering R ε
  /-- A run may start in the world, and this is noted then. -/
  starts : World R σ ε → ι → Prop
  allows : Client.Operation R → Prop := fun _ => True
  /-- What is noted once an operation has led from one world to another, with a result. -/
  note : ι → (op : Client.Operation R) → World R σ ε → op.Result → World R σ ε → ι
  between : World R σ ε → World R σ ε → Prop

/-- Operations that run one after the other lead to the world, and this is noted of them. -/
inductive RunKind.Reaches {σ ε ι : Type} [DocumentStore σ] (kind : RunKind R σ ε ι) :
    World R σ ε → ι → Prop where
  | start {w : World R σ ε} {i : ι} (hstart : kind.starts w i) : Reaches kind w i
  | operate {w w' : World R σ ε} {i : ι} (h : Reaches kind w i) (op : Client.Operation R)
      {a : op.Result} (hop : kind.allows op)
      (hrun : op.program.runWith kind.answer.handler w = .ok (a, w')) :
      Reaches kind w' (kind.note i op w a w')
  | meanwhile {w w' : World R σ ε} {i : ι} (h : Reaches kind w i) (hbetween : kind.between w w') :
      Reaches kind w' i

/-- What holds where runs start, and is kept by every operation and by whatever happens between
them, holds in every world that they reach. -/
theorem RunKind.Reaches.invariant {σ ε ι : Type} [DocumentStore σ] {kind : RunKind R σ ε ι}
    {w : World R σ ε} {i : ι} (h : kind.Reaches w i) (inv : World R σ ε → Prop)
    (hstart : ∀ v i, kind.starts v i → inv v)
    (hoperate : ∀ v v' (op : Client.Operation R) (a : op.Result), inv v →
      op.program.runWith kind.answer.handler v = .ok (a, v') → inv v')
    (hmeanwhile : ∀ v v', inv v → kind.between v v' → inv v') : inv w := by
  induction h with
  | start hw => exact hstart _ _ hw
  | operate _ op _ hrun ih => exact hoperate _ _ op _ ih hrun
  | meanwhile _ hbetween ih => exact hmeanwhile _ _ ih hbetween

/-! ## Runs -/

/-- What is bound to a result goes on from it. -/
theorem exists_of_bind_eq_ok {ε α β : Type} {x : Except ε α} {f : α → Except ε β} {b : β}
    (h : (x >>= f) = .ok b) : ∃ a, x = .ok a ∧ f a = .ok b := by
  cases x with
  | error e => cases h
  | ok a => exact ⟨a, rfl, h⟩

namespace World

variable {w w' : LocalWorld R} {program : Program R MemoryStore α} {a : α}

/-- What every section of a program keeps, its runs keep. -/
theorem canvas_of_run {inv : Canvas R → Prop}
    (hpass : ∀ c c', program.Passes c c' → inv c → inv c') (hw : inv w.canvas)
    (hrun : w.run program = .ok (a, w')) : inv w'.canvas := by
  rw [run] at hrun
  induction program generalizing w with
  | done value =>
    cases hrun
    exact hw
  | edit body next ih =>
    exact ih _ (fun c c' h => hpass c c' (.inr ⟨_, h⟩)) (hpass _ _ (.inl ⟨_, rfl⟩) hw) hrun
  | announce event next ih =>
    exact ih (w := w.telling event) (fun c c' h => hpass c c' h) hw hrun
  | draw body next ih =>
    exact ih (body.run w.ids).1 (w := { w with ids := (body.run w.ids).2 })
      (fun c c' h => hpass c c' ⟨_, h⟩) hw hrun
  | request call next ih =>
    exact ih (w.remote.answer call).1 (w := { w with remote := (w.remote.answer call).2 })
      (fun c c' h => hpass c c' ⟨_, h⟩) hw hrun
  | store body next ih =>
    exact ih (body w.store).1 (w := { w with store := (body w.store).2 })
      (fun c c' h => hpass c c' ⟨_, h⟩) hw hrun
  | abort fault => cases hrun

/-- What every answer keeps, runs keep. -/
theorem remote_of_run {inv : Link R → Prop}
    (hanswer : ∀ link call, inv link → inv (link.answer call).2) (hw : inv w.remote)
    (hrun : w.run program = .ok (a, w')) : inv w'.remote := by
  rw [run] at hrun
  induction program generalizing w with
  | done value =>
    cases hrun
    exact hw
  | edit body next ih =>
    exact ih (body w.moment w.canvas).value (w := w.after (body w.moment w.canvas)) hw hrun
  | announce event next ih => exact ih (w := w.telling event) hw hrun
  | draw body next ih =>
    exact ih (body.run w.ids).1 (w := { w with ids := (body.run w.ids).2 }) hw hrun
  | request call next ih => exact ih _ (hanswer _ call hw) hrun
  | store body next ih =>
    exact ih (body w.store).1 (w := { w with store := (body w.store).2 }) hw hrun
  | abort fault => cases hrun

/-- Deliveries take pushes off the queue and apply each in a run of its own. -/
theorem pump_induction (inv : LocalWorld R → Prop)
    (hdrop : ∀ (w : LocalWorld R) (count : Nat), inv w →
      inv { w with remote := { w.remote with pushes := w.remote.pushes.drop count } })
    (hpush : ∀ p ∈ w.remote.pushes, ∀ (v v' : LocalWorld R) (a : Unit), inv v →
      v.run (Client.applyPush p) = .ok (a, v') → inv v')
    {most : Option Nat} {n : Nat} (hw : inv w) (hpump : w.pump most = .ok (n, w')) : inv w' := by
  have happly : ∀ (pushes : List (PushEvent R)) (v : LocalWorld R),
      (∀ p ∈ pushes, p ∈ w.remote.pushes) → inv v → v.applyAll pushes = .ok w' → inv w' := by
    intro pushes
    induction pushes with
    | nil =>
      intro v _ hv hrun
      cases hrun
      exact hv
    | cons p pushes ih =>
      intro v hqueued hv hrun
      rw [applyAll] at hrun
      obtain ⟨v₁, hexec, hrest⟩ := exists_of_bind_eq_ok hrun
      obtain ⟨⟨a, v₂⟩, hfirst, hsame⟩ := exists_of_bind_eq_ok hexec
      cases hsame
      exact ih v₂ (fun q hq => hqueued q (List.mem_cons_of_mem p hq))
        (hpush p (hqueued p List.mem_cons_self) v v₂ a hv hfirst) hrest
  rw [pump] at hpump
  obtain ⟨w₁, hrun, hsame⟩ := exists_of_bind_eq_ok hpump
  cases hsame
  exact happly _ _ (fun _ => List.mem_of_mem_take) (hdrop w _ hw) hrun

/-- What happens between the operations of a client over a link: pushes are delivered, the backend is
told what to refuse and how to answer, and time passes. -/
inductive Meanwhile (instructs : Backend R → Backend R → Prop) :
    LocalWorld R → LocalWorld R → Prop where
  | deliver {w w' : LocalWorld R} {most : Option Nat} {n : Nat}
      (hpump : w.pump most = .ok (n, w')) : Meanwhile instructs w w'
  | instruct {w : LocalWorld R} {b' : Backend R} (hinstructs : instructs w.remote.backend b') :
      Meanwhile instructs w { w with remote := { w.remote with backend := b' } }
  | wait (w : LocalWorld R) (span : Span) : Meanwhile instructs w (w.wait span)

/-- A world that a client reaches by operations that run to their end and by deliveries. Nothing is
noted on the way. -/
def Reachable (w : LocalWorld R) : Prop :=
  RunKind.Reaches
    { answer := Link.answering
      starts w _ := ∃ settings ids clock, w = (Session.initial settings ids clock).world
      note _ _ _ _ _ := ()
      between := Meanwhile fun b b' => b.Effect b' [] } w ()

theorem reachable_initial (settings : Settings) (ids : IdSource) (clock : Timestamp) :
    (Session.initial settings ids clock : Session R).world.Reachable :=
  .start ⟨settings, ids, clock, rfl⟩

theorem Reachable.canvas (h : w.Reachable) : w.canvas.Reachable MemoryStore := by
  refine h.invariant (fun w => w.canvas.Reachable MemoryStore) ?_ ?_ ?_
  · rintro _ _ ⟨settings, ids, clock, rfl⟩
    exact .initial settings
  · intro v v' op a hv hrun
    exact canvas_of_run (fun c c' hpass hc => .passed hc op hpass) hv hrun
  · intro v v' hv hbetween
    cases hbetween with
    | deliver hpump =>
      refine pump_induction (fun w => w.canvas.Reachable MemoryStore) (fun _ _ h => h)
        (fun p _ w w' a h hrun => ?_) hv hpump
      exact canvas_of_run (fun c c' hpass hc => .passed hc (.applyPush p) hpass) h hrun
    | instruct | wait => exact hv

theorem Reachable.orderly (h : w.Reachable) : w.remote.Orderly := by
  refine h.invariant (fun w => w.remote.Orderly) ?_ ?_ ?_
  · rintro _ _ ⟨settings, ids, clock, rfl⟩
    exact ⟨rfl, Backend.sound_of_isEmpty rfl rfl, List.forall_mem_nil _, List.forall_mem_nil _⟩
  · intro v v' op a hv hrun
    exact remote_of_run (fun _ call h => h.answer call) hv hrun
  · intro v v' hv hbetween
    cases hbetween with
    | deliver hpump =>
      refine pump_induction (fun w => w.remote.Orderly) (fun w count h => h.drop count)
        (fun p _ w w' a h hrun => ?_) hv hpump
      exact remote_of_run (fun _ call h => h.answer call) h hrun
    | instruct heffect => exact hv.of_keep heffect
    | wait => exact hv

/-- The world after a program is run in it at an instant. -/
def runAt (w : LocalWorld R) (t : Instant) (program : Program R MemoryStore α) : LocalWorld R :=
  match { w with moment := ⟨t, ⟨0, 0⟩⟩ }.run program with
  | .ok (_, w) => w
  | .error _ => w

theorem exists_runAt {t : Instant}
    (h : ({ w with moment := ⟨t, ⟨0, 0⟩⟩ }.run program).isOk = true) :
    ∃ a, program.runWith Link.answering.handler { w with moment := ⟨t, ⟨0, 0⟩⟩ } =
      .ok (a, w.runAt t program) := by
  unfold runAt
  cases hrun : { w with moment := ⟨t, ⟨0, 0⟩⟩ }.run program with
  | ok ended => exact ⟨ended.1, hrun⟩
  | error fault =>
    rw [hrun] at h
    cases h

end World

namespace Client

/-- A saved canvas with a single node. -/
def singleSnapshot : Snapshot Rat :=
  { nodes := [{ id := "a", type := "input", position := .origin }], connections := [],
    view := .initial }

/-- A saved canvas of three nodes in a row. -/
def rowSnapshot : Snapshot Rat where
  nodes :=
    [{ id := "a", type := "first", position := ⟨0, 0⟩ },
      { id := "b", type := "second", position := ⟨1, 0⟩ },
      { id := "c", type := "third", position := ⟨2, 0⟩ }]
  connections :=
    [{ id := "ab", source := "a", sourcePort := "out", target := "b", targetPort := "in" },
      { id := "bc", source := "b", sourcePort := "out", target := "c", targetPort := "in" }]
  view := .initial

/-- A client to restore them. -/
def freshWorld : LocalWorld Rat := (Session.initial {} .counting ⟨0, 0⟩ : Session Rat).world

end Client

end NodeCanvas
