import NodeCanvas.Proofs.Saving
import NodeCanvas.Proofs.Worlds
import Mathlib.Data.List.Chain
/-!
# A burst of changes is saved once

Operations, loads and polls happen one after the other, each at an instant, and the clock does not
go back: `World.Passes`. An operation that tells of a change schedules a save or puts it off;
nothing else touches what is scheduled until a poll finds it due (`World.Happens.scheduled`). So if
every change follows the one before it within the span, what is due is counted from the last change
(`World.Passes.scheduled`), and no poll before that saves anything (`burst_saved_once`).

A load changes the canvas as well, but schedules nothing: `load_is_not_saved`.
-/

namespace NodeCanvas

variable {R σ ε : Type}

/-- What can happen, apart from saves and restores: an operation that tells of a change or one that
does not, a load, or a poll. -/
inductive Happening where
  | change
  | other
  | load
  | poll
  deriving DecidableEq

/-- The instants of the changes. -/
def changeTimes (trace : List (Instant × Happening)) : List Instant :=
  trace.filterMap fun e => if e.2 = .change then some e.1 else none

theorem changeTimes_append (trace trace' : List (Instant × Happening)) :
    changeTimes (trace ++ trace') = changeTimes trace ++ changeTimes trace' :=
  List.filterMap_append

theorem changeTimes_singleton (t : Instant) (happening : Happening) :
    changeTimes [(t, happening)] = if happening = .change then [t] else [] := by
  cases happening <;> rfl

theorem changeTimes_of_quiet {trace : List (Instant × Happening)} (h : ∀ e ∈ trace, e.2 ≠ .change) :
    changeTimes trace = [] :=
  List.filterMap_eq_nil_iff.2 fun e he => if_neg (h e he)

namespace World

variable [Scalar R] [DocumentStore σ] {d : Span}

/-- One thing happens, at the moment of the world. -/
inductive Happens (answer : Answering R ε) : World R σ ε → Happening → World R σ ε → Prop where
  | change {w w' : World R σ ε} (op : Client.Operation R) {a : op.Result}
      (hop : op.upkeep = .noting) (hrun : op.program.runWith answer.handler w = .ok (a, w'))
      (htells : w.Tells (·.isChange) w') : Happens answer w .change w'
  | other {w w' : World R σ ε} (op : Client.Operation R) {a : op.Result}
      (hop : op.upkeep = .noting) (hrun : op.program.runWith answer.handler w = .ok (a, w'))
      (htells : ¬ w.Tells (·.isChange) w') : Happens answer w .other w'
  | load {w w' : World R σ ε} {result : Except ClientError Unit}
      (hrun : Client.loadFromBackend.run.runWith answer.handler w = .ok (result, w')) :
      Happens answer w .load w'
  | poll {w w' : World R σ ε}
      (hrun : (Client.pollTimers w.moment.now).runWith answer.handler w = .ok ((), w')) :
      Happens answer w .poll w'

/-- Things happen one after the other, each at its instant. -/
inductive Passes (answer : Answering R ε) (w : World R σ ε) :
    List (Instant × Happening) → World R σ ε → Prop where
  | nil : Passes answer w [] w
  | snoc {trace : List (Instant × Happening)} {w₁ w₂ : World R σ ε} {happening : Happening}
      (h : Passes answer w trace w₁) (moment : Moment) (ids : IdSource) (remote : ε)
      (hlater : w₁.moment.now ≤ moment.now)
      (hstep : (w₁.later moment ids remote).Happens answer happening w₂) :
      Passes answer w (trace ++ [(moment.now, happening)]) w₂

variable {answer : Answering R ε} {w w₁ w' w'' : World R σ ε} {happening : Happening}
  {trace trace' : List (Instant × Happening)}

/-! ## One thing that happens -/

theorem Happens.moment (h : w.Happens answer happening w') : w'.moment = w.moment := by
  cases h with
  | change _ _ hrun => exact (Program.keeps_of_run hrun).2
  | other _ _ hrun => exact (Program.keeps_of_run hrun).2
  | load hrun => exact (Program.keeps_of_run hrun).2
  | poll hrun => exact (Program.keeps_of_run hrun).2

variable [PartialEquivBEq R]

theorem Happens.idle (h : w.Happens answer happening w')
    (hidle : w.canvas.saving.restoring = false) : w'.canvas.saving.restoring = false := by
  cases h with
  | change op hop hrun =>
    exact (Client.Operation.notes hop _ _ _ hrun hidle).restoring.trans hidle
  | other op hop hrun =>
    exact (Client.Operation.notes hop _ _ _ hrun hidle).restoring.trans hidle
  | load hrun =>
    obtain ⟨hloaded, -⟩ := (Program.ends_iff_of_run hrun).1 Client.loadFromBackend_ends_loaded
    exact hloaded.restoring.trans hidle
  | poll hrun =>
    obtain ⟨hdue, hkept⟩ := (Program.ends_iff_of_run hrun).1 (Client.pollTimers_ends _ hidle)
    by_cases hnow : w.canvas.saving.autosave.IsDue w.moment.now
    · obtain ⟨result, hsaved⟩ := hdue hnow
      rw [hsaved.canvas]
      exact hidle
    · rw [hkept hnow]
      exact hidle

/-- **What is scheduled** changes with a change, and with a poll that finds it due. -/
theorem Happens.scheduled (h : w.Happens answer happening w')
    (hidle : w.canvas.saving.restoring = false)
    (hearly : happening = .poll → ¬ w.canvas.saving.autosave.IsDue w.moment.now) :
    Document.SavedAside w.store w'.store ∧
      w'.canvas.saving.autosave =
        if happening = .change then w.canvas.saving.autosave.schedule w.moment.now
        else w.canvas.saving.autosave := by
  cases h with
  | change op hop hrun htells =>
    have hnoted : w.Noted w' := Client.Operation.notes hop _ _ _ hrun hidle
    exact ⟨hnoted.store, (hnoted.scheduled htells).autosave⟩
  | other op hop hrun htells =>
    have hnoted : w.Noted w' := Client.Operation.notes hop _ _ _ hrun hidle
    exact ⟨hnoted.store, (hnoted.kept htells).autosave⟩
  | load hrun =>
    obtain ⟨hloaded, -⟩ := (Program.ends_iff_of_run hrun).1 Client.loadFromBackend_ends_loaded
    rw [hloaded.store]
    exact ⟨.refl _, hloaded.autosave⟩
  | poll hrun =>
    obtain ⟨-, hkept⟩ := (Program.ends_iff_of_run hrun).1 (Client.pollTimers_ends _ hidle)
    rw [hkept (hearly rfl)]
    exact ⟨.refl _, rfl⟩

/-- **What is saved** stays as it is unless there is a change or a load, up to a view that compares
as equal. -/
theorem Happens.alike (h : w.Happens answer happening w')
    (hidle : w.canvas.saving.restoring = false) (hchange : happening ≠ .change)
    (hload : happening ≠ .load) : w.canvas.snapshot.Alike w'.canvas.snapshot := by
  cases h with
  | change => exact absurd rfl hchange
  | load => exact absurd rfl hload
  | other op hop hrun htells =>
    have hnoted : w.Noted w' := Client.Operation.notes hop _ _ _ hrun hidle
    exact (hnoted.kept htells).alike
  | poll hrun =>
    obtain ⟨hdue, hkept⟩ := (Program.ends_iff_of_run hrun).1 (Client.pollTimers_ends _ hidle)
    by_cases hnow : w.canvas.saving.autosave.IsDue w.moment.now
    · obtain ⟨result, hsaved⟩ := hdue hnow
      rw [hsaved.canvas]
      exact .refl _
    · rw [hkept hnow]
      exact .refl _

/-! ## Runs -/

omit [PartialEquivBEq R] in
theorem Passes.trans (h : w.Passes answer trace w') (h' : w'.Passes answer trace' w'') :
    w.Passes answer (trace ++ trace') w'' := by
  induction h' with
  | nil =>
    rw [List.append_nil]
    exact h
  | snoc _ moment ids remote hlater hstep ih =>
    rw [← List.append_assoc]
    exact .snoc ih moment ids remote hlater hstep

omit [PartialEquivBEq R] in
theorem Passes.le_now (h : w.Passes answer trace w') : ∀ e ∈ trace, e.1 ≤ w'.moment.now := by
  induction h with
  | nil => exact List.forall_mem_nil _
  | snoc _ moment ids remote hlater hstep ih =>
    intro e he
    rw [hstep.moment]
    obtain hearlier | hlast := List.mem_append.1 he
    · exact Nat.le_trans (ih e hearlier) hlater
    · rw [List.mem_singleton.1 hlast]
      exact Nat.le_refl _

omit [PartialEquivBEq R] in
/-- The clock does not go back. -/
theorem Passes.ordered (h : w.Passes answer trace w') : trace.Pairwise fun e e' => e.1 ≤ e'.1 := by
  induction h with
  | nil => exact .nil
  | snoc hbefore moment ids remote hlater _ ih =>
    refine List.pairwise_append.2 ⟨ih, List.pairwise_singleton _ _, fun e he e' he' => ?_⟩
    rw [List.mem_singleton.1 he']
    exact Nat.le_trans (hbefore.le_now e he) hlater

theorem Passes.idle (h : w.Passes answer trace w') (hidle : w.canvas.saving.restoring = false) :
    w'.canvas.saving.restoring = false := by
  induction h with
  | nil => exact hidle
  | snoc _ moment ids remote hlater hstep ih => exact hstep.idle ih

theorem Passes.alike (h : w.Passes answer trace w') (hidle : w.canvas.saving.restoring = false)
    (hquiet : ∀ e ∈ trace, e.2 ≠ .change ∧ e.2 ≠ .load) :
    w.canvas.snapshot.Alike w'.canvas.snapshot := by
  induction h with
  | nil => exact .refl _
  | snoc hbefore moment ids remote hlater hstep ih =>
    obtain ⟨hchange, hload⟩ := hquiet _ (List.mem_append_right _ List.mem_cons_self)
    have halike := ih fun e he => hquiet e (List.mem_append_left _ he)
    exact halike.trans (hstep.alike (hbefore.idle hidle) hchange hload)

/-- **What is scheduled is counted from the last change**, if every change follows the one before it
within the span and no poll comes later than that. -/
theorem Passes.scheduled (h : w.Passes answer trace w')
    (hidle : w.canvas.saving.restoring = false) (hnone : w.canvas.saving.autosave = ⟨d, none⟩)
    (hgaps : (changeTimes trace).IsChain fun t t' => t' < t + d)
    (hearly : ∀ last ∈ (changeTimes trace).getLast?, ∀ e ∈ trace, e.2 = .poll → e.1 < last + d) :
    Document.SavedAside w.store w'.store ∧
      w'.canvas.saving.autosave = ⟨d, (changeTimes trace).getLast?.map (· + d)⟩ := by
  induction h with
  | nil => exact ⟨.refl _, hnone⟩
  | @snoc trace w₁ w₂ happening hbefore moment ids remote hlater hstep ih =>
    rw [changeTimes_append, changeTimes_singleton] at hgaps hearly ⊢
    obtain ⟨hgaps', -, hgap⟩ := List.isChain_append.1 hgaps
    -- what has happened so far keeps the bounds: before a change, because the change keeps them
    have hearly' : ∀ last ∈ (changeTimes trace).getLast?, ∀ e ∈ trace, e.2 = .poll →
        e.1 < last + d := by
      intro last hlast e he hpoll
      by_cases hchange : happening = .change
      · rw [if_pos hchange] at hgap
        have hnext : moment.now < last + d := hgap last hlast moment.now rfl
        have hnow : e.1 ≤ w₁.moment.now := hbefore.le_now e he
        exact Nat.lt_of_le_of_lt (Nat.le_trans hnow hlater) hnext
      · rw [if_neg hchange, List.append_nil] at hearly
        exact hearly last hlast e (List.mem_append_left _ he) hpoll
    obtain ⟨hstore, hautosave⟩ := ih hgaps' hearly'
    have hdue : happening = .poll →
        ¬ (w₁.later moment ids remote).canvas.saving.autosave.IsDue moment.now := by
      rintro rfl ⟨dueAt, hdueAt, hle⟩
      change w₁.canvas.saving.autosave.dueAt = _ at hdueAt
      rw [hautosave] at hdueAt
      obtain ⟨last, hlast, rfl⟩ := Option.map_eq_some_iff.1 hdueAt
      have hlt := hearly last (by rw [if_neg (by decide), List.append_nil]; exact hlast) _
        (List.mem_append_right _ List.mem_cons_self) rfl
      exact Nat.not_le_of_lt hlt hle
    obtain ⟨hstore', hautosave'⟩ := hstep.scheduled (hbefore.idle hidle) hdue
    refine ⟨hstore.trans hstore', hautosave'.trans ?_⟩
    change (if happening = .change then w₁.canvas.saving.autosave.schedule moment.now else
      w₁.canvas.saving.autosave) = _
    rw [hautosave]
    split
    · rw [List.getLast?_concat]
      rfl
    · rw [List.append_nil]

/-- **Without a change, nothing is scheduled.** -/
theorem Passes.unscheduled (h : w.Passes answer trace w')
    (hidle : w.canvas.saving.restoring = false) (hnone : w.canvas.saving.autosave = ⟨d, none⟩)
    (hquiet : ∀ e ∈ trace, e.2 ≠ .change) :
    Document.SavedAside w.store w'.store ∧ w'.canvas.saving.autosave = ⟨d, none⟩ := by
  have htimes := changeTimes_of_quiet hquiet
  have hscheduled := h.scheduled hidle hnone (by rw [htimes]; exact .nil)
    (by rw [htimes]; rintro _ ⟨⟩)
  rw [htimes] at hscheduled
  exact hscheduled

/-- **After a burst of changes**, and until the span has passed, a save is due that much after the
last of them. -/
theorem Passes.burst {last : Instant} (hd : 0 < d)
    (hidle : w.canvas.saving.restoring = false) (hnone : w.canvas.saving.autosave = ⟨d, none⟩)
    (hburst : w.Passes answer (trace ++ [(last, .change)]) w₁)
    (hgaps : (changeTimes (trace ++ [(last, .change)])).IsChain fun t t' => t' < t + d)
    (hrest : w₁.Passes answer trace' w') (hquiet : ∀ e ∈ trace', e.2 ≠ .change)
    (hearly : ∀ e ∈ trace', e.2 = .poll → e.1 < last + d) :
    Document.SavedAside w.store w'.store ∧
      w'.canvas.saving.autosave = ⟨d, some (last + d)⟩ := by
  have htimes : changeTimes (trace ++ [(last, .change)] ++ trace') =
      changeTimes (trace ++ [(last, .change)]) := by
    rw [changeTimes_append, changeTimes_of_quiet hquiet, List.append_nil]
  have hlast : (changeTimes (trace ++ [(last, .change)] ++ trace')).getLast? = some last := by
    rw [htimes, changeTimes_append, changeTimes_singleton, if_pos rfl, List.getLast?_concat]
  have hpolls : ∀ e ∈ trace ++ [(last, .change)] ++ trace', e.2 = .poll → e.1 < last + d := by
    intro e he hpoll
    obtain hburst' | hrest' := List.mem_append.1 he
    · obtain htrace | hchange := List.mem_append.1 hburst'
      · -- a poll amid the changes comes no later than the last of them
        have hle : e.1 ≤ last :=
          (List.pairwise_append.1 hburst.ordered).2.2 e htrace _ List.mem_cons_self
        exact Nat.lt_of_le_of_lt hle (Nat.lt_add_of_pos_right hd)
      · rw [List.mem_singleton.1 hchange] at hpoll
        cases hpoll
    · exact hearly e hrest' hpoll
  have hscheduled := (hburst.trans hrest).scheduled hidle hnone (by rw [htimes]; exact hgaps)
    (by rw [hlast]; rintro _ ⟨⟩; exact hpolls)
  rw [hlast] at hscheduled
  exact hscheduled

end World

/-! ## The main result -/

section

variable [Scalar R] [DocumentStore σ] [PartialEquivBEq R] {answer : Answering R ε}
  {w₀ w₁ w : World R σ ε} {trace rest : List (Instant × Happening)}

/-- **A burst of changes is saved once, when nothing has happened for the whole span.** Let nothing
be scheduled at first, and let changes happen, each within the span `d` after the one before it,
amid operations that change nothing, loads, and polls at any instants. Then no poll that comes
before the span after the last change has passed stores the canvas: at most other documents have
been saved. The canvas is then still what the last change made of it, up to a view that compares as
equal and unless it was loaded. The first poll that comes later stores it, once and whether that
succeeds or not. Until there is another change, the canvas is not stored again after that, and a
poll does nothing but end what has expired. -/
theorem burst_saved_once {last : Instant} {d : Span} (hd : 0 < d)
    (hidle : w₀.canvas.saving.restoring = false) (hnone : w₀.canvas.saving.autosave = ⟨d, none⟩)
    (hburst : w₀.Passes answer (trace ++ [(last, .change)]) w₁)
    (hgaps : (changeTimes (trace ++ [(last, .change)])).IsChain fun t t' => t' < t + d)
    (hrest : w₁.Passes answer rest w) (hquiet : ∀ e ∈ rest, e.2 ≠ .change)
    (hearly : ∀ e ∈ rest, e.2 = .poll → e.1 < last + d) :
    Document.SavedAside w₀.store w.store ∧
      ((∀ e ∈ rest, e.2 ≠ .load) → w₁.canvas.snapshot.Alike w.canvas.snapshot) ∧
      ∀ (moment : Moment) (ids : IdSource) (remote : ε), last + d ≤ moment.now →
        (Client.pollTimers moment.now).Ends answer.handler (w.later moment ids remote) fun _ w₂ =>
          (∃ result, Document.storeSnapshot w.store w.canvas.snapshot
              ⟨w.canvas.saving.projectName, moment.clock⟩ = (result, w₂.store) ∧
            w₂.canvas.saving.status = .ofResult result) ∧
          ∀ later w₃, w₂.Passes answer later w₃ → (∀ e ∈ later, e.2 ≠ .change) →
            Document.SavedAside w₂.store w₃.store ∧
            ∀ (moment : Moment) (ids : IdSource) (remote : ε),
              (Client.pollTimers moment.now).Ends answer.handler (w₃.later moment ids remote)
                fun _ w₄ => w₄ = (w₃.later moment ids remote).expired moment.now := by
  obtain ⟨hstore, hautosave⟩ := World.Passes.burst hd hidle hnone hburst hgaps hrest hquiet hearly
  have hidle₁ : w₁.canvas.saving.restoring = false := hburst.idle hidle
  have hidleRest : w.canvas.saving.restoring = false := hrest.idle hidle₁
  refine ⟨hstore, fun hload => ?_, fun moment ids remote hdue => ?_⟩
  · exact hrest.alike hidle₁ fun e he => ⟨hquiet e he, hload e he⟩
  · have hnow : (w.later moment ids remote).canvas.saving.autosave.IsDue moment.now :=
      ⟨last + d, congrArg Autosave.dueAt hautosave, hdue⟩
    refine (Client.pollTimers_ends (w := w.later moment ids remote) moment.now hidleRest).mono
      fun _ w₂ hpoll => ?_
    -- the save takes back what was scheduled, so from here on nothing is
    obtain ⟨result, hsaved⟩ := hpoll.1 hnow
    have hidle₂ : w₂.canvas.saving.restoring = false := by
      rw [hsaved.canvas]
      exact hidleRest
    have hnone₂ : w₂.canvas.saving.autosave = ⟨d, none⟩ := by
      rw [hsaved.canvas]
      change w.canvas.saving.autosave.cancel = _
      rw [hautosave]
      rfl
    refine ⟨⟨result, hsaved.store, by rw [hsaved.canvas]; rfl⟩, fun later w₃ hlater hquiet' => ?_⟩
    obtain ⟨hstore₃, hnone₃⟩ := hlater.unscheduled hidle₂ hnone₂ hquiet'
    exact ⟨hstore₃, fun moment ids remote =>
      Client.pollTimers_ends_expired (w := w₃.later moment ids remote) moment.now
        (hlater.idle hidle₂) hnone₃⟩

end

theorem burst_saved_once_panned :
    ∃ w₁ w : LocalWorld Rat,
      Client.freshWorld.Passes Link.answering ([(0, .change), (5, .poll)] ++ [(10, .change)]) w₁ ∧
        w₁.Passes Link.answering [(20, .poll)] w ∧
        Document.SavedAside Client.freshWorld.store w.store ∧
        w₁.canvas.snapshot.Alike w.canvas.snapshot ∧
        (Client.pollTimers (Span.ofSeconds 5)).Ends Link.answering.handler
          (w.later ⟨Span.ofSeconds 5, ⟨0, 0⟩⟩ w.ids w.remote) fun _ w₂ =>
            ∃ result, Document.storeSnapshot w.store w.canvas.snapshot
              ⟨w.canvas.saving.projectName, ⟨0, 0⟩⟩ = (result, w₂.store) := by
  have hpan (w : LocalWorld Rat) (t : Instant)
      (hok : ({ w with moment := ⟨t, ⟨0, 0⟩⟩ }.run (Client.panBy 1 0)).isOk = true)
      (htold : ((w.runAt t (Client.panBy 1 0)).events.drop w.events.length).any (·.isChange) =
        true) :
      (w.later ⟨t, ⟨0, 0⟩⟩ w.ids w.remote).Happens Link.answering .change
        (w.runAt t (Client.panBy 1 0)) := by
    obtain ⟨a, hrun⟩ := World.exists_runAt hok
    exact .change (.panBy 1 0) rfl hrun (Program.tells_of_run hrun htold)
  have hpoll (w : LocalWorld Rat) (t : Instant)
      (hok : ({ w with moment := ⟨t, ⟨0, 0⟩⟩ }.run (Client.pollTimers t)).isOk = true) :
      (w.later ⟨t, ⟨0, 0⟩⟩ w.ids w.remote).Happens Link.answering .poll
        (w.runAt t (Client.pollTimers t)) := by
    obtain ⟨a, hrun⟩ := World.exists_runAt hok
    exact .poll hrun
  have hburst := World.Passes.snoc (.snoc (.snoc .nil ⟨0, ⟨0, 0⟩⟩ _ _ (by decide +kernel)
    (hpan Client.freshWorld 0 (by decide +kernel) (by decide +kernel)))
    ⟨5, ⟨0, 0⟩⟩ _ _ (by decide +kernel) (hpoll _ 5 (by decide +kernel)))
    ⟨10, ⟨0, 0⟩⟩ _ _ (by decide +kernel) (hpan _ 10 (by decide +kernel) (by decide +kernel))
  have hrest := World.Passes.snoc .nil ⟨20, ⟨0, 0⟩⟩ _ _ (by decide +kernel)
    (hpoll (((Client.freshWorld.runAt 0 (Client.panBy 1 0)).runAt 5 (Client.pollTimers 5)).runAt 10
      (Client.panBy 1 0)) 20 (by decide +kernel))
  obtain ⟨hstore, halike, hsaves⟩ := burst_saved_once (by decide : 0 < Span.ofMillis 300) rfl rfl
    hburst (by decide) hrest (by decide) (by decide)
  refine ⟨_, _, hburst, hrest, hstore, halike (by decide), ?_⟩
  refine (hsaves ⟨Span.ofSeconds 5, ⟨0, 0⟩⟩ _ _ (by decide)).mono fun _ w₂ hsaved => ?_
  obtain ⟨⟨result, hresult, -⟩, -⟩ := hsaved
  exact ⟨result, hresult⟩

/-- A client whose backend has a node that the canvas has not. -/
def unloadedWorld : LocalWorld Rat :=
  let link := Client.freshWorld.remote
  let answered := link.answer (.createNode { type := "input", position := .origin })
  { Client.freshWorld with remote := { answered.2 with pushes := [] } }

/-- A load changes the canvas, and however late a poll comes it does not save that. -/
theorem load_is_not_saved :
    ((unloadedWorld.run (do
        let _ ← Client.loadFromBackend.run
        Client.pollTimers (Span.ofSeconds 1000))).toOption.map fun run =>
      (unloadedWorld.canvas.snapshot.nodes.length, run.2.canvas.snapshot.nodes.length,
        run.2.canvas.saving.status, run.2.store.documents.contains canvasKey)) =
      some (0, 1, .idle, false) := by
  decide +kernel

end NodeCanvas
