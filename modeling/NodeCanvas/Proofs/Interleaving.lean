import NodeCanvas.Proofs.Backend
import NodeCanvas.Proofs.Push
/-!
# Programs amid deliveries

A program of the client is interrupted between its steps, and pushes are delivered there. An
interleaving is an order in which the program and the channel act, `Program.interleave`; with the
program alone it is the run of the program (`Program.interleave_alone`).

`Program.EndsAmid` says of a program that it ends as told however deliveries fall between its steps.
What is asserted between two steps has to be such that no delivery breaks it, `World.Abides`; with
that, there is again one rule for each way to build a program. A program that has the same invariant
throughout `Program.Keeps` it.
-/

namespace NodeCanvas

variable {R α β : Type} [Scalar R]

/-! ## Programs and deliveries in turns -/

/-- Who acts next: the program, or the channel that delivers the oldest push. -/
inductive Actor where
  | program
  | channel
  deriving DecidableEq

namespace Program

/-- The next step of a program over any store and any far side, and what is left of it. A program
that is done stays so. -/
def stepWith {σ ε : Type} (answer : Answering R ε) (program : Program R σ α) (w : World R σ ε) :
    Except OverlayFault (Program R σ α × World R σ ε) :=
  match program with
  | .done value => .ok (.done value, w)
  | .edit body next =>
    .ok (next (body w.moment w.canvas).value, w.after (body w.moment w.canvas))
  | .announce event next => .ok (next, w.telling event)
  | .draw body next => .ok (next (body.run w.ids).1, { w with ids := (body.run w.ids).2 })
  | .request call next =>
    .ok (next (answer call w.remote).1, { w with remote := (answer call w.remote).2 })
  | .store body next => .ok (next (body w.store).1, { w with store := (body w.store).2 })
  | .abort fault => .error fault

/-- The next step over a link. -/
abbrev advance (program : Program R MemoryStore α) (w : LocalWorld R) :
    Except OverlayFault (Program R MemoryStore α × LocalWorld R) :=
  program.stepWith Link.answering w

/-- Let a program and the channel act in an order; answers what is left of the program. -/
def interleave : List Actor → Program R MemoryStore α → LocalWorld R →
    Except OverlayFault (Program R MemoryStore α × LocalWorld R)
  | [], program, w => .ok (program, w)
  | .program :: actors, program, w =>
    match program.advance w with
    | .ok (program, w) => interleave actors program w
    | .error fault => .error fault
  | .channel :: actors, program, w =>
    match w.pump (some 1) with
    | .ok (_, w) => interleave actors program w
    | .error fault => .error fault

/-- The world in which a program was done. -/
def finished? (outcome : Except OverlayFault (Program R MemoryStore α × LocalWorld R)) :
    Option (LocalWorld R) :=
  match outcome with
  | .ok (.done _, w) => some w
  | _ => none

/-- A run is what comes of the program acting alone. -/
theorem interleave_alone {program : Program R MemoryStore α} {w w' : LocalWorld R} {a : α}
    (h : w.run program = .ok (a, w')) :
    ∃ n, interleave (List.replicate n .program) program w = .ok (.done a, w') := by
  rw [World.run] at h
  induction program generalizing w with
  | done value =>
    cases h
    exact ⟨0, rfl⟩
  | abort fault => cases h
  | edit body next ih =>
    obtain ⟨n, hn⟩ := ih _ h
    exact ⟨n + 1, hn⟩
  | announce event next ih =>
    obtain ⟨n, hn⟩ := ih h
    exact ⟨n + 1, hn⟩
  | draw body next ih =>
    obtain ⟨n, hn⟩ := ih _ h
    exact ⟨n + 1, hn⟩
  | request call next ih =>
    obtain ⟨n, hn⟩ := ih _ h
    exact ⟨n + 1, hn⟩
  | store body next ih =>
    obtain ⟨n, hn⟩ := ih _ h
    exact ⟨n + 1, hn⟩

end Program

/-- A property of worlds that deliveries do not break. -/
def World.Abides (inv : LocalWorld R → Prop) : Prop :=
  ∀ w, inv w → ∃ n w', w.pump (some 1) = .ok (n, w') ∧ inv w'

/-! ## How programs end amid deliveries -/

/-- However deliveries fall between its steps, the program does not break down, and whenever it is
done, its value and the world are as told. -/
def Program.EndsAmid (program : Program R MemoryStore α) (w : LocalWorld R)
    (post : α → LocalWorld R → Prop) : Prop :=
  ∀ actors, ∃ rest w', Program.interleave actors program w = .ok (rest, w') ∧
    ∀ a, rest = .done a → post a w'

namespace Program

variable {program : Program R MemoryStore α} {w : LocalWorld R} {post : α → LocalWorld R → Prop}
  {inv : LocalWorld R → Prop}

theorem EndsAmid.mono {weaker : α → LocalWorld R → Prop} (h : program.EndsAmid w post)
    (himp : ∀ a w', post a w' → weaker a w') : program.EndsAmid w weaker := by
  intro actors
  obtain ⟨rest, w', hrun, hpost⟩ := h actors
  exact ⟨rest, w', hrun, fun a ha => himp a w' (hpost a ha)⟩

theorem EndsAmid.advance (h : program.EndsAmid w post) :
    ∃ rest w', program.advance w = .ok (rest, w') ∧ rest.EndsAmid w' post := by
  cases hstep : program.advance w with
  | error fault =>
    obtain ⟨rest, w', hrun, -⟩ := h [.program]
    rw [interleave, hstep] at hrun
    cases hrun
  | ok stepped =>
    refine ⟨stepped.1, stepped.2, rfl, fun actors => ?_⟩
    have hrest := h (.program :: actors)
    rwa [interleave, hstep] at hrest

theorem EndsAmid.deliver (h : program.EndsAmid w post) :
    ∃ n w', w.pump (some 1) = .ok (n, w') ∧ program.EndsAmid w' post := by
  cases hpump : w.pump (some 1) with
  | error fault =>
    obtain ⟨rest, w', hrun, -⟩ := h [.channel]
    rw [interleave, hpump] at hrun
    cases hrun
  | ok pumped =>
    refine ⟨pumped.1, pumped.2, rfl, fun actors => ?_⟩
    have hrest := h (.channel :: actors)
    rwa [interleave, hpump] at hrest

/-- What is true until the program acts, and what is true once it has. -/
theorem endsAmid_of_advance (habides : World.Abides inv) (hw : inv w)
    (hrest : ∀ a, program ≠ .done a)
    (hstep : ∀ w, inv w → ∃ rest w', program.advance w = .ok (rest, w') ∧ rest.EndsAmid w' post) :
    program.EndsAmid w post := by
  intro actors
  induction actors generalizing w with
  | nil => exact ⟨program, w, rfl, fun a ha => (hrest a ha).elim⟩
  | cons actor actors ih =>
    cases actor with
    | program =>
      obtain ⟨rest, w', hadvance, hends⟩ := hstep w hw
      rw [interleave, hadvance]
      exact hends actors
    | channel =>
      obtain ⟨n, w', hpump, hw'⟩ := habides w hw
      rw [interleave, hpump]
      exact ih hw'

theorem endsAmid_done {a : α} (habides : World.Abides (post a)) (hw : post a w) :
    (done a : Program R MemoryStore α).EndsAmid w post := by
  intro actors
  induction actors generalizing w with
  | nil =>
    refine ⟨.done a, w, rfl, fun b hb => ?_⟩
    cases hb
    exact hw
  | cons actor actors ih =>
    cases actor with
    | program => exact ih hw
    | channel =>
      obtain ⟨n, w', hpump, hw'⟩ := habides w hw
      rw [interleave, hpump]
      exact ih hw'

theorem advance_bind {rest : Program R MemoryStore α} {w' : LocalWorld R}
    (h : program.advance w = .ok (rest, w')) (hnot : ∀ a, program ≠ .done a)
    (f : α → Program R MemoryStore β) :
    (program.bind f).advance w = .ok (rest.bind f, w') := by
  cases program with
  | done value => exact (hnot value rfl).elim
  | abort fault => cases h
  | _ => cases h; rfl

theorem EndsAmid.of_done {a : α} (h : (done a : Program R MemoryStore α).EndsAmid w post) :
    post a w := by
  obtain ⟨rest, w', hrun, hpost⟩ := h []
  cases hrun
  exact hpost a rfl

/-- A program that is not done acts in the same way whatever comes after it. -/
theorem EndsAmid.bind {f : α → Program R MemoryStore β} {post : β → LocalWorld R → Prop}
    (h : program.EndsAmid w fun a w' => (f a).EndsAmid w' post) :
    (program >>= f).EndsAmid w post := by
  intro actors
  change ∃ rest w', interleave actors (program.bind f) w = .ok (rest, w') ∧ _
  induction actors generalizing program w with
  | nil =>
    cases program with
    | done value => exact h.of_done []
    | _ => exact ⟨_, w, rfl, nofun⟩
  | cons actor actors ih =>
    by_cases hdone : ∃ a, program = .done a
    · obtain ⟨a, rfl⟩ := hdone
      exact h.of_done (actor :: actors)
    · cases actor with
      | program =>
        obtain ⟨rest, w', hadvance, hrest⟩ := h.advance
        rw [interleave, advance_bind hadvance fun a ha => hdone ⟨a, ha⟩]
        exact ih hrest
      | channel =>
        obtain ⟨n, w', hpump, hrest⟩ := h.deliver
        rw [interleave, hpump]
        exact ih hrest

/-- Amid deliveries, the program keeps something true. -/
def Keeps (inv : LocalWorld R → Prop) (program : Program R MemoryStore α) : Prop :=
  ∀ w, inv w → program.EndsAmid w fun _ => inv

theorem keeps_pure (habides : World.Abides inv) (a : α) :
    (pure a : Program R MemoryStore α).Keeps inv :=
  fun _ hw => endsAmid_done habides hw

theorem Keeps.bind {f : α → Program R MemoryStore β} (h : program.Keeps inv)
    (hf : ∀ a, (f a).Keeps inv) : (program >>= f).Keeps inv :=
  fun w hw => EndsAmid.bind ((h w hw).mono fun a w' hw' => hf a w' hw')

theorem endsAmid_atomically {body : Edit R α} (habides : World.Abides inv) (hw : inv w)
    (hpost : ∀ a, World.Abides (post a))
    (hbody : ∀ w, inv w → post (body w.moment w.canvas).value
      (w.after (body w.moment w.canvas))) :
    (atomically body : Program R MemoryStore α).EndsAmid w post :=
  endsAmid_of_advance habides hw nofun fun w hw =>
    ⟨_, _, rfl, endsAmid_done (hpost _) (hbody w hw)⟩

end Program

namespace Attempt

variable {inv : LocalWorld R → Prop}

/-- The same of a program that may fail. -/
def Keeps (inv : LocalWorld R → Prop) (attempt : Attempt R MemoryStore α) : Prop :=
  Program.Keeps inv attempt.run

end Attempt

/-! ## Programs and the time of a delivery -/

/-- Whether the channel acts after the program has acted so many times and before it acts again. -/
def Actor.deliversAfter : Nat → List Actor → Bool
  | 0, .channel :: _ => true
  | 0, _ => false
  | _ + 1, [] => false
  | n + 1, .channel :: actors => deliversAfter (n + 1) actors
  | n + 1, .program :: actors => deliversAfter n actors

namespace Program

/-- How a program ends depends on whether the channel acts at some point. -/
def EndsTimed (program : Program R MemoryStore α) (w : LocalWorld R) (n : Nat)
    (post : Bool → LocalWorld R → Prop) : Prop :=
  ∀ actors, ∃ rest w', interleave actors program w = .ok (rest, w') ∧
    ∀ a, rest = .done a → post (Actor.deliversAfter n actors) w'

variable {program : Program R MemoryStore α} {w : LocalWorld R} {post : Bool → LocalWorld R → Prop}

theorem EndsAmid.endsTimed (n : Nat)
    (h : program.EndsAmid w fun _ w' => ∀ delivered, post delivered w') :
    program.EndsTimed w n post := by
  intro actors
  obtain ⟨rest, w', hrun, hpost⟩ := h actors
  exact ⟨rest, w', hrun, fun a ha => hpost a ha _⟩

/-- The channel does nothing while nothing is queued. -/
theorem endsTimed_of_advance {rest : Program R MemoryStore α} {w' : LocalWorld R} {n : Nat}
    (hqueue : w.remote.pushes = []) (hnot : ∀ a, program ≠ .done a)
    (hadvance : program.advance w = .ok (rest, w')) (h : rest.EndsTimed w' n post) :
    program.EndsTimed w (n + 1) post := by
  intro actors
  induction actors with
  | nil => exact ⟨program, w, rfl, fun a ha => (hnot a ha).elim⟩
  | cons actor actors ih =>
    cases actor with
    | program =>
      rw [interleave, hadvance]
      exact h actors
    | channel =>
      rw [interleave, World.pump_one_nil hqueue]
      exact ih

end Program

end NodeCanvas
