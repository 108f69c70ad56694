import NodeCanvas.Client.Program
/-!
# How client programs end

`Program.Ends handle program w post` says that a program run in the world
`w` does not break down and ends with a value and in a world that satisfy
`post`; `Attempt.Ends` says the same of a program that may fail, where
`post` sees the failure. There is one rule for each way to build a
program, so that the proof about a program follows its text. Callers use
what is proved of a callee through `Ends.mono` and do not look inside.
-/

namespace NodeCanvas

variable {R σ ε α β : Type} {handle : Handler R σ ε} {w : World R σ ε}

/-- The world after a section. -/
def World.after (w : World R σ ε) (outcome : Outcome R α) : World R σ ε :=
  { w with canvas := outcome.canvas, events := w.events ++ outcome.events }

/-- The world in which subscribers have been told one thing more. -/
def World.telling (w : World R σ ε) (event : Event R) : World R σ ε :=
  { w with events := w.events ++ [event] }

/-! ## Programs -/

/-- The program ends, with a value and in a world that are as told. -/
def Program.Ends (handle : Handler R σ ε) (program : Program R σ α) (w : World R σ ε)
    (post : α → World R σ ε → Prop) : Prop :=
  ∃ a w', program.runWith handle w = .ok (a, w') ∧ post a w'

namespace Program

variable {post : α → World R σ ε → Prop} {program : Program R σ α}

/-- A postcondition may be weakened. -/
theorem Ends.mono {weaker : α → World R σ ε → Prop}
    (h : program.Ends handle w post) (himp : ∀ a w', post a w' → weaker a w') :
    program.Ends handle w weaker := by
  obtain ⟨a, w', hrun, hpost⟩ := h
  exact ⟨a, w', hrun, himp a w' hpost⟩

/-- A run has one end, so what is told of it is told of that end. -/
theorem ends_iff_of_run {a : α} {w' : World R σ ε}
    (hrun : program.runWith handle w = .ok (a, w')) : program.Ends handle w post ↔ post a w' := by
  constructor
  · rintro ⟨b, w'', hrun', hpost⟩
    rw [hrun] at hrun'
    cases hrun'
    exact hpost
  · intro hpost
    exact ⟨a, w', hrun, hpost⟩

/-- Programs run one after the other. -/
theorem runWith_bind (program : Program R σ α) (f : α → Program R σ β) (w : World R σ ε) :
    (program.bind f).runWith handle w =
      match program.runWith handle w with
      | .ok (a, w') => (f a).runWith handle w'
      | .error fault => .error fault := by
  induction program generalizing w with
  | done value => rfl
  | edit body next ih => exact ih _ _
  | announce event next ih => exact ih _
  | draw body next ih => exact ih _ _
  | request call next ih =>
    simp only [bind, runWith]
    cases handle call w with
    | error fault => rfl
    | ok answered => exact ih _ _
  | store body next ih => exact ih _ _
  | abort fault => rfl

theorem ends_pure {a : α} : (pure a : Program R σ α).Ends handle w post ↔ post a w :=
  ends_iff_of_run rfl

/-- The rest goes on where the first part ends. -/
theorem ends_bind {f : α → Program R σ β} {post : β → World R σ ε → Prop} :
    (program >>= f).Ends handle w post ↔
      program.Ends handle w fun a w' => (f a).Ends handle w' post := by
  change (∃ b w', (program.bind f).runWith handle w = .ok (b, w') ∧ post b w') ↔ _
  rw [runWith_bind]
  constructor
  · rintro ⟨b, w', hrun, hpost⟩
    cases hfirst : program.runWith handle w with
    | error fault =>
      rw [hfirst] at hrun
      cases hrun
    | ok ended =>
      rw [hfirst] at hrun
      exact ⟨ended.1, ended.2, hfirst, b, w', hrun, hpost⟩
  · rintro ⟨a, w', hfirst, b, w'', hrun, hpost⟩
    rw [hfirst]
    exact ⟨b, w'', hrun, hpost⟩

/-- A section runs at once. -/
theorem ends_atomically {body : Edit R α} :
    (atomically body : Program R σ α).Ends handle w post ↔
      post (body w.moment w.canvas).value (w.after (body w.moment w.canvas)) :=
  ends_iff_of_run rfl

/-- Looking changes nothing. -/
theorem ends_read {f : Canvas R → α} :
    (read f : Program R σ α).Ends handle w post ↔ post (f w.canvas) w := by
  have hsame : w.after (Edit.read f w.moment w.canvas) = w := by
    simp [World.after, Edit.read]
  change (atomically (Edit.read f) : Program R σ α).Ends handle w post ↔ _
  rw [ends_atomically, hsame]
  rfl

/-- Telling adds an event. -/
theorem ends_tell {event : Event R} {post : Unit → World R σ ε → Prop} :
    (tell event : Program R σ Unit).Ends handle w post ↔ post () (w.telling event) :=
  ends_iff_of_run rfl

/-- Drawing ids uses up the source. -/
theorem ends_fresh {body : Drawing α} :
    (fresh body : Program R σ α).Ends handle w post ↔
      post (body.run w.ids).1 { w with ids := (body.run w.ids).2 } :=
  ends_iff_of_run rfl

/-- Only the store is accessed. -/
theorem ends_access {body : σ → α × σ} :
    (access body : Program R σ α).Ends handle w post ↔
      post (body w.store).1 { w with store := (body w.store).2 } :=
  ends_iff_of_run rfl

end Program

/-! ## Answers that touch nothing here -/

/-- How a far side of type `ε` answers a request. -/
def Answering (R ε : Type) : Type :=
  (call : Request R) → ε → Except RequestError call.Reply × ε

/-- Requests are answered at once, and nothing happens here meanwhile. -/
def Answering.handler (answer : Answering R ε) : Handler R σ ε := fun call w =>
  .ok ((answer call w.remote).1, { w with remote := (answer call w.remote).2 })

/-- The far side answers a request and may change. -/
theorem Program.ends_send {answer : Answering R ε} {call : Request R}
    {post : Except RequestError call.Reply → World R σ ε → Prop} :
    (send call : Program R σ _).Ends answer.handler w post ↔
      post (answer call w.remote).1 { w with remote := (answer call w.remote).2 } :=
  ends_iff_of_run rfl

/-! ## Attempts -/

/-- The attempt ends, with a value or a failure and in a world that are as
told. -/
def Attempt.Ends (handle : Handler R σ ε) (attempt : Attempt R σ α) (w : World R σ ε)
    (post : Except ClientError α → World R σ ε → Prop) : Prop :=
  Program.Ends handle attempt.run w post

namespace Attempt

variable {post : Except ClientError α → World R σ ε → Prop}

theorem Ends.mono {attempt : Attempt R σ α} {weaker : Except ClientError α → World R σ ε → Prop}
    (h : attempt.Ends handle w post) (himp : ∀ a w', post a w' → weaker a w') :
    attempt.Ends handle w weaker :=
  Program.Ends.mono h himp

theorem ends_pure {a : α} : (pure a : Attempt R σ α).Ends handle w post ↔ post (.ok a) w :=
  Program.ends_pure

/-- An error ends the attempt. -/
theorem ends_throw {error : ClientError} :
    (throw error : Attempt R σ α).Ends handle w post ↔ post (.error error) w :=
  Program.ends_pure

/-- After a failure nothing more is done. -/
theorem ends_bind {attempt : Attempt R σ α} {f : α → Attempt R σ β}
    {post : Except ClientError β → World R σ ε → Prop} :
    (attempt >>= f).Ends handle w post ↔
      attempt.Ends handle w fun result w' =>
        match result with
        | .ok a => (f a).Ends handle w' post
        | .error error => post (.error error) w' := by
  change (attempt.run >>= ExceptT.bindCont f : Program R σ (Except ClientError β)).Ends _ _ _ ↔ _
  rw [Program.ends_bind]
  constructor
  · intro h
    refine h.mono fun result w' hrest => ?_
    cases result with
    | ok a => exact hrest
    | error error => exact Program.ends_pure.1 hrest
  · intro h
    refine Program.Ends.mono h fun result w' hrest => ?_
    cases result with
    | ok a => exact hrest
    | error error => exact Program.ends_pure.2 hrest

/-- A program cannot fail as an attempt. -/
theorem ends_always {program : Program R σ α} :
    (always program).Ends handle w post ↔ program.Ends handle w fun a w' => post (.ok a) w' := by
  change (program >>= fun a => pure (Except.ok a) : Program R σ (Except ClientError α)).Ends _ _ _ ↔ _
  rw [Program.ends_bind]
  constructor
  · intro h
    exact h.mono fun a w' hrest => Program.ends_pure.1 hrest
  · intro h
    exact h.mono fun a w' hrest => Program.ends_pure.2 hrest

theorem ends_atomically {body : Edit R α} :
    (atomically body : Attempt R σ α).Ends handle w post ↔
      post (.ok (body w.moment w.canvas).value) (w.after (body w.moment w.canvas)) := by
  rw [atomically, ends_always, Program.ends_atomically]

/-- A section may refuse. -/
theorem ends_checked {body : Edit R (Except ClientError α)} :
    (checked body : Attempt R σ α).Ends handle w post ↔
      post (body w.moment w.canvas).value (w.after (body w.moment w.canvas)) :=
  Program.ends_atomically

theorem ends_read {f : Canvas R → α} :
    (read f : Attempt R σ α).Ends handle w post ↔ post (.ok (f w.canvas)) w := by
  rw [read, ends_always, Program.ends_read]

theorem ends_tell {event : Event R} {post : Except ClientError Unit → World R σ ε → Prop} :
    (tell event : Attempt R σ Unit).Ends handle w post ↔ post (.ok ()) (w.telling event) := by
  rw [tell, ends_always, Program.ends_tell]

theorem ends_fresh {body : Drawing α} :
    (fresh body : Attempt R σ α).Ends handle w post ↔
      post (.ok (body.run w.ids).1) { w with ids := (body.run w.ids).2 } := by
  rw [fresh, ends_always, Program.ends_fresh]

theorem ends_access {body : σ → α × σ} :
    (access body : Attempt R σ α).Ends handle w post ↔
      post (.ok (body w.store).1) { w with store := (body w.store).2 } := by
  rw [access, ends_always, Program.ends_access]

/-- Looking at the store changes nothing. -/
theorem ends_consult {body : σ → α} :
    (consult body : Attempt R σ α).Ends handle w post ↔ post (.ok (body w.store)) w := by
  change (access fun s => (body s, s) : Attempt R σ α).Ends handle w post ↔ _
  rw [ends_access]

/-- What a store returned is passed on. -/
theorem ends_document {result : Except DocumentError α} :
    (document result : Attempt R σ α).Ends handle w post ↔
      post (result.mapError .document) w := by
  cases result with
  | ok value => exact ends_pure
  | error cause => exact ends_throw

/-- What `ask` leaves: the reply, or a failure of which the user is told. -/
theorem ends_ask {answer : Answering R ε} {complaint : String} {call : Request R}
    {post : Except ClientError call.Reply → World R σ ε → Prop} :
    (ask complaint call : Attempt R σ call.Reply).Ends answer.handler w post ↔
      match answer call w.remote with
      | (.ok reply, remote) => post (.ok reply) { w with remote }
      | (.error cause, remote) =>
        post (.error (.request cause))
          (World.telling { w with remote }
            (.notification .error (complaint ++ ": " ++ cause.message))) := by
  rw [ask, ends_bind, send, ends_always, Program.ends_send]
  obtain ⟨reply, remote⟩ := answer call w.remote
  cases reply with
  | ok reply => exact ends_pure
  | error cause =>
    change (refuse complaint cause).Ends _ _ _ ↔ _
    rw [refuse, ends_bind, ends_tell]
    exact ends_throw

end Attempt

end NodeCanvas
