import NodeCanvas.Proofs.Closed
import NodeCanvas.Proofs.Program
/-!
# What runs lead to

`program.Leads answer rel` says that wherever a run of the program ends, `rel` holds between the
world in which it started and the one in which it ends. It says nothing of runs that break down.
There is one rule for each way to build a program, as for `Program.Ends`. What most operations do by
the way, such as waiting for a reply or drawing an identifier, is asked of the relation once:
`World.Lenient`.
-/

namespace NodeCanvas

variable {R σ ε α β : Type}

/-- A relation between worlds that does not mind what operations do by the way. -/
class World.Lenient (rel : World R σ ε → World R σ ε → Prop) : Prop where
  same (w : World R σ ε) : rel w w
  trans {w w' w'' : World R σ ε} : rel w w' → rel w' w'' → rel w w''
  drawing (w : World R σ ε) (ids : IdSource) : rel w { w with ids }
  answered (w : World R σ ε) (remote : ε) : rel w { w with remote }
  notified (w : World R σ ε) (level : NotificationLevel) (message : String) :
    rel w (w.telling (.notification level message))

open World (Lenient)

/-- Wherever a run of the program ends, the relation holds. -/
def Program.Leads (answer : Answering R ε) (rel : World R σ ε → World R σ ε → Prop)
    (program : Program R σ α) : Prop :=
  ∀ w a w', program.runWith answer.handler w = .ok (a, w') → rel w w'

/-- The same of a program that may fail. -/
def Attempt.Leads (answer : Answering R ε) (rel : World R σ ε → World R σ ε → Prop)
    (attempt : Attempt R σ α) : Prop :=
  Program.Leads answer rel attempt.run

variable {answer : Answering R ε} {rel : World R σ ε → World R σ ε → Prop}

namespace Program

variable {program : Program R σ α}

/-- A program that ends leads wherever its end is. -/
theorem leads_of_ends
    (h : ∀ w, program.Ends answer.handler w fun _ w' => rel w w') : program.Leads answer rel := by
  intro w a w' hrun
  exact (ends_iff_of_run hrun).1 (h w)

theorem exists_of_run_bind {f : α → Program R σ β}
    {handle : Handler R σ ε} {w w'' : World R σ ε} {b : β}
    (h : (program >>= f).runWith handle w = .ok (b, w'')) :
    ∃ a w', program.runWith handle w = .ok (a, w') ∧ (f a).runWith handle w' = .ok (b, w'') := by
  change (program.bind f).runWith handle w = _ at h
  rw [runWith_bind] at h
  cases hfirst : program.runWith handle w with
  | error fault =>
    rw [hfirst] at h
    cases h
  | ok ended =>
    rw [hfirst] at h
    exact ⟨ended.1, ended.2, rfl, h⟩

theorem leads_atomically {body : Edit R α}
    (h : ∀ w : World R σ ε, rel w (w.after (body w.moment w.canvas))) :
    (atomically body : Program R σ α).Leads answer rel :=
  leads_of_ends fun w => ends_atomically.2 (h w)

theorem leads_tell {event : Event R} (h : ∀ w : World R σ ε, rel w (w.telling event)) :
    (tell event : Program R σ Unit).Leads answer rel :=
  leads_of_ends fun w => ends_tell.2 (h w)

theorem leads_access {body : σ → α × σ}
    (h : ∀ w : World R σ ε, rel w { w with store := (body w.store).2 }) :
    (access body : Program R σ α).Leads answer rel :=
  leads_of_ends fun w => ends_access.2 (h w)

/-- What is done with the value does not matter. -/
theorem Leads.map (h : program.Leads answer rel) (g : α → β) :
    (program >>= fun a => pure (g a)).Leads answer rel := by
  intro w b w' hrun
  obtain ⟨a, w₁, hfirst, hrest⟩ := exists_of_run_bind hrun
  cases hrest
  exact h w a _ hfirst

theorem leads_abort (fault : OverlayFault) : (abort fault : Program R σ α).Leads answer rel := by
  intro w a w' hrun
  cases hrun

variable [Lenient rel]

theorem leads_pure (a : α) : (pure a : Program R σ α).Leads answer rel :=
  leads_of_ends fun w => ends_pure.2 (Lenient.same w)

theorem Leads.bind {f : α → Program R σ β}
    (h : program.Leads answer rel) (hf : ∀ a, (f a).Leads answer rel) :
    (program >>= f).Leads answer rel := by
  intro w b w'' hrun
  obtain ⟨a, w', hfirst, hrest⟩ := exists_of_run_bind hrun
  exact Lenient.trans (h w a w' hfirst) (hf a w' b w'' hrest)

theorem leads_read (f : Canvas R → α) : (read f : Program R σ α).Leads answer rel :=
  leads_of_ends fun w => ends_read.2 (Lenient.same w)

theorem leads_fresh (body : Drawing α) : (fresh body : Program R σ α).Leads answer rel :=
  leads_of_ends fun w => ends_fresh.2 (Lenient.drawing w _)

theorem leads_send (call : Request R) : (send call : Program R σ _).Leads answer rel :=
  leads_of_ends fun w => ends_send.2 (Lenient.answered w _)

theorem leads_notify (level : NotificationLevel) (message : String) :
    (notify level message : Program R σ Unit).Leads answer rel :=
  leads_tell fun w => Lenient.notified w level message

/-- What is said of runs can be shown along the text. -/
theorem closed_leads : Closed (fun _ : Request R => True) (Leads (σ := σ) answer rel) where
  pure := leads_pure
  bind := Leads.bind
  read := leads_read
  fresh := leads_fresh
  send {call} _ := leads_send call
  notify := leads_notify
  consult _ := leads_access fun w => Lenient.same w

end Program

namespace Attempt

theorem leads_always {program : Program R σ α} (h : program.Leads answer rel) :
    (always program).Leads answer rel :=
  h.map _

theorem leads_atomically {body : Edit R α}
    (h : ∀ w : World R σ ε, rel w (w.after (body w.moment w.canvas))) :
    (atomically body : Attempt R σ α).Leads answer rel :=
  leads_always (Program.leads_atomically h)

theorem leads_tell {event : Event R} (h : ∀ w : World R σ ε, rel w (w.telling event)) :
    (tell event : Attempt R σ Unit).Leads answer rel :=
  leads_always (Program.leads_tell h)

theorem leads_access {body : σ → α × σ}
    (h : ∀ w : World R σ ε, rel w { w with store := (body w.store).2 }) :
    (access body : Attempt R σ α).Leads answer rel :=
  leads_always (Program.leads_access h)

/-- What is done with the value does not matter. -/
theorem Leads.map {attempt : Attempt R σ α} (h : attempt.Leads answer rel) (g : α → β) :
    (attempt >>= fun a => pure (g a)).Leads answer rel := by
  intro w result w' hrun
  obtain ⟨first, w₁, hfirst, hrest⟩ := Program.exists_of_run_bind hrun
  cases first with
  | error error =>
    cases hrest
    exact h w _ _ hfirst
  | ok a =>
    cases hrest
    exact h w _ _ hfirst

variable [Lenient rel]

theorem leads_pure (a : α) : (pure a : Attempt R σ α).Leads answer rel := Program.leads_pure _

theorem leads_throw (error : ClientError) : (throw error : Attempt R σ α).Leads answer rel :=
  Program.leads_pure _

theorem Leads.bind {attempt : Attempt R σ α} {f : α → Attempt R σ β}
    (h : attempt.Leads answer rel) (hf : ∀ a, (f a).Leads answer rel) :
    (attempt >>= f).Leads answer rel :=
  Program.closed_leads.attempt h hf

theorem leads_fresh (body : Drawing α) : (fresh body : Attempt R σ α).Leads answer rel :=
  leads_always (Program.leads_fresh body)

theorem leads_consult (body : σ → α) : (consult body : Attempt R σ α).Leads answer rel :=
  leads_access fun w => Lenient.same w

theorem leads_ask (complaint : String) (call : Request R) :
    (ask complaint call : Attempt R σ call.Reply).Leads answer rel :=
  Program.closed_leads.ask trivial

theorem leads_document (result : Except DocumentError α) :
    (document result : Attempt R σ α).Leads answer rel :=
  Program.closed_leads.document result

end Attempt

end NodeCanvas
