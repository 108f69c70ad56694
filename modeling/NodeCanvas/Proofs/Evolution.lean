import Mathlib.Logic.Relation
import NodeCanvas.Proofs.Closed
import NodeCanvas.Proofs.Replay
/-!
# Moves of the graph

What a client does to its graph it does by a few kinds of moves, `Graph.Move`: the change of a push or
of an edit, a whole new graph, and the placing of what a restore has created. A `Scope` says what the
sections and the requests of a program may be; there is one rule for each way to build a program, so
that a program is shown to keep within a scope along its text. All operations make moves and nothing
else (`Scope.moving`), and all but restores also leave the restore guard alone (`Scope.steady`); most
are not about the graph at all (`Scope.aside`). What is said of a program is said of each of its
sections by itself, from any canvas on: what the program learnt before a section, and what other
programs did in between, is left open.
-/

namespace NodeCanvas

variable {R σ α β : Type}

section Moves

variable [Scalar R]

/-! ## Moves of the graph -/

namespace Graph

variable {g g' : Graph R}

/-- A change that some section makes to the graph. -/
inductive Move : Graph R → Graph R → Prop where
  | alter (g : Graph R) (ch : GraphChange R) : Move g (g.alter ch)
  | replaceAll (g : Graph R) (nodes : List (Node R)) (connections : List Connection) :
      Move g (g.replaceAll nodes connections)
  | place (g : Graph R) (node : Node R) (identity : NodeIdentity) : Move g (g.place node identity)
  | placeConnection (g : Graph R) (c : Connection) (isLocal : Bool)
      (hloop : c.isSelfLoop = false) : Move g (g.placeConnection c isLocal)

/-- What comes of moves. -/
def Evolves : Graph R → Graph R → Prop := Relation.ReflTransGen Move

/-- A move is an evolution. -/
theorem Move.evolves (h : Move g g') : g.Evolves g' := .single h

theorem Evolves.refl (g : Graph R) : g.Evolves g := Relation.ReflTransGen.refl

theorem Evolves.of_eq (h : g' = g) : g.Evolves g' := h ▸ .refl g

theorem Evolves.trans {g'' : Graph R} (h : g.Evolves g') (h' : g'.Evolves g'') : g.Evolves g'' :=
  Relation.ReflTransGen.trans h h'

/-- An invariant of moves is one of whatever comes of them. -/
theorem Evolves.keeps {I : Graph R → Prop} (hmove : ∀ g g', Move g g' → I g → I g')
    (h : g.Evolves g') (hI : I g) : I g' := by
  induction h with
  | refl => exact hI
  | tail _ hlast ih => exact hmove _ _ hlast ih

end Graph

/-- The canvas goes on by moves of the graph, and the restore guard stays. -/
structure Canvas.Advances (c c' : Canvas R) : Prop where
  graph : c.graph.Evolves c'.graph
  restoring : c'.saving.restoring = c.saving.restoring

/-- Advances add up. -/
theorem Canvas.Advances.trans {c c' c'' : Canvas R} (h : c.Advances c') (h' : c'.Advances c'') :
    c.Advances c'' :=
  ⟨h.graph.trans h'.graph, h'.restoring.trans h.restoring⟩

/-- A canvas advances with its graph. -/
theorem Canvas.Becomes.advances {c c' : Canvas R} {g : Graph R} {owed : Nat}
    (h : c.Becomes c' g owed) (hg : c.graph.Evolves g) : c.Advances c' :=
  ⟨h.graph ▸ hg, h.restoring⟩

/-! ## Sections -/

/-- Whatever the moment and the canvas, the section does nothing but moves to the graph. -/
def Edit.Evolves (edit : Edit R α) : Prop :=
  ∀ (m : Moment) (c : Canvas R), c.graph.Evolves (edit m c).canvas.graph

/-- The same of a section that leaves the restore guard alone. -/
def Edit.Steady (edit : Edit R α) : Prop :=
  ∀ (m : Moment) (c : Canvas R), c.Advances (edit m c).canvas

/-- The section leaves the graph and the restore guard alone. -/
def Edit.Aside (edit : Edit R α) : Prop :=
  ∀ (m : Moment) (c : Canvas R), (edit m c).canvas.graph = c.graph ∧
    (edit m c).canvas.saving.restoring = c.saving.restoring

namespace Edit

variable {edit : Edit R α}

omit [Scalar R] in
/-- A quiet section is not about the graph. -/
theorem Quiet.aside (h : edit.Quiet) : edit.Aside :=
  fun m c => ⟨(h m c).graph, (h m c).restoring⟩

/-- What is not about the graph is steady. -/
theorem Aside.steady (h : edit.Aside) : edit.Steady :=
  fun m c => ⟨.of_eq (h m c).1, (h m c).2⟩

/-- A steady section makes moves. -/
theorem Steady.evolves (h : edit.Steady) : edit.Evolves :=
  fun m c => (h m c).graph

theorem Quiet.steady (h : edit.Quiet) : edit.Steady := h.aside.steady

/-- Steady sections may follow each other. -/
theorem Steady.bind {next : α → Edit R β} (h : edit.Steady)
    (hnext : ∀ a, (next a).Steady) : (edit >>= next).Steady :=
  fun m c => (h m c).trans (hnext _ m _)

theorem Evolves.bind {next : α → Edit R β} (h : edit.Evolves)
    (hnext : ∀ a, (next a).Evolves) : (edit >>= next).Evolves :=
  fun m c => (h m c).trans (hnext _ m _)

/-- Saving is not about the graph. -/
theorem evolves_onSaving (f : Saving → Saving) : (onSaving f : Edit R Unit).Evolves :=
  fun _ _ => .refl _

/-- It is steady if it leaves the guard alone. -/
theorem steady_onSaving {f : Saving → Saving} (h : ∀ s, (f s).restoring = s.restoring) :
    (onSaving f : Edit R Unit).Steady :=
  fun _ c => ⟨.refl _, h c.saving⟩

/-- Moves of the graph are steady. -/
theorem steady_onGraph {f : Graph R → Graph R × α} (h : ∀ g : Graph R, g.Evolves (f g).1) :
    (onGraph f).Steady :=
  fun _ c => ⟨h c.graph, rfl⟩

/-- A change of the graph is a move. -/
theorem Alters.steady {ch : GraphChange R} (h : edit.Alters ch) : edit.Steady :=
  fun m c => (h m c).advances (Graph.Move.alter _ ch).evolves

end Edit

namespace Client

open Edit

/-- Applying a push is steady. -/
theorem steady_applyChange (p : PushEvent R) : (applyChange p).Steady := by
  intro m c
  obtain ⟨g, owed, hbecomes, rfl | ⟨ch, -, rfl⟩⟩ := applyChange_outcome (m := m) (c := c) p
  · exact hbecomes.advances (.refl _)
  · exact hbecomes.advances (Graph.Move.alter _ ch).evolves

/-- Execution events are not about the graph. -/
theorem quiet_applyExecution (event : ExecutionEvent) :
    (applyExecution event : Edit R _).Quiet := by
  refine .bind quiet_now fun now => .bind (quiet_read _) fun canvas => ?_
  split
  · exact quiet_pure _
  · refine .bind (quiet_modify (fun _ => rfl) fun _ => rfl) fun _ => ?_
    split
    · exact .bind (quiet_emit _) fun _ => quiet_pure _
    · exact quiet_pure _

/-- So is its whole section. -/
theorem steady_applySection (p : PushEvent R) : (applySection p).Steady := by
  cases p with
  | execution event => exact (quiet_applyExecution event).steady
  | _ => exact .bind (steady_applyChange _) fun _ => (quiet_pure _).steady

/-- Placing a node is a move. -/
theorem steady_placeNode (node : Node R) (identity : NodeIdentity) :
    (placeNode node identity).Steady :=
  steady_onGraph fun g => (Graph.Move.place g node identity).evolves

/-- So is placing a connection that is no loop. -/
theorem steady_placeConnection {c : Connection} (hloop : c.isSelfLoop = false) (isLocal : Bool) :
    (placeConnection c isLocal : Edit R Unit).Steady := by
  rw [placeConnection_eq]
  exact steady_onGraph fun g => (Graph.Move.placeConnection g c isLocal hloop).evolves

end Client

end Moves

/-! ## Programs -/

/-- What a program may do: which sections it may be made of, of which looking at the canvas is always
one, and what it may ask for. -/
structure Scope (R : Type) where
  edits : {α : Type} → Edit R α → Prop
  requests : Request R → Prop
  looks : ∀ {α : Type} (f : Canvas R → α), edits (Edit.read f)

/-- The sections and the requests of the program are such, whatever it learnt before. -/
def Program.Within (scope : Scope R) : Program R σ α → Prop
  | .done _ => True
  | .edit body next => scope.edits body ∧ ∀ b, (next b).Within scope
  | .announce _ next => next.Within scope
  | .draw _ next => ∀ b, (next b).Within scope
  | .request call next => scope.requests call ∧ ∀ reply, (next reply).Within scope
  | .store _ next => ∀ b, (next b).Within scope
  | .abort _ => True

/-- Some section of the program takes one canvas to another, whatever the program learnt before. -/
def Program.Passes : Program R σ α → Canvas R → Canvas R → Prop
  | .done _, _, _ => False
  | .edit body next, c, c' => (∃ m, c' = (body m c).canvas) ∨ ∃ b, (next b).Passes c c'
  | .announce _ next, c, c' => next.Passes c c'
  | .draw _ next, c, c' => ∃ b, (next b).Passes c c'
  | .request _ next, c, c' => ∃ reply, (next reply).Passes c c'
  | .store _ next, c, c' => ∃ b, (next b).Passes c c'
  | .abort _, _, _ => False

variable {scope narrow : Scope R}

namespace Program

variable {program : Program R σ α}

theorem within_pure (a : α) : (pure a : Program R σ α).Within scope := trivial

/-- A scope is kept step by step. -/
theorem Within.bind {f : α → Program R σ β} (h : program.Within scope)
    (hf : ∀ a, (f a).Within scope) : (program >>= f).Within scope := by
  change (program.bind f).Within scope
  induction program with
  | done value => exact hf value
  | edit body next ih => exact ⟨h.1, fun b => ih b (h.2 b)⟩
  | announce event next ih => exact ih h
  | draw body next ih => exact fun b => ih b (h b)
  | request call next ih => exact ⟨h.1, fun reply => ih reply (h.2 reply)⟩
  | store body next ih => exact fun b => ih b (h b)
  | abort fault => trivial

/-- What keeps within a scope keeps within a wider one. -/
theorem Within.mono (h : program.Within narrow)
    (hedits : ∀ {β : Type} (body : Edit R β), narrow.edits body → scope.edits body)
    (hrequests : ∀ call, narrow.requests call → scope.requests call) : program.Within scope := by
  induction program with
  | done value => trivial
  | edit body next ih => exact ⟨hedits body h.1, fun b => ih b (h.2 b)⟩
  | announce event next ih => exact ih h
  | draw body next ih => exact fun b => ih b (h b)
  | request call next ih => exact ⟨hrequests call h.1, fun reply => ih reply (h.2 reply)⟩
  | store body next ih => exact fun b => ih b (h b)
  | abort fault => trivial

/-- Every section of the program is one of the scope. -/
theorem Within.exists_edit {c c' : Canvas R} (h : program.Within scope)
    (hpass : program.Passes c c') :
    ∃ (β : Type) (body : Edit R β) (m : Moment), scope.edits body ∧ c' = (body m c).canvas := by
  induction program with
  | done value => exact hpass.elim
  | edit body next ih =>
    obtain ⟨m, rfl⟩ | ⟨b, hlater⟩ := hpass
    · exact ⟨_, body, m, h.1, rfl⟩
    · exact ih b (h.2 b) hlater
  | announce event next ih => exact ih h hpass
  | draw body next ih =>
    obtain ⟨b, hlater⟩ := hpass
    exact ih b (h b) hlater
  | request call next ih =>
    obtain ⟨reply, hlater⟩ := hpass
    exact ih reply (h.2 reply) hlater
  | store body next ih =>
    obtain ⟨b, hlater⟩ := hpass
    exact ih b (h b) hlater
  | abort fault => exact hpass.elim

/-- A section stays within a scope that allows it. -/
theorem within_atomically {body : Edit R α} (h : scope.edits body) :
    (atomically body : Program R σ α).Within scope :=
  ⟨h, fun _ => trivial⟩

theorem within_read (f : Canvas R → α) : (read f : Program R σ α).Within scope :=
  ⟨scope.looks f, fun _ => trivial⟩

theorem within_tell (event : Event R) : (tell event : Program R σ Unit).Within scope := trivial

theorem within_fresh (body : Drawing α) : (fresh body : Program R σ α).Within scope :=
  fun _ => trivial

/-- So does a request that it allows. -/
theorem within_send {call : Request R} (h : scope.requests call) :
    (send call : Program R σ _).Within scope :=
  ⟨h, fun _ => trivial⟩

theorem within_access (body : σ → α × σ) : (access body : Program R σ α).Within scope :=
  fun _ => trivial

/-- **Staying within a scope is shown along the text.** -/
theorem closed_within : Closed scope.requests (Within (σ := σ) scope) where
  pure := within_pure
  bind := Within.bind
  read := within_read
  fresh := within_fresh
  send := within_send
  notify _ _ := within_tell _
  consult _ := within_access _

end Program

/-- The same of a program that may fail. -/
def Attempt.Within (scope : Scope R) (attempt : Attempt R σ α) : Prop :=
  Program.Within scope attempt.run

namespace Attempt

theorem Within.bind {attempt : Attempt R σ α} {f : α → Attempt R σ β} (h : attempt.Within scope)
    (hf : ∀ a, (f a).Within scope) : (attempt >>= f).Within scope :=
  Program.closed_within.attempt h hf

theorem within_always {program : Program R σ α} (h : program.Within scope) :
    (always program).Within scope :=
  Program.Within.bind h fun _ => Program.within_pure _

theorem within_atomically {body : Edit R α} (h : scope.edits body) :
    (atomically body : Attempt R σ α).Within scope :=
  within_always (Program.within_atomically h)

theorem within_tell (event : Event R) : (tell event : Attempt R σ Unit).Within scope :=
  within_always (Program.within_tell event)

theorem within_access (body : σ → α × σ) : (access body : Attempt R σ α).Within scope :=
  within_always (Program.within_access body)

end Attempt

/-! ## Scopes -/

namespace Scope

/-- Nothing is done to the graph but moves. -/
def moving [Scalar R] : Scope R :=
  ⟨Edit.Evolves, fun _ => True, fun f => (Edit.quiet_read f).steady.evolves⟩

/-- The same, and the restore guard is left alone. -/
def steady [Scalar R] : Scope R :=
  ⟨Edit.Steady, fun _ => True, fun f => (Edit.quiet_read f).steady⟩

/-- Nothing is done to the graph, and nothing asked for that is. -/
def aside : Scope R :=
  ⟨Edit.Aside, fun call => call.isAimed = false, fun f => (Edit.quiet_read f).aside⟩

end Scope

/-- What is steady makes moves. -/
theorem Program.Within.moving [Scalar R] {program : Program R σ α} (h : program.Within .steady) :
    program.Within .moving :=
  h.mono (fun _ hbody => Edit.Steady.evolves hbody) fun _ _ => trivial

/-- What is aside is steady. -/
theorem Program.Within.steady [Scalar R] {program : Program R σ α} (h : program.Within .aside) :
    program.Within .steady :=
  h.mono (fun _ hbody => Edit.Aside.steady hbody) fun _ _ => trivial

theorem Attempt.Within.steady [Scalar R] {attempt : Attempt R σ α} (h : attempt.Within .aside) :
    attempt.Within .steady :=
  Program.Within.steady h

end NodeCanvas
