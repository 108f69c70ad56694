import NodeCanvas.Proofs.Comparison
import NodeCanvas.Proofs.Operation
import NodeCanvas.Client.Debug
import Mathlib.Data.List.Chain
/-!
# The log of a debug session

Every result of a step arrives twice, with the answer to the request and as a push, and an arrival
that looks like the last entry of the log is taken for the second of the two. `Arriving` follows
this for any kind of entry: what was produced, what is logged, and what is still on its way. If
nothing is produced while something is on its way, the log is right; the first time that something
is, the log gets entries that it never loses again (`Arriving.produce`), because an arrival can only
lengthen a log that is ahead of another (`Leads.logArrival`).

`World.log_eq_results_iff` says this of the client and its backend: once everything is delivered,
the log lists the results of the steps exactly if no two in a row look alike and no step was made
too early. `World.early_step_logged_twice` has two steps that fill the log with four entries.
-/

namespace NodeCanvas

/-! ## Arrivals -/

section Arrivals

variable {α : Type} [BEq α] {log log' : List α} {a : α} {b : α}

/-- The log after one more arrival: one that repeats the last entry is not logged. -/
def logArrival (log : List α) (a : α) : List α :=
  if log.getLast?.any (· == a) then log else log ++ [a]

/-- No entry repeats the one before it. -/
def Unrepeated (log : List α) : Prop := log.IsChain fun a b => (a == b) = false

/-- The last entry is equal to `a`. -/
def EndsLike (log : List α) (a : α) : Prop := ∃ b ∈ log.getLast?, (b == a) = true

theorem any_getLast?_iff : log.getLast?.any (· == a) = true ↔ EndsLike log a := by
  rw [Option.any_eq_true]
  rfl

theorem logArrival_of_endsLike (h : EndsLike log a) :
    logArrival log a = log := if_pos (any_getLast?_iff.2 h)

theorem logArrival_of_not_endsLike (h : ¬ EndsLike log a) :
    logArrival log a = log ++ [a] := if_neg fun hany => h (any_getLast?_iff.1 hany)

theorem endsLike_concat : EndsLike (log ++ [b]) a ↔ (b == a) = true := by
  simp [EndsLike]

theorem unrepeated_concat : Unrepeated (log ++ [a]) ↔ Unrepeated log ∧ ¬ EndsLike log a := by
  simp [Unrepeated, EndsLike, List.isChain_append]

theorem length_logArrival (log : List α) (a : α) :
    log.length ≤ (logArrival log a).length ∧ (logArrival log a).length ≤ log.length + 1 := by
  unfold logArrival
  split
  · omega
  · rw [List.length_append, List.length_singleton]
    omega

theorem mem_logArrival (h : b ∈ log) : b ∈ logArrival log a := by
  unfold logArrival
  split
  · exact h
  · exact List.mem_append_left _ h

theorem Unrepeated.logArrival (h : Unrepeated log) (a : α) : Unrepeated (logArrival log a) := by
  by_cases ha : EndsLike log a
  · rwa [logArrival_of_endsLike ha]
  · rw [logArrival_of_not_endsLike ha]
    exact unrepeated_concat.2 ⟨h, ha⟩

/-- The second log is longer, or as long and ends alike. -/
def Leads (log log' : List α) : Prop :=
  log.length < log'.length ∨
    log.length ≤ log'.length ∧ ∀ a, EndsLike log a ↔ EndsLike log' a

theorem Leads.length_le (h : Leads log log') : log.length ≤ log'.length := by
  rcases h with h | h
  · omega
  · exact h.1

theorem leads_logArrival (log : List α) (a : α) : Leads log (logArrival log a) := by
  by_cases h : EndsLike log a
  · rw [logArrival_of_endsLike h]
    exact .inr ⟨Nat.le_refl _, fun _ => Iff.rfl⟩
  · rw [logArrival_of_not_endsLike h]
    exact .inl (by rw [List.length_append, List.length_singleton]; omega)

variable [EquivBEq α]

/-- After an arrival the log ends like it. -/
theorem endsLike_logArrival : EndsLike (logArrival log a) b ↔ (a == b) = true := by
  by_cases h : EndsLike log a
  · rw [logArrival_of_endsLike h]
    obtain ⟨c, hc, hca⟩ := h
    constructor
    · rintro ⟨d, hd, hdb⟩
      cases Option.mem_unique hc hd
      exact BEq.trans (BEq.symm hca) hdb
    · intro hab
      exact ⟨c, hc, BEq.trans hca hab⟩
  · rw [logArrival_of_not_endsLike h, endsLike_concat]

/-- An arrival at both keeps this: it adds at most one entry, and then both end with it. -/
theorem Leads.logArrival (h : Leads log log') (a : α) :
    Leads (logArrival log a) (logArrival log' a) := by
  have hends : ∀ b, EndsLike (NodeCanvas.logArrival log a) b ↔
      EndsLike (NodeCanvas.logArrival log' a) b := fun b =>
    endsLike_logArrival.trans endsLike_logArrival.symm
  have hlog := length_logArrival log a
  have hlog' := length_logArrival log' a
  rcases h with hlonger | ⟨hle, hsame⟩
  · exact .inr ⟨by omega, hends⟩
  · refine .inr ⟨?_, hends⟩
    by_cases ha : EndsLike log a
    · rw [logArrival_of_endsLike ha]
      omega
    · rw [logArrival_of_not_endsLike ha, logArrival_of_not_endsLike fun h => ha ((hsame a).2 h),
        List.length_append, List.length_append]
      omega

theorem Leads.arrivals (h : Leads log log') (queue : List α) :
    Leads (queue.foldl NodeCanvas.logArrival log) (queue.foldl NodeCanvas.logArrival log') := by
  induction queue generalizing log log' with
  | nil => exact h
  | cons a queue ih => exact ih (h.logArrival a)

/-- What has been produced, what of it is logged, and what is on its way to arrive a second time.
`inTurn` says that nothing was produced while something was on its way. -/
structure Arriving (inTurn : Prop) (produced logged queued : List α) : Prop where
  unrepeated : Unrepeated logged
  /-- What is on its way was produced last. -/
  suffix : queued <:+ produced
  /-- Nothing is lost. -/
  kept : ∀ a ∈ produced, ∃ b ∈ logged, (b == a) = true
  /-- Once all has arrived the log ends with what was produced last. -/
  ends : ∀ a, EndsLike (queued.foldl logArrival logged) a ↔ EndsLike produced a
  exact : Unrepeated produced → inTurn → logged = produced ∧ queued.length ≤ 1
  /-- Otherwise there will be too many entries. -/
  more : Unrepeated produced → ¬ inTurn →
    produced.length < (queued.foldl logArrival logged).length

namespace Arriving

variable {inTurn : Prop} {produced logged queued : List α} {a : α}

omit [EquivBEq α] in
theorem of_iff {inTurn' : Prop} (h : Arriving inTurn produced logged queued)
    (hiff : inTurn ↔ inTurn') : Arriving inTurn' produced logged queued :=
  propext hiff ▸ h

omit [EquivBEq α] in
theorem start : Arriving True ([] : List α) [] [] where
  unrepeated := .nil
  suffix := List.suffix_rfl
  kept _ h := by cases h
  ends _ := Iff.rfl
  exact _ _ := ⟨rfl, Nat.zero_le _⟩
  more _ h := (h trivial).elim

/-- The oldest of what is on its way arrives. -/
theorem deliver (h : Arriving inTurn produced logged (a :: queued)) :
    Arriving inTurn produced (logArrival logged a) queued where
  unrepeated := h.unrepeated.logArrival a
  suffix := (List.suffix_cons a queued).trans h.suffix
  kept b hb := by
    obtain ⟨c, hc, hcb⟩ := h.kept b hb
    exact ⟨c, mem_logArrival hc, hcb⟩
  ends := h.ends
  exact hchain hturn := by
    obtain ⟨rfl, hone⟩ := h.exact hchain hturn
    obtain rfl : queued = [] := by
      rw [List.length_cons] at hone
      exact List.length_eq_zero_iff.1 (by omega)
    -- It is the last that was produced, so it is logged already.
    obtain ⟨before, rfl⟩ := h.suffix
    exact ⟨logArrival_of_endsLike (endsLike_concat.2 BEq.rfl), Nat.zero_le _⟩
  more := h.more

/-- Something more is produced: it arrives at once, and once more later. -/
theorem produce (h : Arriving inTurn produced logged queued) (a : α) :
    Arriving (inTurn ∧ queued = []) (produced ++ [a]) (logArrival logged a) (queued ++ [a]) where
  unrepeated := h.unrepeated.logArrival a
  suffix := by
    obtain ⟨before, rfl⟩ := h.suffix
    exact ⟨before, by rw [List.append_assoc]⟩
  kept b hb := by
    rcases List.mem_append.1 hb with hb | hb
    · obtain ⟨c, hc, hcb⟩ := h.kept b hb
      exact ⟨c, mem_logArrival hc, hcb⟩
    · obtain rfl := List.mem_singleton.1 hb
      have hend : EndsLike (logArrival logged b) b := endsLike_logArrival.2 BEq.rfl
      obtain ⟨c, hlast, hcb⟩ := hend
      exact ⟨c, List.mem_of_getLast? hlast, hcb⟩
  ends b := by
    rw [List.foldl_append, List.foldl_cons, List.foldl_nil, endsLike_logArrival, endsLike_concat]
  exact hchain hturn := by
    obtain ⟨hproduced, hnew⟩ := unrepeated_concat.1 hchain
    obtain ⟨hturn, rfl⟩ := hturn
    obtain ⟨rfl, -⟩ := h.exact hproduced hturn
    exact ⟨logArrival_of_not_endsLike hnew, Nat.le_refl 1⟩
  more hchain hturn := by
    obtain ⟨hproduced, hnew⟩ := unrepeated_concat.1 hchain
    rw [List.foldl_append, List.foldl_cons, List.foldl_nil, List.length_append,
      List.length_singleton]
    rcases List.eq_nil_or_concat' queued with rfl | ⟨before, q, rfl⟩
    -- Nothing was on its way, so the log was too long before.
    · have hlonger := h.more hproduced fun hin => hturn ⟨hin, rfl⟩
      have hnew' : ¬ EndsLike logged a := fun hend => hnew ((h.ends a).1 hend)
      have hlength := length_logArrival (logArrival logged a) a
      rw [List.foldl_nil] at hlonger ⊢
      rw [logArrival_of_not_endsLike hnew'] at hlength ⊢
      rw [List.length_append, List.length_singleton] at hlength
      omega
    -- What was on its way ends alike for both, so `a` is logged a second time after it.
    · have hleads := (leads_logArrival logged a).arrivals (before ++ [q])
      have hlast : ¬ EndsLike ((before ++ [q]).foldl logArrival (logArrival logged a)) a := by
        intro hend
        refine hnew ((h.ends a).1 ?_)
        rw [List.foldl_append, List.foldl_cons, List.foldl_nil, endsLike_logArrival] at hend ⊢
        exact hend
      rw [logArrival_of_not_endsLike hlast, List.length_append, List.length_singleton]
      suffices hlonger : produced.length <
          ((before ++ [q]).foldl logArrival (logArrival logged a)).length by omega
      by_cases hin : inTurn
      -- So far everything was in turn: `a` is logged between the two arrivals of `q`.
      · obtain ⟨rfl, hone⟩ := h.exact hproduced hin
        obtain rfl : before = [] := by
          rw [List.length_append, List.length_singleton] at hone
          exact List.length_eq_zero_iff.1 (by omega)
        have hlength := length_logArrival (logArrival logged a) q
        rw [logArrival_of_not_endsLike hnew, List.length_append, List.length_singleton] at hlength
        rw [List.nil_append, List.foldl_cons, List.foldl_nil, logArrival_of_not_endsLike hnew]
        omega
      · exact Nat.lt_of_lt_of_le (h.more hproduced hin) hleads.length_le

omit [EquivBEq α] in
/-- Once all has arrived, the log lists what was produced exactly if nothing repeats what was before
it and nothing was produced too early. -/
theorem logged_eq_iff (h : Arriving inTurn produced logged []) :
    logged = produced ↔ Unrepeated produced ∧ inTurn := by
  constructor
  · rintro rfl
    refine ⟨h.unrepeated, ?_⟩
    by_contra hturn
    exact Nat.lt_irrefl _ (h.more h.unrepeated hturn)
  · rintro ⟨hchain, hturn⟩
    exact (h.exact hchain hturn).1

end Arriving

end Arrivals

/-! ## Logs of steps -/

/-- What a log shows of a result. -/
abbrev StepContent := Option NodeId × StepStatus × Json

def StepResult.content (result : StepResult) : StepContent :=
  (result.node, result.status, result.result)

/-- The log that shows these contents in order. -/
def stepLog (contents : List StepContent) : List StepRecord :=
  contents.mapIdx fun index content => ⟨index, content.1, content.2.1, content.2.2⟩

theorem stepLog_injective {xs ys : List StepContent} (h : stepLog xs = stepLog ys) : xs = ys := by
  refine List.ext_getElem? fun i => ?_
  have hi : (stepLog xs)[i]? = (stepLog ys)[i]? := by rw [h]
  rw [stepLog, stepLog, List.getElem?_mapIdx, List.getElem?_mapIdx] at hi
  refine Option.map_injective ?_ hi
  rintro ⟨n, s, r⟩ ⟨n', s', r'⟩ heq
  cases heq
  rfl

/-- The test for a second arrival looks at what the log shows. -/
theorem isRepeated_eq (contents : List StepContent) (result : StepResult) :
    (stepLog contents).getLast?.any (·.isResult result) =
      contents.getLast?.any (· == result.content) := by
  rw [stepLog, List.getLast?_mapIdx, Option.any_map]
  congr 1
  funext content
  exact Bool.and_assoc _ _ _

/-- An arrival is logged in its session, unless it repeats the last one. -/
theorem DebugSessions.recordStep_eq {d : DebugSessions} {id : SessionId} {session : DebugSession}
    {contents : List StepContent} (hsession : d.session? id = some session)
    (hsteps : session.steps = stepLog contents) (result : StepResult) :
    d.recordStep id result =
      if contents.getLast?.any (· == result.content) then (d, false)
      else
        ({ sessions := d.sessions.insert id (session.addStep result)
           shared := d.shared.publish id result.written }, true) := by
  unfold recordStep
  rw [hsession, ← isRepeated_eq, ← hsteps]

theorem DebugSession.steps_addStep {session : DebugSession} {contents : List StepContent}
    (hsteps : session.steps = stepLog contents) (result : StepResult) :
    (session.addStep result).steps = stepLog (contents ++ [result.content]) := by
  rw [addStep, hsteps, stepLog, stepLog, List.mapIdx_concat, List.length_mapIdx]
  rfl

/-! ## Steps of a session -/

section Run

variable {R : Type} [Scalar R] {id : SessionId}

/-- The client has logged these contents of a session. -/
def Canvas.Logs (c : Canvas R) (id : SessionId) (contents : List StepContent) : Prop :=
  ∃ session, c.debug.session? id = some session ∧ session.steps = stepLog contents

omit [Scalar R] in
theorem Canvas.Logs.applyDebugStep {c : Canvas R} {contents : List StepContent}
    (h : c.Logs id contents) (result : StepResult) (now : Instant) :
    (c.applyDebugStep id result now).1.Logs id (logArrival contents result.content) := by
  obtain ⟨session, hsession, hsteps⟩ := h
  unfold Canvas.applyDebugStep logArrival
  rw [DebugSessions.recordStep_eq hsession hsteps]
  by_cases hlast : contents.getLast?.any (· == result.content) = true
  · rw [if_pos hlast, if_pos hlast]
    exact ⟨session, hsession, hsteps⟩
  · rw [if_neg hlast, if_neg hlast]
    exact ⟨session.addStep result, Table.get?_insert_self ..,
      DebugSession.steps_addStep hsteps result⟩

omit [Scalar R] in
/-- A step that the backend makes is answered with the result that it announces. -/
theorem Backend.stepSession_eq_ok {b : Backend R}
    {done : Accepted R StepResponse} (h : b.stepSession id = .ok done) :
    done.pushes = [.debugStepExecuted id done.reply.result] := by
  obtain ⟨_, -, h⟩ := findSession_bind_eq_ok h
  cases h
  rfl

namespace Client

variable {w : LocalWorld R}

theorem requireSession_ends {id : SessionId} {session : DebugSession}
    {post : Except ClientError Unit → LocalWorld R → Prop}
    (hsession : w.canvas.debug.session? id = some session) :
    (requireSession id : Attempt R MemoryStore Unit).Ends Link.handle w post ↔ post (.ok ()) w := by
  refine Attempt.ends_look (.ok ()) ?_
  simp only [bind, Edit.read, hsession]
  rfl

theorem changeSessions_ends {change : Edit R Bool}
    {post : Except ClientError Unit → LocalWorld R → Prop}
    (h : ∀ events, post (.ok ())
      { w with canvas := (change w.moment w.canvas).canvas, events }) :
    (changeSessions change : Attempt R MemoryStore Unit).Ends Link.handle w post := by
  rw [changeSessions, Attempt.ends_bind, Attempt.ends_atomically]
  dsimp only
  split
  · exact Attempt.ends_tell.2 (h _)
  · exact Attempt.ends_pure.2 (h _)

theorem stepSession_ends {id : SessionId} (kind : StepKind)
    {contents : List StepContent} (hlogs : w.canvas.Logs id contents)
    (hsub : w.remote.subscribed = true) :
    (stepSession id kind : Attempt R MemoryStore StepResult).Ends Link.handle w fun result w' =>
      w'.remote.subscribed = true ∧
      ((∃ cause, result = .error cause ∧ w'.canvas = w.canvas ∧
          w'.remote.pushes = w.remote.pushes) ∨
        ∃ r, result = .ok r ∧ w'.canvas.Logs id (logArrival contents r.content) ∧
          w'.remote.pushes = w.remote.pushes ++ [.debugStepExecuted id r]) := by
  have ⟨session, hsession, _⟩ := hlogs
  rw [stepSession, Attempt.ends_bind, requireSession_ends hsession]
  dsimp only
  rw [Attempt.ends_bind]
  refine Attempt.ends_ask_link hsub (fun cause b' event _ => ⟨hsub, .inl ⟨_, rfl, rfl, rfl⟩⟩)
    fun done hperform _ _ => ?_
  have hpushes := Backend.stepSession_eq_ok hperform
  dsimp only
  rw [Attempt.ends_bind]
  refine changeSessions_ends fun events => Attempt.ends_pure.2 ?_
  refine ⟨hsub, .inr ⟨done.reply.result, rfl, ?_, ?_⟩⟩
  · exact hlogs.applyDebugStep done.reply.result w.moment.now
  · exact congrArg _ hpushes

end Client

theorem Canvas.Logs.applyPush {c : Canvas R} {contents : List StepContent}
    (h : c.Logs id contents) (result : StepResult) (m : Moment) :
    (Client.applyChange (.debugStepExecuted id result) m c).canvas.Logs id
      (logArrival contents result.content) := by
  change (Edit.sessionsChanged _ m (c.applyDebugStep id result m.now).1).canvas.Logs id _
  rw [Edit.canvas_sessionsChanged]
  exact h.applyDebugStep result m.now

/-! ## Turns and runs -/

/-- What can happen while a session is stepped through. -/
inductive StepTurn where
  /-- The client makes a step and waits for its result. -/
  | step (kind : StepKind)
  /-- The result of a coming step is laid down on the backend. -/
  | script (result : StepResult)
  /-- The oldest push that is queued, if there is one, is delivered. -/
  | deliver

namespace World

/-- The result that a turn brought, if it was a step that succeeded, and the world after it. -/
def takeTurn (id : SessionId) (w : LocalWorld R) :
    StepTurn → Except OverlayFault (List StepResult × LocalWorld R)
  | .step kind => do
    let (result, w) ← w.run (Client.stepSession id kind : Attempt R MemoryStore StepResult).run
    return (result.toOption.toList, w)
  | .script result =>
    .ok ([], { w with remote := { w.remote with
      backend := w.remote.backend.scriptStep id result } })
  | .deliver => do return ([], (← w.pump (some 1)).2)

/-- All results of several turns, in order. -/
def takeTurns (id : SessionId) (w : LocalWorld R) :
    List StepTurn → Except OverlayFault (List StepResult × LocalWorld R)
  | [] => .ok ([], w)
  | turn :: turns => do
    let (result, w) ← w.takeTurn id turn
    let (results, w) ← w.takeTurns id turns
    return (result ++ results, w)

/-- No step succeeds while a push is still to be delivered. -/
def StepsInTurn (id : SessionId) (w : LocalWorld R) : List StepTurn → Prop
  | [] => True
  | turn :: turns => ∀ result w', w.takeTurn id turn = .ok (result, w') →
    (result ≠ [] → w.remote.pushes = []) ∧ w'.StepsInTurn id turns

/-- What a run keeps: the results so far, and how far they have got. -/
structure Steps (w : LocalWorld R) (id : SessionId) (inTurn : Prop)
    (results : List StepResult) : Prop where
  subscribed : w.remote.subscribed = true
  arriving : ∃ (logged : List StepContent) (queued : List StepResult), w.canvas.Logs id logged ∧
    w.remote.pushes = queued.map (.debugStepExecuted id) ∧
    Arriving inTurn (results.map (·.content)) logged (queued.map (·.content))

variable {w : LocalWorld R} {id : SessionId} {inTurn : Prop} {results : List StepResult}

/-- A turn brings no result, or one that was produced in turn exactly if no push was queued. -/
theorem Steps.takeTurn (h : w.Steps id inTurn results) (turn : StepTurn) :
    ∃ result w', w.takeTurn id turn = .ok (result, w') ∧
      w'.Steps id (inTurn ∧ (result ≠ [] → w.remote.pushes = [])) (results ++ result) := by
  obtain ⟨logged, queued, hlogs, hpushes, harriving⟩ := h.arriving
  have hnone : inTurn ↔ inTurn ∧ (([] : List StepResult) ≠ [] → w.remote.pushes = []) :=
    ⟨fun hin => ⟨hin, fun hne => (hne rfl).elim⟩, And.left⟩
  cases turn with
  | step kind =>
    obtain ⟨result, w', hrun, hsub, hresult⟩ := Client.stepSession_ends kind hlogs h.subscribed
    refine ⟨result.toOption.toList, w', ?_, hsub, ?_⟩
    · rw [World.takeTurn, World.run, hrun]
      rfl
    · obtain ⟨cause, rfl, hcanvas, hqueue⟩ | ⟨r, rfl, hlogs', hqueue⟩ := hresult
      · refine ⟨logged, queued, hcanvas ▸ hlogs, hqueue.trans hpushes, ?_⟩
        rw [Except.toOption, Option.toList, List.append_nil]
        exact harriving.of_iff hnone
      · refine ⟨_, queued ++ [r], hlogs', ?_, ?_⟩
        · rw [hqueue, hpushes, List.map_append]
          rfl
        · have hempty : queued.map (·.content) = [] ↔ ([r] ≠ [] → w.remote.pushes = []) := by
            simp [hpushes]
          rw [List.map_append, List.map_append]
          exact (harriving.produce r.content).of_iff (and_congr_right fun _ => hempty)
  | script result =>
    refine ⟨[], _, rfl, h.subscribed, logged, queued, hlogs, hpushes, ?_⟩
    rw [List.append_nil]
    exact harriving.of_iff hnone
  | deliver =>
    cases queued with
    | nil =>
      refine ⟨[], w, ?_, h.subscribed, logged, [], hlogs, hpushes, ?_⟩
      · rw [World.takeTurn, pump_one_nil hpushes]
        rfl
      · rw [List.append_nil]
        exact harriving.of_iff hnone
    | cons r queued =>
      let rest : List (PushEvent R) := queued.map (.debugStepExecuted id)
      refine ⟨[], World.after { w with remote := { w.remote with pushes := rest } }
        (Client.applyChange (.debugStepExecuted id r) w.moment w.canvas), ?_, h.subscribed,
        logArrival logged r.content, queued, hlogs.applyPush r w.moment, rfl, ?_⟩
      · rw [World.takeTurn, pump_one_cons hpushes trivial]
        rfl
      · rw [List.append_nil]
        exact harriving.deliver.of_iff hnone

theorem stepsInTurn_cons {turn : StepTurn} {turns : List StepTurn} {result : List StepResult}
    {w' : LocalWorld R} (h : w.takeTurn id turn = .ok (result, w')) :
    w.StepsInTurn id (turn :: turns) ↔
      (result ≠ [] → w.remote.pushes = []) ∧ w'.StepsInTurn id turns := by
  rw [StepsInTurn, h]
  constructor
  · intro hall
    exact hall result w' rfl
  · rintro hrest result' w'' heq
    cases heq
    exact hrest

theorem Steps.takeTurns (h : w.Steps id inTurn results) (turns : List StepTurn) :
    ∃ more w', w.takeTurns id turns = .ok (more, w') ∧
      w'.Steps id (inTurn ∧ w.StepsInTurn id turns) (results ++ more) := by
  induction turns generalizing w inTurn results with
  | nil =>
    refine ⟨[], w, rfl, ?_⟩
    rw [List.append_nil, StepsInTurn, and_true]
    exact h
  | cons turn turns ih =>
    obtain ⟨result, w', hturn, h'⟩ := h.takeTurn turn
    obtain ⟨more, w'', hturns, h''⟩ := ih h'
    refine ⟨result ++ more, w'', ?_, ?_⟩
    · rw [World.takeTurns, hturn]
      change (w'.takeTurns id turns >>= fun rest => _) = _
      rw [hturns]
      rfl
    · rw [stepsInTurn_cons hturn, ← and_assoc, ← List.append_assoc]
      exact h''

/-- **When every step is logged once.** Let a session be stepped through whose log is empty, with
pushes delivered in between. No result is ever lost. Once all pushes are delivered, the log lists
exactly the results of the steps, in order, if and only if no result looks like the one before it
and no step was made while a push was still to be delivered. -/
theorem log_eq_results_iff (w : LocalWorld R) {id : SessionId} {session : DebugSession}
    (hsession : w.canvas.debug.session? id = some session) (hsteps : session.steps = [])
    (hpushes : w.remote.pushes = []) (hsubscribed : w.remote.subscribed = true)
    (turns : List StepTurn) :
    ∃ results w' session', w.takeTurns id turns = .ok (results, w') ∧
      w'.canvas.debug.session? id = some session' ∧
      (∀ result ∈ results, ∃ step ∈ session'.steps, step.isResult result = true) ∧
      (w'.remote.pushes = [] →
        (session'.steps = stepLog (results.map (·.content)) ↔
          results.IsChain (fun a b => (a.content == b.content) = false) ∧
            w.StepsInTurn id turns)) := by
  have hstart : w.Steps id True [] :=
    ⟨hsubscribed, [], [], ⟨session, hsession, hsteps⟩, hpushes, .start⟩
  obtain ⟨results, w', hrun, -, logged, queued, ⟨session', hsession', hsteps'⟩, hpushes',
    harriving⟩ := hstart.takeTurns turns
  rw [List.nil_append, true_and] at harriving
  refine ⟨results, w', session', hrun, hsession', fun result hresult => ?_, fun hempty => ?_⟩
  · obtain ⟨content, hcontent, heq⟩ := harriving.kept _ (List.mem_map_of_mem hresult)
    obtain ⟨i, hi, rfl⟩ := List.getElem_of_mem hcontent
    rw [hsteps']
    refine ⟨_, List.mem_mapIdx.2 ⟨i, hi, rfl⟩, ?_⟩
    exact (Bool.and_assoc _ _ _).trans heq
  · obtain rfl : queued = [] := List.map_eq_nil_iff.1 (hpushes'.symm.trans hempty)
    have hchain : Unrepeated (results.map (·.content)) ↔
        results.IsChain fun a b => (a.content == b.content) = false := List.isChain_map _
    rw [hsteps', ← hchain]
    exact Iff.trans ⟨stepLog_injective, congrArg stepLog⟩ harriving.logged_eq_iff

/-- A client that has just created a session. -/
def steppingWorld : LocalWorld Rat :=
  let w := (Session.initial {} .counting ⟨0, 0⟩ : Session Rat).world
  match w.run (Client.createSession [] ∅ : Attempt Rat MemoryStore SessionId).run with
  | .ok (_, w) => w
  | .error _ => w

/-- The session that it has created. -/
def steppingId : SessionId := "00000000-0000-4000-8000-000000000001"

/-- Three steps, each delivered before the next, of which the last is like the first. -/
def stepsInTurn : List StepTurn :=
  [.script { node := some "a" }, .script { node := some "b" }, .script { node := some "a" },
    .step .next, .deliver, .step .next, .deliver, .step .next, .deliver]

theorem log_eq_results_iff_stepping :
    ∃ results w' session', steppingWorld.takeTurns steppingId stepsInTurn = .ok (results, w') ∧
      w'.canvas.debug.session? steppingId = some session' ∧ w'.remote.pushes.length = 0 ∧
      results.map (·.node) = [some "a", some "b", some "a"] ∧
      session'.steps.map (·.node) = [some "a", some "b", some "a"] ∧
      (session'.steps = stepLog (results.map (·.content)) ↔
        results.IsChain (fun a b => (a.content == b.content) = false) ∧
          steppingWorld.StepsInTurn steppingId stepsInTurn) := by
  have hsession : steppingWorld.canvas.debug.session? steppingId =
      some { id := steppingId, state := .created, nodes := [] } := by
    rfl
  have hends : (steppingWorld.takeTurns steppingId stepsInTurn).toOption.map (fun run =>
      (run.2.remote.pushes.length, run.1.map (·.node),
        (run.2.canvas.debug.session? steppingId).map fun session => session.steps.map (·.node))) =
      some (0, [some "a", some "b", some "a"], some [some "a", some "b", some "a"]) := by
    decide +kernel
  obtain ⟨results, w', session', hrun, hsession', -, hiff⟩ := log_eq_results_iff steppingWorld
    hsession rfl rfl rfl stepsInTurn
  rw [hrun, Except.toOption, Option.map_some, hsession'] at hends
  simp only [Option.some.injEq, Prod.mk.injEq, Option.map_some] at hends
  obtain ⟨hpushes, hresults, hlog⟩ := hends
  exact ⟨results, w', session', hrun, hsession', hpushes, hresults, hlog,
    hiff (List.eq_nil_of_length_eq_zero hpushes)⟩

/-- Two steps before the first push is delivered are logged twice each. -/
theorem early_step_logged_twice :
    ((steppingWorld.takeTurns steppingId
      [.script { node := some "a" }, .script { node := some "b" }, .step .next, .step .next,
        .deliver, .deliver]).toOption.map fun run =>
          (run.2.remote.pushes.length, run.1.map (·.node),
            (run.2.canvas.debug.session? steppingId).map fun session =>
              session.steps.map (·.node))) =
      some (0, [some "a", some "b"], some [some "a", some "b", some "a", some "b"]) := by
  decide +kernel

end World

end Run

end NodeCanvas
