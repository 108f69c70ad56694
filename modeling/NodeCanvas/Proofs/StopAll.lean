import NodeCanvas.Proofs.HighlightLifetime
import NodeCanvas.Proofs.Program
import NodeCanvas.Client.Debug
/-!
# Stopping all debug sessions

Each session is asked to stop on its own, whatever became of those before it. What the client is
told of one session decides on this session alone: it is forgotten, together with the highlight of
the node that it is at (`Canvas.Forgets`), or it stays as it is and is reported with its error
(`StopAllReport.Sums`). The main statement, `stop_all_one_by_one`, is about any far side, which notes
what it is asked and how it answers.
-/

namespace NodeCanvas

variable {R σ ε : Type}

/-! ## What is asked and answered -/

/-- A request with the answer to it. -/
abbrev Answered (R : Type) : Type := (call : Request R) × Except RequestError call.Reply

/-- A far side that answers in the same way, and notes what it is asked and how it answers. -/
def Answering.noting (answer : Answering R ε) : Answering R (ε × List (Answered R)) :=
  fun call remote =>
    ((answer call remote.1).1, (answer call remote.1).2,
      remote.2 ++ [⟨call, (answer call remote.1).1⟩])

/-- What the client is told when it asks for a session to be stopped. -/
abbrev StopAnswer : Type := SessionId × Except RequestError Unit

namespace StopAnswer

/-- The session is stopped now, or the backend knows of none. -/
def IsGone (answer : StopAnswer) : Prop :=
  answer.2 = .ok () ∨ ∃ refusal, answer.2 = .error (.rejected refusal) ∧ refusal.code = .notFound

/-- The request that is answered so. -/
def answered (answer : StopAnswer) : Answered R := ⟨.stopSession answer.1, answer.2⟩

/-- The error of a session that is not gone. -/
def failure? : StopAnswer → Option (SessionId × RequestError)
  | (_, .ok ()) => none
  | (id, .error cause) => if cause.isNotFound then none else some (id, cause)

/-- What is gone did not fail. -/
theorem isGone_iff {answer : StopAnswer} : answer.IsGone ↔ answer.failure? = none := by
  obtain ⟨id, reply⟩ := answer
  cases reply with
  | ok reply => simp [IsGone, failure?]
  | error cause =>
    cases cause with
    | rejected refusal => simp [IsGone, failure?, RequestError.isNotFound, Refusal.isNotFound]
    | transport reason | malformed reason => simp [IsGone, failure?, RequestError.isNotFound]

/-- Any refusal but that of an unknown session is a failure. -/
theorem failure?_eq_some_iff {answer : StopAnswer} {id : SessionId} {cause : RequestError} :
    answer.failure? = some (id, cause) ↔ answer = (id, .error cause) ∧ ¬ answer.IsGone := by
  rw [isGone_iff]
  obtain ⟨id', reply⟩ := answer
  cases reply with
  | ok reply => simp [failure?]
  | error cause' =>
    cases hfound : cause'.isNotFound <;> simp [failure?, hfound]

end StopAnswer

/-! ## The report -/

namespace StopAllReport

/-- The report of some answers. -/
def ofAnswers (answers : List StopAnswer) : StopAllReport where
  stopped := (answers.filter (·.failure?.isNone)).map (·.1)
  failed := answers.filterMap (·.failure?)

/-- A report sums up some answers: it lists the sessions that are gone and the others, these with
their errors, and every session once. -/
structure Sums (answers : List StopAnswer) (report : StopAllReport) : Prop where
  mem_stopped {id : SessionId} : id ∈ report.stopped ↔ ∃ answer ∈ answers, answer.1 = id ∧ answer.IsGone
  mem_failed {id : SessionId} {cause : RequestError} : (id, cause) ∈ report.failed ↔
    (id, .error cause) ∈ answers ∧ ¬ StopAnswer.IsGone (id, .error cause)
  perm : (report.stopped ++ report.failed.map (·.1)).Perm (answers.map (·.1))

/-- A session that is gone is reported as stopped. -/
theorem ofAnswers_cons_of_isGone {answer : StopAnswer} (h : answer.IsGone)
    (answers : List StopAnswer) : ofAnswers (answer :: answers) =
      { ofAnswers answers with stopped := answer.1 :: (ofAnswers answers).stopped } := by
  simp [ofAnswers, StopAnswer.isGone_iff.1 h]

/-- A failure is reported with its cause. -/
theorem ofAnswers_cons_of_failure {answer : StopAnswer} {failure : SessionId × RequestError}
    (h : answer.failure? = some failure) (answers : List StopAnswer) :
    ofAnswers (answer :: answers) =
      { ofAnswers answers with failed := failure :: (ofAnswers answers).failed } := by
  simp [ofAnswers, h]

/-- A report has every session once. -/
theorem perm_ofAnswers (answers : List StopAnswer) :
    ((ofAnswers answers).stopped ++ (ofAnswers answers).failed.map (·.1)).Perm
      (answers.map (·.1)) := by
  induction answers with
  | nil => exact .refl _
  | cons answer answers ih =>
    cases hfailure : answer.failure? with
    | none =>
      rw [ofAnswers_cons_of_isGone (StopAnswer.isGone_iff.2 hfailure)]
      exact ih.cons answer.1
    | some failure =>
      obtain ⟨id, cause⟩ := failure
      have hid : answer.1 = id := by rw [(StopAnswer.failure?_eq_some_iff.1 hfailure).1]
      rw [ofAnswers_cons_of_failure hfailure, List.map_cons, List.map_cons, hid]
      exact List.perm_middle.trans (ih.cons id)

/-- **The report sums up the answers.** -/
theorem sums_ofAnswers (answers : List StopAnswer) : (ofAnswers answers).Sums answers where
  mem_stopped := by simp [ofAnswers, StopAnswer.isGone_iff]
  mem_failed := by simp [ofAnswers, StopAnswer.failure?_eq_some_iff]
  perm := perm_ofAnswers answers

end StopAllReport

/-! ## Forgotten sessions -/

namespace Overlay

/-- Clearing a node ends its highlight and no other. -/
theorem highlight?_clearNode (o : Overlay R) (cleared node : NodeId) :
    (o.clearNode cleared).highlight? node = if node = cleared then none else o.highlight? node := by
  rw [clearNode, highlight?_releaseCurrent]
  exact Table.get?_erase ..

theorem currentNode_clearNode (o : Overlay R) {cleared node : NodeId} :
    (o.clearNode cleared).currentNode = some node ↔
      o.currentNode = some node ∧ ¬ node = cleared := by
  rw [clearNode, releaseCurrent]
  split <;> grind

end Overlay

namespace Canvas

/-- One of these sessions is at a node. -/
def IsAt (c : Canvas R) (ids : List SessionId) (node : NodeId) : Prop :=
  ∃ id ∈ ids, ∃ session, c.debug.session? id = some session ∧ session.currentNode = some node

/-- These sessions are forgotten, and nothing is shown any more of the nodes that they are at. -/
structure Forgets (c c' : Canvas R) (ids : List SessionId) : Prop where
  session? id : c'.debug.session? id = if id ∈ ids then none else c.debug.session? id
  cleared {node : NodeId} (h : c.IsAt ids node) : c'.overlay.highlight? node = none
  kept {node : NodeId} (h : ¬ c.IsAt ids node) : c'.overlay.highlight? node = c.overlay.highlight? node
  /-- The node that runs now is one of which something is shown. -/
  current {node : NodeId} : c'.overlay.currentNode = some node ↔
    c.overlay.currentNode = some node ∧ ¬ c.IsAt ids node
  rest : ∃ sessions highlights current, c' = { c with
    debug := { c.debug with sessions }
    overlay := { c.overlay with highlights, currentNode := current } }

theorem not_isAt_nil (c : Canvas R) (node : NodeId) : ¬ c.IsAt [] node := by
  rintro ⟨id, hid, -⟩
  cases hid

theorem Forgets.refl (c : Canvas R) : c.Forgets c [] where
  session? id := rfl
  cleared h := absurd h (c.not_isAt_nil _)
  kept _ := rfl
  current := by simp [not_isAt_nil]
  rest := ⟨_, _, _, rfl⟩

/-- What is forgotten adds up. -/
theorem Forgets.trans {c c₁ c₂ : Canvas R} {ids ids' : List SessionId} (h : c.Forgets c₁ ids)
    (h' : c₁.Forgets c₂ ids') : c.Forgets c₂ (ids ++ ids') := by
  -- A session that is forgotten first is at no node later on.
  have hisAt (node : NodeId) : c.IsAt (ids ++ ids') node ↔ c.IsAt ids node ∨ c₁.IsAt ids' node := by
    simp only [IsAt, h.session?]
    grind
  constructor
  · intro id
    rw [h'.session?, h.session?]
    grind
  · intro node hat
    rcases em (c₁.IsAt ids' node) with hlater | hlater
    · exact h'.cleared hlater
    · rw [h'.kept hlater, h.cleared (((hisAt node).1 hat).resolve_right hlater)]
  · intro node hat
    rw [hisAt, not_or] at hat
    rw [h'.kept hat.2, h.kept hat.1]
  · intro node
    rw [h'.current, h.current, hisAt, not_or, and_assoc]
  · obtain ⟨_, _, _, rfl⟩ := h.rest
    obtain ⟨_, _, _, rfl⟩ := h'.rest
    exact ⟨_, _, _, rfl⟩

theorem isAt_singleton_iff {c : Canvas R} {id : SessionId} {session : DebugSession} {node : NodeId}
    (h : c.debug.session? id = some session) :
    c.IsAt [id] node ↔ session.currentNode = some node := by
  simp [IsAt, h]

/-- Removing a session forgets it alone. -/
theorem forgets_removeDebugSession (c : Canvas R) (id : SessionId) :
    c.Forgets (c.removeDebugSession id).1 [id] := by
  cases hsession : c.debug.session? id with
  | none =>
    have hat (node : NodeId) : ¬ c.IsAt [id] node := by simp [IsAt, hsession]
    rw [removeDebugSession, DebugSessions.remove, hsession]
    refine ⟨fun k => ?_, fun h => absurd h (hat _), fun _ => rfl, by simp [hat], _, _, _, rfl⟩
    by_cases hk : k = id <;> simp [hk, hsession]
  | some session =>
    have hgone (k : SessionId) : ({ c.debug with sessions := c.debug.sessions.erase id }).session? k =
        if k ∈ [id] then none else c.debug.session? k := by
      rw [DebugSessions.session?, Table.get?_erase]
      simp [DebugSessions.session?]
    rw [removeDebugSession, DebugSessions.remove, hsession]
    cases hnode : session.currentNode with
    | none =>
      have hat (node : NodeId) : ¬ c.IsAt [id] node := by simp [isAt_singleton_iff hsession, hnode]
      simp only [hnode]
      exact ⟨hgone, fun h => absurd h (hat _), fun _ => rfl, by simp [hat], _, _, _, rfl⟩
    | some cleared =>
      have hat (node : NodeId) : c.IsAt [id] node ↔ node = cleared := by
        rw [isAt_singleton_iff hsession, hnode, Option.some_inj, eq_comm]
      simp only [hnode]
      refine ⟨hgone, fun h => ?_, fun h => ?_, ?_, ?_⟩
      · rw [Overlay.highlight?_clearNode, if_pos ((hat _).1 h)]
      · rw [Overlay.highlight?_clearNode, if_neg fun heq => h ((hat _).2 heq)]
      · intro node
        rw [Overlay.currentNode_clearNode, hat]
      · obtain ⟨current, hcurrent⟩ := Overlay.releaseCurrent_eq
          { c.overlay with highlights := c.overlay.highlights.erase cleared } cleared
        rw [Overlay.clearNode, hcurrent]
        exact ⟨_, _, _, rfl⟩

end Canvas

/-! ## One session after the other -/

namespace Client

variable {answer : Answering R ε} {w w₁ w' : World R σ (ε × List (Answered R))}
  {answers answers' : List StopAnswer}

/-- What is left behind when sessions are asked to stop and these answers come. -/
structure Stops (w w' : World R σ (ε × List (Answered R))) (answers : List StopAnswer) : Prop where
  noted : w'.remote.2 = w.remote.2 ++ answers.map StopAnswer.answered
  canvas : w.canvas.Forgets w'.canvas (StopAllReport.ofAnswers answers).stopped
  rest : ∃ canvas remote, w' = { w with canvas, remote }

theorem stops_nil (w : World R σ (ε × List (Answered R))) : Stops w w [] where
  noted := (List.append_nil _).symm
  canvas := Canvas.Forgets.refl _
  rest := ⟨_, _, rfl⟩

/-- What is stopped adds up. -/
theorem Stops.trans (h : Stops w w₁ answers) (h' : Stops w₁ w' answers') :
    Stops w w' (answers ++ answers') where
  noted := by rw [h'.noted, h.noted, List.append_assoc, List.map_append]
  canvas := by
    have hstopped : (StopAllReport.ofAnswers (answers ++ answers')).stopped =
        (StopAllReport.ofAnswers answers).stopped ++ (StopAllReport.ofAnswers answers').stopped := by
      simp [StopAllReport.ofAnswers]
    rw [hstopped]
    exact h.canvas.trans h'.canvas
  rest := by
    obtain ⟨_, _, rfl⟩ := h.rest
    obtain ⟨_, _, rfl⟩ := h'.rest
    exact ⟨_, _, rfl⟩

/-- The world once a session is asked to stop. -/
def asked (answer : Answering R ε) (w : World R σ (ε × List (Answered R))) (session : SessionId) :
    World R σ (ε × List (Answered R)) :=
  { w with remote := (answer.noting (.stopSession session) w.remote).2 }

/-- What is answered then. -/
def told (answer : Answering R ε) (w : World R σ (ε × List (Answered R))) (session : SessionId) :
    StopAnswer :=
  (session, (answer (.stopSession session) w.remote.1).1)

/-- Nothing is forgotten of a session that failed. -/
theorem stops_asked {session : SessionId} {failure : SessionId × RequestError}
    (h : (told answer w session).failure? = some failure) :
    Stops w (asked answer w session) [told answer w session] where
  noted := rfl
  canvas := by
    rw [StopAllReport.ofAnswers_cons_of_failure h]
    exact Canvas.Forgets.refl _
  rest := ⟨_, _, rfl⟩

/-- A session that is gone is forgotten. -/
theorem stops_forgotten {session : SessionId} (h : (told answer w session).IsGone) :
    Stops w ((asked answer w session).after
      (Edit.apply (·.removeDebugSession session) w.moment w.canvas)) [told answer w session] where
  noted := rfl
  canvas := by
    rw [StopAllReport.ofAnswers_cons_of_isGone h]
    exact w.canvas.forgets_removeDebugSession session
  rest := by
    refine ⟨(w.canvas.removeDebugSession session).1, (asked answer w session).remote, ?_⟩
    simp [World.after, Edit.apply, asked]

/-- **Every session is asked once**, whatever the others answer. -/
theorem ends_stopSessions (sessions : List SessionId) (w : World R σ (ε × List (Answered R))) :
    (stopSessions sessions : Program R σ StopAllReport).Ends answer.noting.handler w
      fun report w' => ∃ answers : List StopAnswer, answers.map (·.1) = sessions ∧
        report = .ofAnswers answers ∧ Stops w w' answers := by
  induction sessions generalizing w with
  | nil =>
    rw [stopSessions]
    exact Program.ends_pure.2 ⟨[], rfl, rfl, stops_nil w⟩
  | cons session sessions ih =>
    have hstopped (hgone : (told answer w session).IsGone) :
        (stopSessions.stopped session sessions : Program R σ _).Ends answer.noting.handler
          (asked answer w session)
          fun report w' => ∃ answers : List StopAnswer, answers.map (·.1) = session :: sessions ∧
            report = .ofAnswers answers ∧ Stops w w' answers := by
      rw [stopSessions.stopped, Program.ends_bind, Program.ends_atomically, Program.ends_bind]
      refine (ih _).mono fun report w' hrest => ?_
      obtain ⟨answers, hasked, hreport, hstops⟩ := hrest
      refine Program.ends_pure.2 ⟨told answer w session :: answers, ?_, ?_, ?_⟩
      · rw [List.map_cons, hasked, told]
      · rw [hreport, StopAllReport.ofAnswers_cons_of_isGone hgone, told]
      · exact (stops_forgotten hgone).trans hstops
    have hreply : (answer.noting (.stopSession session) w.remote).1 = (told answer w session).2 := rfl
    rw [stopSessions, Program.ends_bind, Program.ends_send, hreply]
    cases htold : (told answer w session).2 with
    | ok reply => exact hstopped (.inl htold)
    | error cause =>
      have hfailure : (told answer w session).failure? =
          if cause.isNotFound then none else some (session, cause) := by
        have hpair : told answer w session = (session, .error cause) := Prod.ext rfl htold
        rw [hpair]
        rfl
      dsimp only
      split
      · rename_i hfound
        refine hstopped (StopAnswer.isGone_iff.2 ?_)
        rw [hfailure, if_pos hfound]
      · rename_i hfound
        rw [if_neg hfound] at hfailure
        rw [Program.ends_bind]
        refine (ih (asked answer w session)).mono fun report w' hrest => ?_
        obtain ⟨answers, hasked, hreport, hstops⟩ := hrest
        refine Program.ends_pure.2 ⟨told answer w session :: answers, ?_, ?_, ?_⟩
        · rw [List.map_cons, hasked, told]
        · rw [hreport, StopAllReport.ofAnswers_cons_of_failure hfailure]
        · exact (stops_asked hfailure).trans hstops

end Client

/-! ## All sessions -/

namespace StopAllReport

/-- What subscribers are told of a report: that sessions could not be stopped, if there are such,
and that the sessions have changed, if they have. -/
def news (report : StopAllReport) : List (Event R) :=
  (if report.failed = [] then []
    else [.notification .warning
      (Nat.repr report.failed.length ++ " debug session(s) could not be stopped")]) ++
    if report.stopped = [] then [] else [.debugSessionsChanged]

end StopAllReport

/-- All sessions have been asked to stop, and these answers have come. -/
structure World.StopsAll (w w' : World R σ (ε × List (Answered R))) (answers : List StopAnswer)
    (report : StopAllReport) : Prop where
  /-- Each session is asked once, in ascending order. -/
  asked : answers.map (·.1) = w.canvas.debug.ids
  ascending : w.canvas.debug.ids.Pairwise (· < ·)
  noted : w'.remote.2 = w.remote.2 ++ answers.map StopAnswer.answered
  sums : report.Sums answers
  /-- The sessions that are left are those that could not be stopped. -/
  left id : w'.canvas.debug.session? id =
    if id ∈ report.failed.map (·.1) then w.canvas.debug.session? id else none
  canvas : w.canvas.Forgets w'.canvas report.stopped
  events : w'.events = w.events ++ report.news
  rest : ∃ canvas events remote, w' = { w with canvas, events, remote }

theorem World.StopsAll.of_stops {w w' : World R σ (ε × List (Answered R))}
    {answers : List StopAnswer} (hasked : answers.map (·.1) = w.canvas.debug.ids)
    (h : Client.Stops w w' answers) :
    w.StopsAll { w' with events := w'.events ++ (StopAllReport.ofAnswers answers).news } answers
      (.ofAnswers answers) := by
  have hascending : w.canvas.debug.ids.Pairwise (· < ·) :=
    List.pairwise_map.2 w.canvas.debug.sessions.ascending
  have hsums := StopAllReport.sums_ofAnswers answers
  refine ⟨hasked, hascending, h.noted, hsums, fun id => ?_, h.canvas, ?_, ?_⟩
  · change w'.canvas.debug.session? id = _
    rw [h.canvas.session?]
    have hknown : id ∈ w.canvas.debug.ids ↔ id ∈ (StopAllReport.ofAnswers answers).stopped ∨
        id ∈ (StopAllReport.ofAnswers answers).failed.map (·.1) := by
      rw [← hasked, ← hsums.perm.mem_iff, List.mem_append]
    have hnodup := (hsums.perm.trans (.of_eq hasked)).nodup_iff.2
      (hascending.imp fun hlt => String.ne_of_lt hlt)
    have hapart := (List.nodup_append'.1 hnodup).2.2
    by_cases hfailed : id ∈ (StopAllReport.ofAnswers answers).failed.map (·.1)
    · rw [if_pos hfailed, if_neg fun hstopped => hapart hstopped hfailed]
    · rw [if_neg hfailed]
      split
      · rfl
      · rename_i hstopped
        exact Table.get?_eq_none_iff.2 fun hmem => (hknown.1 hmem).elim hstopped hfailed
  · obtain ⟨canvas, remote, rfl⟩ := h.rest
    rfl
  · obtain ⟨canvas, remote, rfl⟩ := h.rest
    exact ⟨_, _, _, rfl⟩

/-- **Every session is stopped or not on its own account.** Whatever the sessions and however the
far side answers, each session is asked to stop once, in ascending order. It is reported as stopped
if the answer says that it is stopped or that there is no such session, and else as failed, with its
error. Those that failed are the sessions that are left, as they were; nothing is shown any more of
exactly the nodes that the stopped ones are at; there is a warning if some failed, and subscribers
are told of a change if some were stopped. -/
theorem stop_all_one_by_one (answer : Answering R ε) (w : World R σ (ε × List (Answered R))) :
    (Client.stopAllSessions : Program R σ StopAllReport).Ends answer.noting.handler w
      fun report w' => ∃ answers, w.StopsAll w' answers report := by
  rw [Client.stopAllSessions, Program.ends_bind, Program.ends_read, Program.ends_bind]
  refine (Client.ends_stopSessions _ w).mono fun report w' hrest => ?_
  obtain ⟨answers, hasked, hreport, hstops⟩ := hrest
  have hall := World.StopsAll.of_stops hasked hstops
  rw [← hreport] at hall
  have htold (w'' : World R σ (ε × List (Answered R)))
      (h : { w' with events := w'.events ++ report.news } = w'') :
      (pure report : Program R σ StopAllReport).Ends answer.noting.handler w''
        fun report w' => ∃ answers, w.StopsAll w' answers report :=
    Program.ends_pure.2 ⟨answers, h ▸ hall⟩
  have hcomplete : report.isComplete = true ↔ report.failed = [] := List.isEmpty_iff
  have hnone : report.stopped.isEmpty = true ↔ report.stopped = [] := List.isEmpty_iff
  dsimp only
  simp only [hcomplete, hnone]
  by_cases hfailed : report.failed = [] <;> by_cases hstopped : report.stopped = []
  · rw [if_pos hfailed, if_pos hstopped]
    exact htold _ (by simp [StopAllReport.news, hfailed, hstopped])
  · rw [if_pos hfailed, if_neg hstopped, Program.ends_bind, Program.ends_tell]
    exact htold _ (by simp [StopAllReport.news, hfailed, hstopped, World.telling])
  · rw [if_neg hfailed, if_pos hstopped, Program.notify, Program.ends_bind, Program.ends_tell]
    exact htold _ (by simp [StopAllReport.news, hfailed, hstopped, World.telling])
  · rw [if_neg hfailed, if_neg hstopped, Program.notify, Program.ends_bind, Program.ends_tell,
      Program.ends_bind, Program.ends_tell]
    exact htold _ (by simp [StopAllReport.news, hfailed, hstopped, World.telling])

end NodeCanvas
