import NodeCanvas.Proofs.Republish
import NodeCanvas.Proofs.StepLog
/-!
# Who wrote a shared variable last

A step that is recorded binds its variables over whatever they were bound to, and a step that is not
recorded changes nothing. So whatever can be seen of the sessions, the last recorded step that has a
say in it decides (`DebugSessions.see_recordAll`): for a name of the shared namespace that is its
last writer, and for the end of a log the last step of the session.

A result that arrives again is not recorded again, also if another session has written the same
variables in the meantime: they stay as that session has left them.
-/

namespace NodeCanvas

/-! ## Variables of one step -/

namespace SharedNamespace

/-- What a name is bound to, and the session that bound it. -/
def shown (ns : SharedNamespace) (name : String) : Option (Json × SessionId) :=
  (ns.get? name).map Binding.content

/-- A session has bound these variables, and no other binding has changed. -/
structure Binds (ns ns' : SharedNamespace) (session : SessionId) (written : Table Json) : Prop where
  bound {name : String} {value : Json} (h : written.get? name = some value) :
    ns'.shown name = some (value, session)
  kept {name : String} (h : written.get? name = none) : ns'.get? name = ns.get? name

theorem exists_get?_publish (ns : SharedNamespace) (session : SessionId) (written : Table Json)
    (name : String) :
    ∃ number, (ns.publish session written).get? name =
      ((written.get? name).map (⟨·, session, number⟩)).or (ns.get? name) := by
  rw [← Table.ofList_entries written, Table.get?_ofList, Table.ofList_entries, publish]
  induction written.entries using List.reverseRecOn with
  | nil => exact ⟨0, rfl⟩
  | append_singleton entries entry ih =>
    obtain ⟨key, value⟩ := entry
    rw [List.foldl_concat, get?_write, List.reverse_append, List.lookup_append,
      List.reverse_singleton, Table.lookup_cons_eq_ite, List.lookup_nil]
    by_cases hname : name = key
    · rw [if_pos hname, if_pos hname]
      exact ⟨_, rfl⟩
    · rw [if_neg hname, if_neg hname, Option.none_or]
      exact ih

theorem binds_publish (ns : SharedNamespace) (session : SessionId) (written : Table Json) :
    ns.Binds (ns.publish session written) session written where
  bound {name value} h := by
    obtain ⟨number, hget⟩ := ns.exists_get?_publish session written name
    rw [shown, hget, h]
    rfl
  kept {name} h := by
    obtain ⟨number, hget⟩ := ns.exists_get?_publish session written name
    rw [hget, h, Option.map_none, Option.none_or]

theorem Binds.shown_eq {ns ns' : SharedNamespace} {session : SessionId} {written : Table Json}
    (h : ns.Binds ns' session written) (name : String) :
    ns'.shown name = ((written.get? name).map (·, session)).or (ns.shown name) := by
  cases hname : written.get? name with
  | none => rw [shown, h.kept hname, Option.map_none, Option.none_or, shown]
  | some value => rw [h.bound hname, Option.map_some, Option.some_or]

end SharedNamespace

/-! ## One step -/

/-- What is told of a result by the step that logs it. -/
def StepRecord.content (step : StepRecord) : StepContent := (step.node, step.status, step.result)

theorem StepRecord.isResult_eq (step : StepRecord) (result : StepResult) :
    step.isResult result = (step.content == result.content) :=
  Bool.and_assoc ..

namespace DebugSessions

variable {d : DebugSessions} {id : SessionId} {result : StepResult}

/-- The last step in the log of a session. -/
def lastStep (d : DebugSessions) (id : SessionId) : Option StepContent :=
  (d.session? id).bind fun session => session.steps.getLast?.map (·.content)

/-- The result looks different from the last step in the log of its session, if there is one. -/
def IsNews (d : DebugSessions) (id : SessionId) (result : StepResult) : Prop :=
  ∀ content ∈ d.lastStep id, (content == result.content) = false

theorem recordStep_cases (d : DebugSessions) (id : SessionId) (result : StepResult) :
    d.recordStep id result = (d, false) ∨
      ∃ session, d.session? id = some session ∧
        d.recordStep id result =
          ({ sessions := d.sessions.insert id (session.addStep result)
             shared := d.shared.publish id result.written }, true) := by
  unfold recordStep
  split
  · exact .inl rfl
  · rename_i session hsession
    split
    · exact .inl rfl
    · exact .inr ⟨session, hsession, rfl⟩

theorem recordStep_snd_iff (h : (d.session? id).isSome) :
    (d.recordStep id result).2 = true ↔ d.IsNews id result := by
  obtain ⟨session, hsession⟩ := Option.isSome_iff_exists.1 h
  have hlast : d.lastStep id = session.steps.getLast?.map (·.content) := by
    rw [lastStep, hsession, Option.bind_some]
  simp only [recordStep, hsession, IsNews, hlast]
  cases session.steps.getLast? with
  | none => simp
  | some step => cases hsame : step.content == result.content <;> simp [StepRecord.isResult_eq, hsame]

theorem recordStep_of_snd (h : (d.recordStep id result).2 = false) :
    d.recordStep id result = (d, false) := by
  rcases d.recordStep_cases id result with hsame | ⟨session, -, hrecorded⟩
  · exact hsame
  · rw [hrecorded] at h
    cases h

theorem exists_recordStep_eq (h : (d.recordStep id result).2 = true) :
    ∃ session : DebugSession, d.recordStep id result =
      ({ sessions := d.sessions.insert id (session.addStep result)
         shared := d.shared.publish id result.written }, true) := by
  rcases d.recordStep_cases id result with hsame | ⟨session, -, hrecorded⟩
  · rw [hsame] at h
    cases h
  · exact ⟨session, hrecorded⟩

theorem isSome_session?_recordStep (d : DebugSessions) (id : SessionId) (result : StepResult)
    (k : SessionId) : ((d.recordStep id result).1.session? k).isSome = (d.session? k).isSome := by
  rcases d.recordStep_cases id result with hsame | ⟨session, hsession, hrecorded⟩
  · rw [hsame]
  · rw [hrecorded, session?, Table.get?_insert]
    by_cases hk : k = id
    · rw [if_pos hk, hk, hsession]
      rfl
    · rw [if_neg hk, session?]

theorem binds_recordStep (h : (d.recordStep id result).2 = true) :
    d.shared.Binds (d.recordStep id result).1.shared id result.written := by
  obtain ⟨session, hrecorded⟩ := exists_recordStep_eq h
  rw [hrecorded]
  exact d.shared.binds_publish id result.written

theorem lastStep_recordStep (h : (d.recordStep id result).2 = true) (k : SessionId) :
    (d.recordStep id result).1.lastStep k =
      if k = id then some result.content else d.lastStep k := by
  obtain ⟨session, hrecorded⟩ := exists_recordStep_eq h
  rw [hrecorded, lastStep, session?, Table.get?_insert]
  split
  · simp [DebugSession.addStep, StepRecord.content, StepResult.content]
  · rfl

/-! ## Steps in a row -/

/-- The sessions after steps, one after the other. -/
def recordAll (d : DebugSessions) (steps : List (SessionId × StepResult)) : DebugSessions :=
  steps.foldl (fun d step => (d.recordStep step.1 step.2).1) d

/-- Those of the steps that are recorded. -/
def recorded (d : DebugSessions) : List (SessionId × StepResult) → List (SessionId × StepResult)
  | [] => []
  | step :: steps =>
    let (next, isRecorded) := d.recordStep step.1 step.2
    if isRecorded then step :: next.recorded steps else next.recorded steps

/-- The result recorded last for a session. -/
def lastRecorded (d : DebugSessions) (steps : List (SessionId × StepResult)) (id : SessionId) :
    Option StepResult :=
  (d.recorded steps).reverse.findSome? fun step => if id = step.1 then some step.2 else none

/-- The value that the last recorded step with a variable gives it, and the session of this step. -/
def lastWrite (d : DebugSessions) (steps : List (SessionId × StepResult)) (name : String) :
    Option (Json × SessionId) :=
  (d.recorded steps).reverse.findSome? fun step => (step.2.written.get? name).map (·, step.1)

/-- What recorded steps overrule, each if it has a say, is decided by the last of them that has. -/
theorem see_recordAll {α : Type} (see : DebugSessions → Option α)
    (say : SessionId × StepResult → Option α)
    (hstep : ∀ (d : DebugSessions) (step : SessionId × StepResult),
      (d.recordStep step.1 step.2).2 = true →
        see (d.recordStep step.1 step.2).1 = (say step).or (see d))
    (d : DebugSessions) (steps : List (SessionId × StepResult)) :
    see (d.recordAll steps) = ((d.recorded steps).reverse.findSome? say).or (see d) := by
  induction steps generalizing d with
  | nil => rfl
  | cons step steps ih =>
    change see ((d.recordStep step.1 step.2).1.recordAll steps) = _
    rw [ih, recorded]
    cases hrecorded : (d.recordStep step.1 step.2).2 with
    | true =>
      rw [hstep d step hrecorded]
      simp [hrecorded, List.findSome?_append, Option.or_assoc]
    | false => simp [recordStep_of_snd hrecorded]

theorem shown_recordAll (d : DebugSessions) (steps : List (SessionId × StepResult))
    (name : String) :
    (d.recordAll steps).shared.shown name = (d.lastWrite steps name).or (d.shared.shown name) :=
  see_recordAll (·.shared.shown name) (fun step => (step.2.written.get? name).map (·, step.1))
    (fun _ _ hrecorded => (binds_recordStep hrecorded).shown_eq name) d steps

theorem lastStep_recordAll (d : DebugSessions) (steps : List (SessionId × StepResult))
    (id : SessionId) :
    (d.recordAll steps).lastStep id =
      ((d.lastRecorded steps id).map StepResult.content).or (d.lastStep id) := by
  rw [lastRecorded, List.map_findSome?]
  refine see_recordAll (·.lastStep id) _ (fun d step hrecorded => ?_) d steps
  rw [lastStep_recordStep hrecorded]
  by_cases hid : id = step.1 <;> simp [hid]

theorem isSome_session?_recordAll (d : DebugSessions) (steps : List (SessionId × StepResult))
    (id : SessionId) : ((d.recordAll steps).session? id).isSome = (d.session? id).isSome := by
  induction steps generalizing d with
  | nil => rfl
  | cons step steps ih => exact (ih _).trans (d.isSome_session?_recordStep step.1 step.2 id)

/-- How a result is taken in, when `last` is the result recorded before it for its session. -/
structure TakesIn (d : DebugSessions) (last : Option StepResult) (id : SessionId)
    (result : StepResult) : Prop where
  /-- A result that looks different is recorded, and its variables are bound. -/
  news (h : d.IsNews id result) : (d.recordStep id result).2 = true ∧
    d.shared.Binds (d.recordStep id result).1.shared id result.written
  /-- The very same result, variables and all, is ignored. -/
  again (h : last = some result) : d.recordStep id result = (d, false)

theorem takesIn_recordAll (hknown : (d.session? id).isSome) (before : List (SessionId × StepResult))
    (result : StepResult) :
    (d.recordAll before).TakesIn (d.lastRecorded before id) id result := by
  have hrecorded_iff : ((d.recordAll before).recordStep id result).2 = true ↔
      (d.recordAll before).IsNews id result :=
    recordStep_snd_iff ((d.isSome_session?_recordAll before id).trans hknown)
  constructor
  · intro hnews
    have hrecorded := hrecorded_iff.2 hnews
    exact ⟨hrecorded, binds_recordStep hrecorded⟩
  · intro hlast
    refine recordStep_of_snd (Bool.eq_false_iff.2 fun hrecorded => ?_)
    have hlastStep : (d.recordAll before).lastStep id = some result.content := by
      rw [lastStep_recordAll, hlast, Option.map_some, Option.some_or]
    have hdiffers := hrecorded_iff.1 hrecorded result.content hlastStep
    rw [BEq.rfl] at hdiffers
    cases hdiffers

/-- **Each shared variable shows its last recorded writer.** Whichever sessions the steps are of, a
result that looks different from the last one of its session binds its variables and leaves every
other binding as it was, and one that is the last one of its session again leaves all as it was.
So every name shows what the last recorded step with this name has given it. -/
theorem last_recorded_write_wins {steps : List (SessionId × StepResult)}
    (hknown : ∀ step ∈ steps, (d.session? step.1).isSome) :
    (∀ before id result after, steps = before ++ (id, result) :: after →
      (d.recordAll before).TakesIn (d.lastRecorded before id) id result) ∧
      ∀ name, (d.recordAll steps).shared.shown name =
        (d.lastWrite steps name).or (d.shared.shown name) := by
  refine ⟨fun before id result after hsteps => ?_, d.shown_recordAll steps⟩
  exact takesIn_recordAll (hknown (id, result) (by simp [hsteps])) before result

/-- Two sessions, before their first steps. -/
def twoSessions : DebugSessions :=
  (({} : DebugSessions).register "x" ["a"] .running).register "y" ["b"] .running

/-- A step of a node that sets a total. -/
def setsTotal (node : NodeId) (total : Int) : StepResult :=
  { node := some node, result := .string node, written := .ofList [("total", .ofInt total)] }

/-- The first step comes again after a step of the other session, and then there is a new one. -/
def totals : List (SessionId × StepResult) :=
  [("x", setsTotal "a" 1), ("y", setsTotal "b" 2), ("x", setsTotal "a" 1), ("x", setsTotal "c" 3)]

theorem last_recorded_write_wins_totals :
    (∀ step ∈ totals, (twoSessions.session? step.1).isSome) ∧
      (twoSessions.recordAll (totals.take 2)).recordStep "x" (setsTotal "a" 1) =
        (twoSessions.recordAll (totals.take 2), false) ∧
      (twoSessions.recordAll (totals.take 3)).shared.Binds
        (twoSessions.recordAll totals).shared "x" (setsTotal "c" 3).written ∧
      (twoSessions.recordAll totals).shared.shown "total" = some (.ofInt 3, "x") := by
  have hknown : ∀ step ∈ totals, (twoSessions.session? step.1).isSome := by decide
  obtain ⟨htaken, hshown⟩ := last_recorded_write_wins hknown
  have hnews : (twoSessions.recordAll (totals.take 3)).IsNews "x" (setsTotal "c" 3) := by
    intro content hcontent
    cases hcontent
    rfl
  exact ⟨hknown, (htaken (totals.take 2) "x" _ _ rfl).again rfl,
    ((htaken (totals.take 3) "x" _ _ rfl).news hnews).2, (hshown "total").trans rfl⟩

/-- **A result that arrives again does not bind its variables again**: another session has written
the total since, and the total stays as that session has left it. -/
theorem repeated_step_rebinds_nothing :
    let d := twoSessions.recordAll [("x", setsTotal "a" 1), ("y", setsTotal "b" 2)]
    let next := (d.recordStep "x" (setsTotal "a" 1)).1
    (d.session? "x").isSome ∧ next.shared.shown "total" = some (.ofInt 2, "y") ∧
      ¬ d.shared.Binds next.shared "x" (setsTotal "a" 1).written := by
  intro d next
  have hshown : next.shared.shown "total" = some (.ofInt 2, "y") := rfl
  refine ⟨rfl, hshown, fun hbinds => ?_⟩
  have hbound : next.shared.shown "total" = some (.ofInt 1, "x") := hbinds.bound rfl
  rw [hshown] at hbound
  cases hbound

end DebugSessions

end NodeCanvas
