import NodeCanvas.Proofs.Interleaving
import NodeCanvas.Proofs.Restoring
import NodeCanvas.Proofs.Worlds
/-!
# The clearings that restores are owed

A restore clears the canvas of the backend and notes, in a section of its own, that the announcement
of that is still to come. While the restore goes on and pushes are delivered in between, as many
clearings are owed as are queued, and some more for which no announcement will come. This excess,
the parameter of `World.Owing`, is changed by no delivery and by no later step of the restore. It is
settled when the clearing is noted, and depends on whether the announcement was there before.
-/

namespace NodeCanvas

variable {R α : Type} [Scalar R]

/-! ## Owed clearings -/

/-- As many clearings are owed as are announced, and some more for which no announcement will
come. -/
structure World.Owing (w : LocalWorld R) (excess : Nat) (restoring : Bool) : Prop where
  subscribed : w.remote.subscribed = true
  safe : ∀ p ∈ w.remote.pushes, p.Safe
  owed : w.canvas.saving.owedClears = w.remote.pushes.countP (·.isClear) + excess
  restoring : w.canvas.saving.restoring = restoring

/-- A push counts an owed clearing if it announces one. -/
theorem Client.applyChange_counts {m : Moment} {c : Canvas R} (p : PushEvent R)
    (howed : p.isClear = true → 0 < c.saving.owedClears) :
    (applyChange p m c).canvas.saving.owedClears =
        c.saving.owedClears - (if p.isClear then 1 else 0) ∧
      (applyChange p m c).canvas.saving.restoring = c.saving.restoring := by
  by_cases hclear : p.isClear = true
  · have hcleared : p = .canvasCleared := by
      cases p <;> first | rfl | cases hclear
    subst hcleared
    obtain ⟨-, howed, hrestoring⟩ := applyChange_owed (m := m) (howed hclear)
    exact ⟨howed, hrestoring⟩
  · obtain ⟨-, howed, hrestoring⟩ := applyChange_becomes (m := m) (c := c) p
      fun hwipe => (hclear (PushEvent.isClear_iff.2 hwipe)).elim
    rw [if_neg hclear]
    exact ⟨howed, hrestoring⟩

namespace World

variable {w : LocalWorld R} {excess : Nat} {restoring : Bool}

theorem abides_owing : Abides fun w : LocalWorld R => w.Owing excess restoring := by
  rintro w ⟨hsub, hsafe, howed, hrestoring⟩
  cases hpushes : w.remote.pushes with
  | nil => exact ⟨0, w, pump_one_nil hpushes, hsub, hsafe, howed, hrestoring⟩
  | cons p rest =>
    rw [hpushes] at hsafe howed
    rw [List.countP_cons] at howed
    obtain ⟨hcounted, hkept⟩ := Client.applyChange_counts (m := w.moment) (c := w.canvas) p
      fun hclear => by rw [if_pos hclear] at howed; omega
    refine ⟨1, _, pump_one_cons hpushes (hsafe p List.mem_cons_self), hsub,
      fun q hq => hsafe q (List.mem_cons_of_mem p hq), hcounted.trans ?_, hkept.trans hrestoring⟩
    change _ = rest.countP (·.isClear) + excess
    omega

omit [Scalar R] in
/-- An answer that announces no clearing. -/
theorem Owing.answered (h : w.Owing excess restoring) {b' : Backend R} {added : List (PushEvent R)}
    (hadds : ∀ p ∈ added, p.Adds) :
    Owing { w with remote := { w.remote with
      backend := b', pushes := w.remote.pushes ++ added } } excess restoring where
  subscribed := h.subscribed
  safe p hp := (List.mem_append.1 hp).elim (h.safe p) fun hp => (hadds p hp).safe
  owed := by
    have hnone : added.countP (·.isClear) = 0 := by
      refine List.countP_eq_zero.2 fun p hp hclear => ?_
      exact (hadds p hp).not_wipe (PushEvent.isClear_iff.1 hclear)
    change _ = (w.remote.pushes ++ added).countP (·.isClear) + excess
    rw [List.countP_append, hnone]
    exact h.owed
  restoring := h.restoring

omit [Scalar R] in
/-- A section that leaves alone what is known about restores. -/
theorem Owing.after (h : w.Owing excess restoring) {outcome : Outcome R α}
    (howed : outcome.canvas.saving.owedClears = w.canvas.saving.owedClears)
    (hrestoring : outcome.canvas.saving.restoring = w.canvas.saving.restoring) :
    (w.after outcome).Owing excess restoring where
  subscribed := h.subscribed
  safe := h.safe
  owed := howed.trans h.owed
  restoring := hrestoring.trans h.restoring

end World

namespace Client

open Program World

variable {excess : Nat} {restoring : Bool}

theorem keeps_section {body : Edit R α}
    (hbody : ∀ m c, (body m c).canvas.saving.owedClears = c.saving.owedClears ∧
      (body m c).canvas.saving.restoring = c.saving.restoring) :
    (atomically body : Program R MemoryStore α).Keeps fun w => w.Owing excess restoring :=
  fun _ hw => endsAmid_atomically abides_owing hw (fun _ => abides_owing) fun w hw =>
    hw.after (hbody w.moment w.canvas).1 (hbody w.moment w.canvas).2

theorem keeps_tell (event : Event R) :
    (tell event : Program R MemoryStore Unit).Keeps fun w => w.Owing excess restoring :=
  fun _ hw => endsAmid_of_advance abides_owing hw nofun fun _ hw =>
    ⟨_, _, rfl, endsAmid_done abides_owing ⟨hw.subscribed, hw.safe, hw.owed, hw.restoring⟩⟩

theorem keeps_fresh (body : Drawing α) :
    (fresh body : Program R MemoryStore α).Keeps fun w => w.Owing excess restoring :=
  fun _ hw => endsAmid_of_advance abides_owing hw nofun fun _ hw =>
    ⟨_, _, rfl, endsAmid_done abides_owing ⟨hw.subscribed, hw.safe, hw.owed, hw.restoring⟩⟩

theorem keeps_access (body : MemoryStore → α × MemoryStore) :
    (access body : Program R MemoryStore α).Keeps fun w => w.Owing excess restoring :=
  fun _ hw => endsAmid_of_advance abides_owing hw nofun fun _ hw =>
    ⟨_, _, rfl, endsAmid_done abides_owing ⟨hw.subscribed, hw.safe, hw.owed, hw.restoring⟩⟩

theorem keeps_send {call : Request R}
    (hadds : ∀ link : Link R, link.subscribed = true → ∃ b' added, (∀ p ∈ added, p.Adds) ∧
      (link.answer call).2 = { link with backend := b', pushes := link.pushes ++ added }) :
    (send call : Program R MemoryStore _).Keeps fun w => w.Owing excess restoring := by
  refine fun _ hw => endsAmid_of_advance abides_owing hw nofun fun w hw =>
    ⟨_, _, rfl, endsAmid_done abides_owing ?_⟩
  obtain ⟨b', added, hadded, hanswer⟩ := hadds w.remote hw.subscribed
  rw [Link.answering, hanswer]
  exact hw.answered hadded

/-- Nobody announces a clearing when something is created. -/
theorem keeps_creation {call : Request R}
    (h : (∃ spec, call = .createNode spec) ∨ ∃ spec, call = .createConnection spec) :
    (send call : Program R MemoryStore _).Keeps fun w => w.Owing excess restoring := by
  refine keeps_send fun link hsub => ?_
  obtain ⟨cause, b', hanswer, -⟩ | ⟨done, hperform, hanswer, -, -⟩ := link.answer_cases call
  · exact ⟨b', [], List.forall_mem_nil _, (List.append_nil _).symm ▸ congrArg Prod.snd hanswer⟩
  · rw [if_pos hsub] at hanswer
    refine ⟨_, _, ?_, congrArg Prod.snd hanswer⟩
    obtain ⟨spec, rfl⟩ | ⟨spec, rfl⟩ := h
    · cases hperform
      exact List.forall_mem_singleton.2 trivial
    · obtain ⟨-, -, -, rfl⟩ := Backend.createConnection_eq_ok hperform
      exact List.forall_mem_singleton.2 trivial

/-- Programs that ask for creations only are closed under keeping what is owed. -/
theorem closed_keeps : Closed (R := R)
    (fun call => (∃ spec, call = .createNode spec) ∨ ∃ spec, call = .createConnection spec)
    (Keeps fun w => w.Owing excess restoring) where
  pure := keeps_pure abides_owing
  bind := .bind
  read _ := keeps_section fun _ _ => ⟨rfl, rfl⟩
  fresh := keeps_fresh
  send := keeps_creation
  notify _ _ := keeps_tell _
  consult _ := keeps_access _

theorem keeps_of_quiet {body : Edit R α} (h : body.Quiet) :
    (atomically body : Program R MemoryStore α).Keeps fun w => w.Owing excess restoring :=
  keeps_section fun m c => ⟨(h m c).owed, (h m c).restoring⟩

theorem keeps_saveNow :
    (saveNow : Attempt R MemoryStore Unit).Keeps fun w => w.Owing excess restoring :=
  closed_keeps.attempt (closed_keeps.always (keeps_of_quiet quiet_beginSave)) fun _ =>
    closed_keeps.attempt (closed_keeps.always (keeps_access _)) fun result =>
      closed_keeps.attempt (closed_keeps.always (keeps_of_quiet (quiet_endSave result)))
        fun _ => closed_keeps.document result

/-- The rest of a restore does not touch what is owed. -/
theorem replaySnapshot_endsAmid (s : Snapshot R) (remoteCleared : Bool) {w : LocalWorld R}
    (h : w.Owing excess true) :
    (replaySnapshot s remoteCleared : Program R MemoryStore _).EndsAmid w
      fun _ w' => w'.Owing excess false := by
  refine EndsAmid.bind ((keeps_section (fun _ _ => ⟨rfl, rfl⟩) w h).mono fun _ w h => ?_)
  have hnodes := closed_keeps.replayNodes (fun spec => .inl ⟨spec, rfl⟩)
    (fun _ _ => keeps_section fun _ _ => ⟨rfl, rfl⟩) s.nodes { report := { remoteCleared } } w h
  refine EndsAmid.bind (hnodes.mono fun replay w h => ?_)
  have hconnections := closed_keeps.replayConnections (fun spec => .inr ⟨spec, rfl⟩)
    (fun _ _ _ => keeps_section fun _ _ => ⟨rfl, rfl⟩) replay.names s.connections replay.report w h
  refine EndsAmid.bind (hconnections.mono fun report w h => ?_)
  have hended : (atomically (endRestore s.view)).EndsAmid w fun _ w' => w'.Owing excess false :=
    endsAmid_atomically abides_owing h (fun _ => abides_owing)
      fun w h => ⟨h.subscribed, h.safe, h.owed, rfl⟩
  refine EndsAmid.bind (hended.mono fun ended w h => ?_)
  refine EndsAmid.bind ((keeps_tell _ w h).mono fun _ w h => ?_)
  refine EndsAmid.bind ((keeps_tell _ w h).mono fun _ w h => ?_)
  exact closed_keeps.saveRestored keeps_saveNow report w h

end Client

/-! ## When the announcement comes -/

/-- Whether a restore in this world clears the backend, and the announcement of that is delivered
before the client has noted that it is owed. -/
def World.clearsEarly (w : LocalWorld R) (actors : List Actor) : Bool :=
  (w.remote.answer .clearCanvas).1.isOk && Actor.deliversAfter 2 actors

namespace Client

open Program World

variable {w : LocalWorld R}

/-- The announcement is queued and to be counted next. If it comes before that, it is ignored, and
the count stays. -/
theorem oweClear_endsTimed {next : Unit → Program R MemoryStore RestoreReport}
    (hnext : ∀ excess (w : LocalWorld R), w.Owing excess true →
      (next ()).EndsAmid w fun _ w' => w'.Owing excess false)
    (hsub : w.remote.subscribed = true) (hqueue : w.remote.pushes = [.canvasCleared])
    (howed : w.canvas.saving.owedClears = 0) (hrestoring : w.canvas.saving.restoring = true) :
    (edit oweClear next).EndsTimed w 0 fun delivered w' =>
      w'.Owing (if delivered then 1 else 0) false := by
  intro actors
  cases actors with
  | nil => exact ⟨_, w, rfl, nofun⟩
  | cons actor actors =>
    cases actor with
    | program =>
      refine hnext 0 (w.after (oweClear w.moment w.canvas)) ⟨hsub, ?_, ?_, hrestoring⟩ actors
      · change ∀ p ∈ w.remote.pushes, p.Safe
        rw [hqueue]
        exact List.forall_mem_singleton.2 trivial
      · change w.canvas.saving.owedClears + 1 = w.remote.pushes.countP (·.isClear) + 0
        rw [howed, hqueue]
        rfl
    | channel =>
      have habides : Abides fun w : LocalWorld R => w.Owing 0 true ∧ w.remote.pushes = [] := by
        rintro w ⟨h, hempty⟩
        exact ⟨0, w, pump_one_nil hempty, h, hempty⟩
      rw [interleave, pump_one_cons hqueue trivial, applyChange_restoring howed hrestoring]
      refine endsAmid_of_advance habides ?_ nofun ?_ actors
      · exact ⟨⟨hsub, List.forall_mem_nil _, howed, hrestoring⟩, rfl⟩
      · rintro w ⟨h, -⟩
        refine ⟨_, _, rfl, hnext 1 _ ⟨h.subscribed, h.safe, ?_, h.restoring⟩⟩
        exact congrArg (· + 1) h.owed

/-- The backend is asked, and if it clears, the announcement is to be counted. -/
theorem clearRemote_endsTimed (s : Snapshot R)
    (hsub : w.remote.subscribed = true) (hqueue : w.remote.pushes = [])
    (howed : w.canvas.saving.owedClears = 0) (hrestoring : w.canvas.saving.restoring = true) :
    ((clearRemote : Program R MemoryStore Bool) >>= replaySnapshot s).EndsTimed w 1
      fun delivered w' =>
        w'.Owing (if (w.remote.answer .clearCanvas).1.isOk && delivered then 1 else 0) false := by
  have hrunning : ∀ report, (clearRemote : Program R MemoryStore Bool) >>= replaySnapshot s ≠
      .done report := by
    intro report hdone
    cases hdone
  obtain ⟨cause, b', hanswer, -⟩ | ⟨b', hanswer, -⟩ := w.remote.clearCanvas_cases hsub
  · have hadvance : ((clearRemote : Program R MemoryStore Bool) >>= replaySnapshot s).advance w =
        .ok (replaySnapshot s false, { w with remote := { w.remote with backend := b' } }) := by
      simp only [clearRemote, Bind.bind, Program.bind, send, stepWith, Link.answering, hanswer]
      rfl
    have hstart : Owing { w with remote := { w.remote with backend := b' } } 0 true := by
      refine ⟨hsub, ?_, ?_, hrestoring⟩ <;> simp only [hqueue]
      · exact List.forall_mem_nil _
      · exact howed
    refine endsTimed_of_advance hqueue hrunning hadvance (EndsAmid.endsTimed 0 ?_)
    refine (replaySnapshot_endsAmid s false hstart).mono fun _ w' h delivered => ?_
    rw [hanswer]
    exact h
  · have hadvance : ((clearRemote : Program R MemoryStore Bool) >>= replaySnapshot s).advance w =
        .ok (edit oweClear fun _ => replaySnapshot s true, { w with remote :=
          { w.remote with backend := b', pushes := w.remote.pushes ++ [.canvasCleared] } }) := by
      simp only [clearRemote, Bind.bind, Program.bind, send, stepWith, Link.answering, hanswer]
      rfl
    refine endsTimed_of_advance hqueue hrunning hadvance ?_
    rw [hanswer, hqueue]
    exact oweClear_endsTimed (fun _ _ h => replaySnapshot_endsAmid s true h) hsub rfl howed
      hrestoring

/-- The excess that is left: one if the announcement comes before it is counted. -/
theorem restoreSnapshot_endsTimed (s : Snapshot R)
    (hsub : w.remote.subscribed = true) (hqueue : w.remote.pushes = [])
    (howed : w.canvas.saving.owedClears = 0) :
    (restoreSnapshot s).EndsTimed w 2 fun delivered w' =>
      w'.Owing (if (w.remote.answer .clearCanvas).1.isOk && delivered then 1 else 0) false :=
  endsTimed_of_advance hqueue nofun rfl
    (clearRemote_endsTimed (w := w.after (beginRestore w.moment w.canvas)) s hsub hqueue howed rfl)

/-- **What a restore leaves owed amid deliveries.** The announcement of its clearing is counted, so
that nothing is owed in the end and the next clearing empties the canvas; unless the announcement is
delivered after the backend has cleared and before the client has noted that it is owed. Then it is
ignored, as one that comes during a restore, and the count stays: the next clearing of the canvas is
taken for the announcement and lost. -/
theorem restoreSnapshot_amid_deliveries (s : Snapshot R) (w : LocalWorld R)
    (hsub : w.remote.subscribed = true) (hqueue : w.remote.pushes = [])
    (howed : w.canvas.saving.owedClears = 0) (actors : List Actor) :
    ∃ rest w', interleave actors (restoreSnapshot s) w = .ok (rest, w') ∧
      ∀ report, rest = .done report → w'.remote.pushes = [] →
        w'.canvas.saving.owedClears = (if w.clearsEarly actors then 1 else 0) ∧
        ∃ w'', w'.exec (applyPush .canvasCleared) = .ok w'' ∧
          w''.canvas.graph =
            if w.clearsEarly actors then w'.canvas.graph else w'.canvas.graph.clear.1 := by
  obtain ⟨rest, w', hrun, hends⟩ := restoreSnapshot_endsTimed s hsub hqueue howed actors
  refine ⟨rest, w', hrun, fun report hdone hempty => ?_⟩
  obtain ⟨-, -, howed', hrestoring⟩ := hends report hdone
  rw [hempty, List.countP_nil, Nat.zero_add] at howed'
  change _ = if w.clearsEarly actors then 1 else 0 at howed'
  refine ⟨howed', _, exec_applyPush trivial, ?_⟩
  change (applyChange .canvasCleared w'.moment w'.canvas).canvas.graph = _
  by_cases hearly : w.clearsEarly actors = true
  · rw [if_pos hearly] at howed' ⊢
    exact (applyChange_owed (by omega)).graph
  · rw [if_neg hearly] at howed' ⊢
    exact (applyChange_becomes .canvasCleared fun _ => ⟨howed', hrestoring⟩).graph

/-- The announcement is delivered at once. -/
def earlyActors : List Actor :=
  [.program, .program, .channel] ++ List.replicate 11 .program ++ [.channel]

/-- All announcements are delivered in the end. -/
def lateActors : List Actor := List.replicate 13 .program ++ [.channel, .channel]

theorem restoreSnapshot_amid_deliveries_late :
    (finished? (interleave lateActors (restoreSnapshot singleSnapshot) freshWorld)).map
      (·.canvas.saving.owedClears) = some 0 := by
  obtain ⟨rest, w', hrun, hends⟩ :=
    restoreSnapshot_amid_deliveries singleSnapshot freshWorld rfl rfl rfl lateActors
  have hempty : (finished? (interleave lateActors (restoreSnapshot singleSnapshot)
      freshWorld)).map (·.remote.pushes.length) = some 0 := by
    decide +kernel
  rw [hrun] at hempty ⊢
  cases rest with
  | done report =>
    have hpushes := List.eq_nil_of_length_eq_zero (Option.some.inj hempty)
    exact congrArg some ((hends report rfl hpushes).1.trans (if_neg (by decide +kernel)))
  | _ => cases hempty

/-- An announcement that comes before it is noted as owed stays owed, with nothing left to come. -/
theorem early_announcement_stays_owed :
    (finished? (interleave earlyActors (restoreSnapshot singleSnapshot) freshWorld)).map
      (fun w => (w.remote.pushes.length, w.canvas.saving.owedClears)) = some (0, 1) := by
  decide +kernel

end Client

end NodeCanvas
