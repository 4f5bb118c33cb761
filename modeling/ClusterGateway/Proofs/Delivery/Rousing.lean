import ClusterGateway.Proofs.Delivery.Course
import ClusterGateway.Proofs.Delivery.Effects

/-!
# Who is woken

Whoever waits in the line of a session is woken by nothing but its timer, as long as it goes on
to wait there: what other tasks do wakes those who shut down, those who wait for an answer, and
those who are granted room (`Waits.not_stirred`). Nor are its timers touched by others
(`timers_apply`).
-/

namespace ClusterGateway.World

variable {world before after : World} {me task : TaskId} {found : Task} {purpose : Purpose}
  {dispatch : Dispatch} {site : SiteId} {number : SessionId} {session later : Session}
  {sends hands : Prop} {move : Move}

/-- A change of a session that serves nobody wakes nobody. -/
theorem ready_onSession (world : World) (site : SiteId) (number : SessionId)
    (change : Session → Session) :
    (world.onSession site number fun found => (change found, [])).ready = world.ready := by
  obtain ⟨-, same⟩ | ⟨found, -, same⟩ :=
    onSession_cases world site number fun found => (change found, [])
  · rw [same]
  · rw [same]
    rfl

/-- A deadline wakes nobody. -/
theorem ready_setDeadline (world : World) (me : TaskId) (due : Option Nat) :
    (world.setDeadline me due).ready = world.ready := by
  cases due <;> rfl

/-- A new task waits for no room. -/
theorem dispatch?_of_new : world.dispatch? world.tasks.length = none := by
  simp [dispatch?]

/-- A stroke that touches no session wakes nobody who waits for room, unless its task does. -/
theorem Stroke.stirs (stroke : Stroke me purpose False hands before after)
    (pending : before.dispatch? task = some dispatch) (calm : ¬ purpose.Rouses task)
    (ready : task ∈ after.ready) : task ∈ before.ready := by
  have absent (new : task ∈ [before.tasks.length]) : task ∈ before.ready := by
    obtain rfl := List.mem_singleton.mp new
    exact absurd (dispatch?_of_new.symm.trans pending) (by simp)
  cases stroke with
  | wake other rouses =>
    obtain ⟨more, joined, named⟩ := exists_ready_wake before other
    rw [joined] at ready
    refine (List.mem_append.mp ready).elim id fun new => ?_
    exact absurd (named task new ▸ rouses) calm
  | spawn => exact (List.mem_append.mp ready).elim id absent
  | handOn => exact (List.mem_append.mp ready).elim id absent
  | tell target answer =>
    obtain same | ⟨found, there, alike, same⟩ := tellAnswer_cases before target answer
    · exact same ▸ ready
    · obtain ⟨more, joined, named⟩ :=
        exists_ready_wake (before.setStage target (.told answer)) target
      rw [same, joined] at ready
      refine (List.mem_append.mp ready).elim id fun new => ?_
      obtain rfl := named task new
      have idle : before.dispatch? task = none := by
        simp only [dispatch?, there, Option.bind_some]
        exact dispatch?_of_alike alike
      exact absurd (idle.symm.trans pending) (by simp)
  | setState site actor component state =>
    obtain ⟨-, same⟩ | ⟨entries, same⟩ := setState_cases before site actor component state
    · exact same ▸ ready
    · rw [same] at ready
      exact ready
  | touch site session change never => exact never.elim
  | _ => exact ready

/-- Strokes that touch no session wake nobody who waits for room, unless their task does. -/
theorem Strokes.stirs (strokes : Strokes me purpose False hands before after) (differ : task ≠ me)
    (pending : before.dispatch? task = some dispatch) (calm : ¬ purpose.Rouses task)
    (ready : task ∈ after.ready) : task ∈ before.ready := by
  refine (strokes.keeps (P := fun before after => before.dispatch? task = some dispatch →
    after.dispatch? task = some dispatch ∧ (task ∈ after.ready → task ∈ before.ready))
    (fun _ pending => ⟨pending, id⟩) (fun first second pending => ?_) (fun stroke pending => ?_)
    pending).2 ready
  · obtain ⟨still, early⟩ := first pending
    obtain ⟨last, late⟩ := second still
    exact ⟨last, fun ready => early (late ready)⟩
  · have spares := Strokes.spares (Relation.ReflTransGen.single stroke)
    exact ⟨(spares.dispatch task differ).trans pending, stroke.stirs pending calm⟩

/-- A task that runs wakes nobody who waits for room, unless it is for that. -/
theorem Turn.stirs {left : World} (turn : Turn me found left after)
    (departs : Departs me found left) (differ : task ≠ me)
    (pending : left.dispatch? task = some dispatch) (calm : ¬ found.purpose.Rouses task)
    (ready : task ∈ after.ready) : task ∈ left.ready := by
  cases turn with
  | quiet strokes => exact strokes.stirs differ pending calm ready
  | settled => exact ready
  | @sent middle begun session outcome actor entries strokes =>
    refine strokes.stirs differ pending calm ?_
    rwa [← ready_onSession middle begun.site begun.session
      (·.accept ⟨some me, begun.offset⟩)]
  | dropped actor entries strokes => exact strokes.stirs differ pending calm ready
  | @queued middle begun session stage strokes =>
    refine strokes.stirs differ pending calm ?_
    rwa [← ready_onSession middle begun.site begun.session (·.await me), ← ready_setDeadline _ me]
  | refused => exact ready
  | @filled begun session outcome actor entries =>
    rwa [← ready_onSession left begun.site begun.session (·.fill me begun.offset)]
  | @gaveUp begun session outcome due actor entries waiting here unclosed ungranted =>
    have inLine := departs.inLine begun session waiting here unclosed ungranted
    have nobody := ((departs.steady.healthy _ _ session here).passes_withdraw inLine).2
    have same : (left.giveUpSend me begun.site begun.session).ready = left.ready := by
      obtain ⟨-, same⟩ | ⟨other, there, same⟩ :=
        onSession_cases left begun.site begun.session (·.withdraw me)
      · rw [giveUpSend, same]
      · obtain rfl := Option.some.inj (here.symm.trans there)
        rw [giveUpSend, same, nobody]
        rfl
    rwa [← same]
  | stays => exact ready

/-- A task stands in the line of the session only for which it waits. -/
theorem Waits.inLine_unique (waits : world.Waits) {place : SiteId} {other : SessionId}
    (there : world.session? site number = some session) (inLine : session.InLine task)
    (here : world.session? place other = some later) (also : later.InLine task) :
    place = site ∧ other = number := by
  obtain ⟨dispatch, pending, rfl, rfl⟩ := (waits.placed task).lines site number session there inLine
  obtain ⟨same, again, rfl, rfl⟩ := (waits.placed task).lines place other later here also
  obtain rfl := Option.some.inj (pending.symm.trans again)
  exact ⟨rfl, rfl⟩

/-- Whoever waits in the line of one open session only, and is granted no room there, is woken by no
change of a session that wakes those in line to whom it grants room, or whom it turns away. -/
theorem not_stirred_onSession {place : SiteId} {other : SessionId}
    {change : Session → Session × List TaskId}
    (only : ∀ found, world.session? place other = some found → task ∈ found.waiting →
      place = site ∧ other = number)
    (serves : ∀ found, ∀ task ∈ (change found).2, task ∈ found.waiting ∧
      (task ∈ (change found).1.granted ∨ (change found).1.closed = true))
    (here : (world.onSession place other change).session? site number = some later)
    (unclosed : later.closed = false) (ungranted : task ∉ later.granted)
    (ready : task ∈ (world.onSession place other change).ready) : task ∈ world.ready := by
  obtain ⟨-, same⟩ | ⟨found, at_place, same⟩ := onSession_cases world place other change
  · exact same ▸ ready
  · obtain ⟨more, joined, named⟩ := exists_ready_wakeAll
      (world.onBroker place (·.onSession other fun _ => (change found).1)) (change found).2
    rw [same, joined] at ready
    refine (List.mem_append.mp ready).elim id fun new => ?_
    obtain ⟨waited, served⟩ := serves found task (named task new)
    obtain ⟨rfl, rfl⟩ := only found at_place waited
    have after := session?_onSession_self world place at_place change
    obtain rfl := Option.some.inj (here.symm.trans after)
    obtain granted | closed := served
    · exact absurd granted ungranted
    · exact absurd (closed.symm.trans unclosed) (by simp)

/-- Whoever waits in the line of an open session, and goes on to do so, is woken by no move of
others but the passing of time. -/
theorem Waits.not_stirred (waits : world.Waits) (free : world.isOpen move = true)
    (foreign : ¬ move.IsOwn task) (stands : ∀ moment, move ≠ .pass moment)
    (calm : ∀ (other : TaskId) found, world.tasks[other]? = some found →
      ¬ found.purpose.Rouses task)
    (there : world.session? site number = some session)
    (here : (world.apply move).session? site number = some later) (unclosed : later.closed = false)
    (waiting : task ∈ session.waiting) (still : task ∈ later.waiting)
    (ready : task ∈ (world.apply move).ready) : task ∈ world.ready := by
  obtain ⟨dispatch, pending, -⟩ :=
    (waits.placed task).lines site number session there (.inl waiting)
  have only {place : SiteId} {other : SessionId} (found : Session)
      (at_place : world.session? place other = some found) (inLine : task ∈ found.waiting) :
      place = site ∧ other = number :=
    waits.inLine_unique there (.inl waiting) at_place (.inl inLine)
  have ungranted : task ∉ later.granted :=
    ((waits.apply free).healthy site number later here).ungranted still
  have absent (new : task ∈ [world.tasks.length]) : task ∈ world.ready := by
    obtain rfl := List.mem_singleton.mp new
    exact absurd (dispatch?_of_new.symm.trans pending) (by simp)
  cases move with
  | resume me =>
    have differ : task ≠ me := fun same => foreign (.inl (by rw [same]))
    refine List.mem_of_mem_erase (?_ : task ∈ world.ready.erase me)
    cases running : world.tasks[me]? with
    | none => rwa [World.apply, resume_absent running] at ready
    | some found =>
      have turn := turn_resume running (waits.sound me found running).1
      exact turn.stirs (waits.departs running) differ pending (calm me found running) ready
  | pass moment => exact absurd rfl (stands moment)
  | request place request => exact (List.mem_append.mp ready).elim id absent
  | shutdown sites logged => exact (List.mem_append.mp ready).elim id absent
  | cancel me =>
    cases running : world.tasks[me]? with
    | none => simp [isOpen, isCall, running] at free
    | some found =>
      obtain ⟨-, same⟩ | ⟨-, same⟩ | ⟨dispatch, -, same⟩ :=
        cancel_call_cases free running (waits.sound me found running).1
      · rwa [World.apply, same] at ready
      · rw [World.apply, same] at ready
        exact List.mem_of_mem_erase ready
      · rw [World.apply, same] at ready here
        generalize left_eq : ({ world with ready := world.ready.erase me } : World).finish me
          .cancelled = left at ready here
        have sessions (place : SiteId) (other : SessionId) :
            left.session? place other = world.session? place other := by
          rw [← left_eq]
          rfl
        have erased : left.ready = world.ready.erase me := by
          rw [← left_eq]
          rfl
        rw [giveUpSend] at ready here
        refine List.mem_of_mem_erase (erased ▸ not_stirred_onSession
          (fun found at_place => only found ((sessions _ _).symm.trans at_place))
          (fun found task served => ⟨?_, .inl (List.mem_append_right _ served)⟩)
          here unclosed ungranted ready)
        exact List.mem_of_mem_erase (List.mem_of_mem_take served)
  | enqueue place group topic items => exact ready
  | read place other limit =>
    exact not_stirred_onSession only (fun found task served =>
      ⟨List.mem_of_mem_take served, .inl (List.mem_append_right _ served)⟩) here unclosed
      ungranted ready
  | close place other =>
    exact not_stirred_onSession only (fun found task served => ⟨served, .inr rfl⟩) here unclosed
      ungranted ready
  | renew place key => exact ready

/-- A task that ends takes no timers with it but its own. -/
theorem filter_timers_finish (world : World) (outcome : Outcome) {keep : TaskId → Bool}
    (foreign : keep me = false) :
    (world.finish me outcome).timers.filter (fun timer => keep timer.task) =
      world.timers.filter (fun timer => keep timer.task) := by
  rw [finish, List.filter_filter]
  refine List.filter_congr fun timer _ => ?_
  by_cases mine : timer.task = me
  · simp [mine, foreign]
  · simp [mine]

/-- A stroke touches no timers but those of its task. -/
theorem Stroke.timers_eq (stroke : Stroke me purpose sends hands before after)
    {keep : TaskId → Bool} (foreign : keep me = false) :
    after.timers.filter (fun timer => keep timer.task) =
      before.timers.filter (fun timer => keep timer.task) := by
  cases stroke with
  | wake other =>
    obtain ⟨ready, same⟩ := exists_wake before other
    rw [same]
  | setTimer due => simp [World.setTimer, foreign]
  | finish outcome => exact filter_timers_finish before outcome foreign
  | tell target answer =>
    obtain same | ⟨found, -, -, same⟩ := tellAnswer_cases before target answer
    · rw [same]
    · obtain ⟨ready, woken⟩ := exists_wake (before.setStage target (.told answer)) target
      rw [same, woken]
      rfl
  | setState site actor component state =>
    obtain ⟨-, same⟩ | ⟨entries, same⟩ := setState_cases before site actor component state
    · rw [same]
    · rw [same]
      rfl
  | touch site session change =>
    obtain ⟨ready, same⟩ := exists_onSession before site session change
    rw [same]
    rfl
  | _ => rfl

/-- Strokes touch no timers but those of their task. -/
theorem Strokes.timers_eq (strokes : Strokes me purpose sends hands before after)
    {keep : TaskId → Bool} (foreign : keep me = false) :
    after.timers.filter (fun timer => keep timer.task) =
      before.timers.filter (fun timer => keep timer.task) :=
  strokes.keeps (P := fun before after => after.timers.filter (fun timer => keep timer.task) =
    before.timers.filter (fun timer => keep timer.task)) (fun _ => rfl)
    (fun first second => second.trans first) fun stroke => stroke.timers_eq foreign

/-- A move touches no timers but those of its own task, unless time passes. -/
theorem timers_apply (sound : world.Sound) {keep : TaskId → Bool}
    (foreign : ∀ task, move.IsOwn task → keep task = false)
    (stands : ∀ moment, move ≠ .pass moment) :
    (world.apply move).timers.filter (fun timer => keep timer.task) =
      world.timers.filter (fun timer => keep timer.task) := by
  have quiet {left : World} (place : SiteId) (other : SessionId)
      (change : Session → Session × List TaskId) :
      (left.onSession place other change).timers = left.timers := by
    obtain ⟨ready, same⟩ := exists_onSession left place other change
    rw [same]
    rfl
  cases move with
  | resume me =>
    cases running : world.tasks[me]? with
    | none => rw [apply, resume_absent running]
    | some found =>
      have strokes := strokes_resume running (sound me found running).1
      exact strokes.timers_eq (foreign me (.inl rfl))
  | pass moment => exact absurd rfl (stands moment)
  | cancel me =>
    have ended := filter_timers_finish { world with ready := world.ready.erase me } .cancelled
      (foreign me (.inr rfl))
    obtain same | ⟨_, rfl, same | ⟨place, session, same⟩ | ⟨parent, same⟩⟩ := cancel_forms world me
    · rw [apply, same]
    · rw [apply, same, ended]
    · rw [apply, same, giveUpSend, quiet, ended]
    · obtain ⟨ready, woken⟩ := exists_wake (World.finish _ me .cancelled) parent
      rw [apply, same, woken, ended]
  | read place other limit => rw [apply, quiet]
  | close place other => rw [apply, quiet]
  | _ => rfl

end ClusterGateway.World
