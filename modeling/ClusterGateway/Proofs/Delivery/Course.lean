import ClusterGateway.Proofs.Delivery.Acceptance
import ClusterGateway.Proofs.World.Waking

/-!
# The course of a delivery

A task that waits for room goes on to wait, in the line of the same session and until the
same time, until it is cancelled or the state of its session decides how the delivery ends.
Main statement: `course`, along a run a delivery is still pending or has ended in one step.
-/

namespace ClusterGateway

/-- The state of a session decides how the delivery of a task ends when it runs; `late` says
that the delivery is over at that time. -/
def Session.Decides (session : Session) (task : TaskId) (late : Prop) : World.DeliveryEnd → Prop
  | .closed => session.closed = true
  | .accepted => session.closed = false ∧ task ∈ session.granted
  | .timedOut => session.closed = false ∧ task ∉ session.granted ∧ late

namespace World

/-- A step that ends the delivery for which a task waits: the call is cancelled, or the state
of the session decides. -/
inductive Ends (me : TaskId) (dispatch : Dispatch) (before : World) : Move → Outcome → Prop
  | cancelled : Ends me dispatch before (.cancel me) .cancelled
  | decided {found : Task} {session : Session} {result : DeliveryEnd} {outcome : Outcome}
    (mine : before.tasks[me]? = some found)
    (there : before.session? dispatch.site dispatch.session = some session)
    (decides : session.Decides me (dispatch.due = some before.now) result)
    (concludes : found.purpose.Concludes dispatch result outcome) :
    Ends me dispatch before (.resume me) outcome

variable {world before after : World} {me task : TaskId} {found : Task} {dispatch : Dispatch}

/-- A task that waits for room is there. -/
theorem exists_of_dispatch? (pending : world.dispatch? task = some dispatch) :
    ∃ found, world.tasks[task]? = some found ∧ found.dispatch? = some dispatch :=
  Option.bind_eq_some_iff.mp pending

/-- A task that waits elsewhere for the same kind of answer does not wait for room. -/
theorem dispatch?_of_alike {stage : Stage} (alike : found.stage.AwaitsAlike stage) :
    found.dispatch? = none := by
  obtain ⟨actor, purpose, old⟩ := found
  cases old <;> cases stage <;> simp_all [Stage.AwaitsAlike, Task.dispatch?]

/-- What a task waits for is changed by no move of others. -/
theorem dispatch?_apply (sound : world.Sound) {move : Move} (foreign : ¬ move.IsOwn me)
    (there : world.tasks[me]? = some found) :
    (world.apply move).dispatch? me = world.dispatch? me := by
  obtain ⟨stage, later, moved⟩ := kept_apply sound move there
  simp only [dispatch?, later, there, Option.bind_some]
  obtain rfl | ⟨alike, -⟩ | ⟨own, -⟩ := moved
  · rfl
  · have after : ({ found with stage := stage } : Task).dispatch? = none :=
      dispatch?_of_alike alike.symm
    exact after.trans (dispatch?_of_alike alike).symm
  · exact absurd own foreign

/-- An open move leaves a delivery pending, or ends it. -/
theorem pending_apply (waits : world.Waits) {move : Move} (free : world.isOpen move = true)
    (pending : world.dispatch? me = some dispatch) :
    (world.apply move).dispatch? me = some dispatch ∨
      ∃ outcome, Ends me dispatch world move outcome ∧
        (world.apply move).outcome? me = some outcome := by
  obtain ⟨found, there, waiting⟩ := exists_of_dispatch? pending
  have fits := (waits.sound me found there).1
  by_cases resumed : move = .resume me
  · subst resumed
    have turn := turn_resume there fits
    have departs := waits.departs there
    obtain ⟨session, here, -⟩ := (waits.placed me).place dispatch pending
    show (world.resume me).dispatch? me = _ ∨ ∃ outcome, _ ∧ (world.resume me).outcome? me = _
    generalize world.resume me = after at turn ⊢
    cases turn with
    | quiet strokes alive idle => simp [waiting] at idle
    | settled ended => simp [Task.dispatch?, ended] at waiting
    | sent actor entries strokes alive idle => simp [waiting] at idle
    | dropped actor entries strokes alive idle => simp [waiting] at idle
    | queued strokes alive idle => simp [waiting] at idle
    | @refused other outcome actor entries same shut concludes =>
      obtain rfl := Option.some.inj (waiting.symm.trans same)
      have decides : session.Decides me (dispatch.due = some world.now) .closed := shut session here
      exact .inr ⟨outcome, .decided there here decides concludes,
        outcome?_conclude departs.there actor entries outcome⟩
    | @filled other place outcome actor entries same at_place unclosed granted concludes =>
      obtain rfl := Option.some.inj (waiting.symm.trans same)
      have decides : place.Decides me (dispatch.due = some world.now) .accepted :=
        ⟨unclosed, granted⟩
      exact .inr ⟨outcome, .decided there at_place decides concludes,
        outcome?_conclude (there_onSession _ _ _ departs.there) actor entries outcome⟩
    | @gaveUp other place outcome due actor entries same at_place unclosed ungranted timed late
        concludes =>
      obtain rfl := Option.some.inj (waiting.symm.trans same)
      obtain ⟨early, -⟩ := departs.timed dispatch due waiting timed
      have now : dispatch.due = some world.now := by
        rw [timed, Nat.le_antisymm late early]
      have decides : place.Decides me (dispatch.due = some world.now) .timedOut :=
        ⟨unclosed, ungranted, now⟩
      exact .inr ⟨outcome, .decided there at_place decides concludes,
        outcome?_conclude (there_onSession _ _ _ departs.there) actor entries outcome⟩
    | stays => exact .inl pending
  by_cases cancelled : move = .cancel me
  · subst cancelled
    obtain ⟨⟨outcome, ended⟩, -⟩ | ⟨-, idle, -⟩ | ⟨other, same, gone⟩ := cancel_cases there fits
    · exact absurd ended (alive_of_dispatch? waiting outcome)
    · simp [waiting] at idle
    · refine .inr ⟨.cancelled, .cancelled, ?_⟩
      rw [apply, gone, giveUpSend]
      refine outcome?_eq_some_iff.mpr ⟨{ found with stage := .ended .cancelled }, ?_, rfl⟩
      rw [tasks_onSession, getElem?_finish, if_pos rfl]
      show (world.tasks[me]?).map _ = _
      rw [there]
      rfl
  have foreign : ¬ move.IsOwn me := not_or.mpr ⟨resumed, cancelled⟩
  exact .inl ((dispatch?_apply waits.sound foreign there).trans pending)

/-- A task that gets in line has a dispatch that its purpose lets it begin. -/
theorem begins_of_begun (waits : before.Waits) (idle : before.dispatch? task = none)
    (begun : (before.resume task).dispatch? task = some dispatch) :
    ∃ found, before.tasks[task]? = some found ∧ found.purpose.Begins before dispatch := by
  cases there : before.tasks[task]? with
  | none =>
    rw [resume_absent there] at begun
    exact absurd (idle.symm.trans begun) (by simp)
  | some found =>
    have dispatched : before.dispatch? task = found.dispatch? := by
      simp only [dispatch?, there, Option.bind_some]
    have turn := turn_resume there (waits.sound task found there).1
    refine ⟨found, rfl, ?_⟩
    have ended (left : World) (actor : Option String) (entries : List LogEntry)
        (outcome : Outcome) : ((left.note actor entries).finish task outcome).dispatch? task ≠
          some dispatch := by
      rw [dispatch?_finish]
      simp
    generalize before.resume task = after at turn begun
    cases turn with
    | quiet strokes alive idle rests => exact absurd (rests.symm.trans begun) (by simp)
    | settled settled => exact absurd (idle.symm.trans begun) (by simp)
    | sent => exact absurd begun (ended _ _ _ _)
    | dropped => exact absurd begun (ended _ _ _ _)
    | @queued middle pending session stage strokes alive idle begins here full waiting =>
      obtain ⟨early, still, -⟩ := strokes.taskFrame.kept task found there
      obtain rfl := Option.some.inj ((dispatch?_queued still waiting).symm.trans begun)
      exact begins
    | refused => exact absurd begun (ended _ _ _ _)
    | filled => exact absurd begun (ended _ _ _ _)
    | gaveUp => exact absurd begun (ended _ _ _ _)
    | stays => exact absurd (idle.symm.trans begun) (by simp)

/-- A task that has ended waits for nothing. -/
theorem dispatch?_of_outcome? {outcome : Outcome} (settled : world.outcome? task = some outcome) :
    world.dispatch? task = none := by
  obtain ⟨found, there, ended⟩ := outcome?_eq_some_iff.mp settled
  simp [dispatch?, there, Task.dispatch?, ended]

/-- A run from `world` to `last` goes through `before`, and there `move` ends the delivery for
which a task waits. -/
structure EndsDuring (world last : World) (moves : List Move) (me : TaskId) (dispatch : Dispatch)
    (before : World) (move : Move) (outcome : Outcome) : Prop where
  split : ∃ early late, moves = early ++ move :: late ∧ world.play? early = some before ∧
    (before.apply move).play? late = some last
  free : before.isOpen move = true
  pending : before.dispatch? me = some dispatch
  ends : Ends me dispatch before move outcome
  ended : (before.apply move).outcome? me = some outcome
  settled : last.outcome? me = some outcome

/-- Along a run a delivery is pending all the time, or it ends in one step and stays so. -/
theorem course {last : World} {moves : List Move} (waits : world.Waits)
    (pending : world.dispatch? me = some dispatch) (played : world.play? moves = some last) :
    last.dispatch? me = some dispatch ∨
      ∃ before move outcome, EndsDuring world last moves me dispatch before move outcome := by
  induction moves generalizing world with
  | nil =>
    obtain rfl := Option.some.inj played
    exact .inl pending
  | cons move rest ih =>
    unfold play? at played
    split at played
    · rename_i free
      obtain still | ⟨outcome, ends, ended⟩ := pending_apply waits free pending
      · refine (ih (waits.apply free) still played).imp_right ?_
        rintro ⟨before, other, outcome, during⟩
        obtain ⟨early, late, rfl, first, after⟩ := during.split
        refine ⟨before, other, outcome, ⟨move :: early, late, rfl, ?_, after⟩, during.free,
          during.pending, during.ends, during.ended, during.settled⟩
        simp [play?, free, first]
      · have sound := (waits.apply free).sound
        exact .inr ⟨world, move, outcome, ⟨[], rest, rfl, rfl, played⟩, free, pending, ends, ended,
          sound.outcome?_reaches ⟨rest, played⟩ ended⟩
    · simp at played

end World

end ClusterGateway
