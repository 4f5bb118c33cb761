import ClusterGateway.Proofs.Delivery.Handover

/-!
# Where deliveries begin

What a task delivers was fixed in the step in which the delivery began, when the task ran
for the first time or had just got its message. Every offset that a session has accepted
is signed by the task that has delivered it, and no task has delivered twice. Main
statements: `Delivers.begun`, `Opened.signed`.
-/

namespace ClusterGateway.World

variable {start world before after last : World} {me task : TaskId} {found : Task}
  {dispatch : Dispatch} {moves : List Move} {move : Move} {site : SiteId} {number : SessionId}

/-- In a run a delivery begins, in a step of its task. -/
structure Launched (start : World) (moves : List Move) (task : TaskId) (dispatch : Dispatch)
    (before : World) (found : Task) : Prop where
  makes : start.Makes moves (.resume task) before
  idle : before.dispatch? task = none
  there : before.tasks[task]? = some found
  alive : ∀ outcome, found.stage ≠ .ended outcome
  begins : found.purpose.Begins before dispatch

/-- A beginning is part of a longer run, too. -/
theorem Launched.concat (begun : Launched start moves task dispatch before found) (move : Move) :
    Launched start (moves ++ [move]) task dispatch before found :=
  ⟨begun.makes.concat move, begun.idle, begun.there, begun.alive, begun.begins⟩

/-- A task gets in line only when it runs. -/
theorem resumed_of_begun (waits : world.Waits) (free : world.isOpen move = true)
    (idle : world.dispatch? task = none)
    (pending : (world.apply move).dispatch? task = some dispatch) : move = .resume task := by
  by_cases resumed : move = .resume task
  · exact resumed
  obtain ⟨later, there, waiting⟩ := exists_of_dispatch? pending
  cases present : world.tasks[task]? with
  | none =>
    obtain ⟨fresh, -⟩ := born_apply waits.sound free present there
    simp [Task.dispatch?, fresh] at waiting
  | some found =>
    have dispatched : found.dispatch? = none := by
      simpa only [dispatch?, present, Option.bind_some] using idle
    by_cases cancelled : move = .cancel task
    · subst cancelled
      obtain ⟨⟨outcome, ended⟩, same⟩ | ⟨-, -, ready, same, -⟩ | ⟨other, same, -⟩ :=
        cancel_cases present (waits.sound task found present).1
      · rw [apply, same] at pending
        exact absurd (idle.symm.trans pending) (by simp)
      · have gone : (world.apply (.cancel task)).dispatch? task = none := by
          rw [apply, same]
          exact dispatch?_finish _ task .cancelled
        exact absurd (gone.symm.trans pending) (by simp)
      · exact absurd (dispatched.symm.trans same) (by simp)
    · obtain ⟨stage, after, moved⟩ := kept_apply waits.sound move present
      obtain rfl := Option.some.inj (after.symm.trans there)
      obtain rfl | ⟨alike, -⟩ | ⟨own | own, -⟩ := moved
      · exact absurd (dispatched.symm.trans waiting) (by simp)
      · have waits : ({ found with stage := stage } : Task).stage.AwaitsAlike found.stage :=
          alike.symm
        exact absurd (waiting.symm.trans (dispatch?_of_alike waits)) (by simp)
      · exact absurd own resumed
      · exact absurd own cancelled

/-- A delivery that is pending at the end of a run has begun in it. -/
theorem exists_begun (opened : start.Opened) (played : start.play? moves = some last)
    (pending : last.dispatch? task = some dispatch) :
    ∃ before found, Launched start moves task dispatch before found := by
  induction moves, last, played using run_induction with
  | nil =>
    simp [dispatch?, opened.untouched.1] at pending
  | concat moves world move first free ih =>
    have waits : world.Waits := opened.waits.reaches ⟨moves, first⟩
    cases idle : world.dispatch? task with
    | some earlier =>
      obtain still | ⟨outcome, -, settled⟩ := pending_apply waits free idle
      · obtain rfl := Option.some.inj (still.symm.trans pending)
        obtain ⟨before, found, begun⟩ := ih idle
        exact ⟨before, found, begun.concat move⟩
      · exact absurd ((dispatch?_of_outcome? settled).symm.trans pending) (by simp)
    | none =>
      obtain rfl := resumed_of_begun waits free idle pending
      obtain ⟨found, there, begins⟩ := begins_of_begun waits idle pending
      refine ⟨world, found, makes_last _ first, idle, there, ?_, begins⟩
      intro outcome ended
      have settled := outcome?_eq_some_iff.mpr ⟨found, there, ended⟩
      have gone := dispatch?_of_outcome? (outcome?_apply waits.sound (.resume task) settled)
      exact absurd (gone.symm.trans pending) (by simp)

/-- What a task delivers at the end of a run has begun in that step or before. -/
theorem Delivers.begun (opened : start.Opened) (played : start.play? moves = some world)
    (delivers : Delivers me dispatch world after) :
    ∃ before found, Launched start (moves ++ [.resume me]) me dispatch before found := by
  obtain pending | ⟨idle, found, there, begins⟩ := delivers.origin
  · obtain ⟨before, found, begun⟩ := exists_begun opened played pending
    exact ⟨before, found, begun.concat _⟩
  · exact ⟨world, found, makes_last _ played, idle, there,
      (isOver_eq_false there).mp delivers.alive, begins⟩

/-- A task that neither has ended nor waits for room, and does not fetch, runs for the first
time. -/
theorem Launched.enters (opened : start.Opened) (played : start.play? moves = some last)
    (begun : Launched start moves task dispatch before found)
    (plain : ∀ site group topic ack, found.purpose ≠ .request site (.consume group topic ack)) :
    Enters start moves task found.purpose before := by
  have sound : before.Sound := opened.sound.reaches (begun.makes.free played).1
  have fits := (sound task found begun.there).1
  have idle : found.dispatch? = none := by
    simpa only [dispatch?, begun.there, Option.bind_some] using begun.idle
  have there := begun.there
  have alive := begun.alive
  have begins := begun.begins
  obtain ⟨actor, purpose, stage⟩ := found
  refine ⟨begun.makes, actor, ?_⟩
  rw [there]
  dsimp only at fits begins plain alive
  have fresh : stage = .fresh := by
    unfold Purpose.Begins at begins
    split at begins
    · cases stage <;> simp_all [Stage.Fits, Task.dispatch?]
    · cases stage <;> simp_all [Stage.Fits, Task.dispatch?]
    · exact absurd rfl (plain _ _ _ _)
    · exact begins.elim
  rw [fresh]

/-- Every offset that a session has accepted is signed by the task that has sent it, and no
task has signed two. -/
structure Signed (world : World) : Prop where
  signed : ∀ site number event, event ∈ world.accepted site number →
    ∃ sender, event.sender = some sender
  distinct : ∀ site number, ((world.accepted site number).map (·.sender)).Nodup
  apart : ∀ site number place other (first second : Acknowledged),
    first ∈ world.accepted site number → second ∈ world.accepted place other →
      first.sender = second.sender → site = place ∧ number = other

/-- What a session has accepted it has accepted for good. -/
theorem mem_accepted_apply (waits : world.Waits) (move : Move) {event : Acknowledged}
    (there : event ∈ world.accepted site number) :
    event ∈ (world.apply move).accepted site number := by
  obtain ⟨me, dispatch, -, delivers⟩ | ⟨same, -⟩ := accepted_apply waits move
  · rw [delivers.accepts]
    exact List.mem_append_left _ there
  · rw [same]
    exact there

/-- What a session has accepted it has accepted for the rest of a run. -/
theorem Waits.mem_accepted (waits : world.Waits) (reaches : world.Reaches last)
    {event : Acknowledged} (there : event ∈ world.accepted site number) :
    event ∈ last.accepted site number :=
  waits.keeps (P := fun world => event ∈ world.accepted site number)
    (fun _ move waits _ there => mem_accepted_apply waits move there) there reaches

/-- A task that has not ended has signed nothing. -/
theorem Unsent.sender_ne (unsent : world.Unsent) (unended : world.outcome? me = none)
    {event : Acknowledged} (there : event ∈ world.accepted site number) :
    event.sender ≠ some me := by
  intro mine
  have nothing : world.sentBy me site number = [] := unsent me site number unended
  have sent : event ∈ world.sentBy me site number :=
    List.mem_filter.mpr ⟨there, by simp [mine]⟩
  rw [nothing] at sent
  exact absurd sent List.not_mem_nil

/-- What a session has accepted after a delivery it had accepted before, or it is what was
delivered. -/
theorem Delivers.mem_accepted (delivers : Delivers me dispatch before after)
    {event : Acknowledged} (there : event ∈ after.accepted site number) :
    event ∈ before.accepted site number ∨
      dispatch.site = site ∧ dispatch.session = number ∧ event = ⟨some me, dispatch.offset⟩ := by
  rw [delivers.accepts] at there
  rcases List.mem_append.mp there with old | new
  · exact .inl old
  · split at new
    · rename_i here
      exact .inr ⟨here.1, here.2, List.mem_singleton.mp new⟩
    · exact absurd new List.not_mem_nil

/-- Open moves keep signatures apart. -/
theorem Signed.apply (signed : world.Signed) (waits : world.Waits) (unsent : world.Unsent)
    (move : Move) : (world.apply move).Signed := by
  obtain ⟨me, dispatch, -, delivers⟩ | ⟨same, -⟩ := accepted_apply waits move
  · generalize world.apply move = after at delivers
    have foreign {site : SiteId} {number : SessionId} {event : Acknowledged}
        (there : event ∈ world.accepted site number) : event.sender ≠ some me :=
      unsent.sender_ne delivers.unended there
    refine ⟨?_, ?_, ?_⟩
    · intro site number event there
      obtain old | ⟨-, -, rfl⟩ := delivers.mem_accepted there
      · exact signed.signed site number event old
      · exact ⟨me, rfl⟩
    · intro site number
      rw [delivers.accepts, List.map_append]
      refine List.nodup_append.mpr ⟨signed.distinct site number, ?_, ?_⟩
      · split <;> simp
      · intro sender old other new
        obtain ⟨event, there, rfl⟩ := List.mem_map.mp old
        split at new
        · obtain rfl : other = some me := by simpa using new
          exact foreign there
        · simp at new
    · intro site number place other first second there here same
      obtain old | ⟨rfl, rfl, rfl⟩ := delivers.mem_accepted there
      · obtain early | ⟨rfl, rfl, rfl⟩ := delivers.mem_accepted here
        · exact signed.apart site number place other first second old early same
        · exact absurd same (foreign old)
      · obtain early | ⟨rfl, rfl, -⟩ := delivers.mem_accepted here
        · exact absurd same.symm (foreign early)
        · exact ⟨rfl, rfl⟩
  · refine ⟨?_, ?_, ?_⟩
    · intro site number event there
      rw [same] at there
      exact signed.signed site number event there
    · intro site number
      rw [same]
      exact signed.distinct site number
    · intro site number place other first second there here
      rw [same] at there here
      exact signed.apart site number place other first second there here

/-- In every world that can be reached, no task has signed two offsets. -/
theorem Opened.signed (opened : start.Opened) (reaches : start.Reaches last) : last.Signed := by
  have both : last.Signed ∧ last.Unsent := by
    refine opened.waits.keeps (P := fun world => world.Signed ∧ world.Unsent) ?_
      ⟨⟨?_, ?_, ?_⟩, opened.unsent (.refl start)⟩ reaches
    · rintro world move waits - ⟨signed, unsent⟩
      exact ⟨signed.apply waits unsent move, unsent.apply waits move⟩
    · intro site number event there
      simp [opened.accepted_eq_nil] at there
    · intro site number
      simp [opened.accepted_eq_nil]
    · intro site number place other first second there
      simp [opened.accepted_eq_nil] at there
  exact both.1

end ClusterGateway.World
