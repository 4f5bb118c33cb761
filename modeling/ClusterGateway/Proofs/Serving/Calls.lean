import ClusterGateway.Proofs.Delivery.Handover

/-!
# Calls and their helpers

A request may start a task that helps it: one that delivers its acknowledgement, or one that
brings it the answer it waits for. It does so only in a step of its own, so a request that
has not run has no helper, and one that has ended gets none any more. Main statements:
`Opened.helped`, `Unaided.reaches`, `enters_or_cancelled`.
-/

namespace ClusterGateway

/-- The request that a task helps. -/
def Purpose.helps? : Purpose → Option TaskId
  | .deliverAck _ _ _ _ principal => some principal
  | .deliverAnswer target _ _ => some target
  | _ => none

/-- Only a request to produce or to consume starts a task that helps it. -/
theorem Purpose.Bears.helps? {parent : TaskId} {purpose child : Purpose}
    (bears : purpose.Bears parent child ∨ purpose.HandsOn parent child) {principal : TaskId}
    (helps : child.helps? = some principal) : principal = parent ∧ ∃ site request,
      purpose = .request site request ∧ ((∃ submission, request = .produce submission) ∨
        ∃ group topic ack, request = .consume group topic ack) := by
  obtain bears | hands := bears
  · unfold Purpose.Bears at bears
    split at bears
    · subst bears
      exact ⟨(Option.some.inj helps).symm, _, _, rfl, .inl ⟨_, rfl⟩⟩
    · subst bears
      exact ⟨(Option.some.inj helps).symm, _, _, rfl, .inr ⟨_, _, _, rfl⟩⟩
    · simp [Purpose.helps?] at helps
    · simp [Purpose.helps?] at helps
    · exact bears.elim
  · unfold Purpose.HandsOn at hands
    split at hands
    · obtain ⟨-, -, -, rfl⟩ := hands
      exact ⟨(Option.some.inj helps).symm, _, _, rfl, .inr ⟨_, _, _, rfl⟩⟩
    · exact hands.elim

namespace World

variable {start world last : World} {task me child principal : TaskId} {found helper : Task}
  {move : Move} {moves : List Move} {site : SiteId} {place : Site} {request : Request}

/-- No task helps a request. -/
def Unaided (world : World) (task : TaskId) : Prop :=
  ∀ (child : TaskId) (helper : Task), world.tasks[child]? = some helper →
    helper.purpose.helps? ≠ some task

/-- A request to produce that has been handed on has run. -/
theorem ran_beginProduce (there : world.tasks[me]? = some found) (submission : Submission) :
    (world.beginProduce me site place submission).Ran me := by
  unfold beginProduce
  split
  · generalize place.broker.submit world.script submission = result
    obtain ⟨broker, answer, delay⟩ := result
    dsimp only
    have served : (world.onBroker site fun _ => broker).tasks[me]? = some found := there
    split
    · cases answer <;> exact ran_conclude served _
    · exact ran_setStage (getElem?_spawn_of_some _ served) nofun
  · exact ran_conclude there _

/-- A request to produce or to consume that is resumed has run. -/
theorem ran_resume (sound : world.Sound) (there : world.tasks[me]? = some found)
    (asks : found.purpose = .request site request)
    (fetches : (∃ submission, request = .produce submission) ∨
      ∃ group topic ack, request = .consume group topic ack) : (world.resume me).Ran me := by
  by_cases fresh : found.stage = .fresh
  · have mine : ({ world with ready := world.ready.erase me } : World).tasks[me]? = some found :=
      there
    rw [resume_eq there]
    generalize ({ world with ready := world.ready.erase me } : World) = left at mine ⊢
    simp only [proceed, fresh, asks, World.start]
    cases left.sites[site]? with
    | none => exact ran_setStage mine (by simp)
    | some place =>
      obtain ⟨submission, rfl⟩ | ⟨group, topic, ack, rfl⟩ := fetches
      · exact ran_beginProduce mine submission
      · dsimp only [beginConsume]
        cases ack with
        | explicit partition offset =>
          exact ran_beginFetch (there_beginBackgroundAck mine found.actor _ offset) _ _ _ _
        | _ => exact ran_beginFetch mine _ _ _ _
  · exact Ran.apply sound ⟨found, there, fresh⟩ (.resume me)

/-- A task that has not ended, waits in no line of a session and is cancelled has ended so. -/
theorem outcome?_cancel (sound : world.Sound) (there : world.tasks[task]? = some found)
    (alive : ∀ outcome, found.stage ≠ .ended outcome) (idle : found.dispatch? = none) :
    (world.cancel task).outcome? task = some .cancelled := by
  obtain ⟨⟨outcome, ended⟩, -⟩ | ⟨-, -, ready, same, -⟩ | ⟨dispatch, waits, -⟩ :=
    cancel_cases there (sound task found there).1
  · exact absurd ended (alive outcome)
  · rw [same]
    exact outcome?_conclude there none [] .cancelled
  · exact absurd (idle.symm.trans waits) (by simp)

/-- A task that is cancelled before it runs has ended so. -/
theorem outcome?_cancel_of_fresh (sound : world.Sound) (there : world.tasks[task]? = some found)
    (fresh : found.stage = .fresh) : (world.cancel task).outcome? task = some .cancelled :=
  outcome?_cancel sound there (by simp [fresh]) (by simp [Task.dispatch?, fresh])

/-- A task that does not stand before its first step any more has made it, or was cancelled. -/
theorem enters_or_cancelled (opened : start.Opened) (played : start.play? moves = some last)
    (there : last.tasks[task]? = some found) (aged : found.stage ≠ .fresh) :
    (∃ before, Enters start moves task found.purpose before) ∨
      last.outcome? task = some .cancelled := by
  induction moves, last, played using run_induction generalizing found with
  | nil =>
    simp [opened.untouched.1] at there
  | concat moves world move first free ih =>
    have sound : world.Sound := opened.sound.reaches ⟨moves, first⟩
    cases before : world.tasks[task]? with
    | none => exact absurd (born_apply sound free before there).1 aged
    | some earlier =>
      obtain ⟨stage, later, moved⟩ := kept_apply sound move before
      obtain rfl := Option.some.inj (later.symm.trans there)
      by_cases fresh : earlier.stage = .fresh
      · obtain rfl | ⟨alike, -⟩ | ⟨rfl | rfl, -⟩ := moved
        · exact absurd fresh aged
        · rw [fresh] at alike
          exact alike.elim
        · obtain ⟨actor, purpose, stage⟩ := earlier
          obtain rfl : stage = .fresh := fresh
          exact .inl ⟨world, makes_last _ first, actor, before⟩
        · exact .inr (outcome?_cancel_of_fresh sound before fresh)
      · obtain ⟨begun, enters⟩ | cancelled := ih before fresh
        · exact .inl ⟨begun, enters.concat move⟩
        · exact .inr (outcome?_apply sound move cancelled)

/-- A helper is started in a step of the request that it helps, and that request has run. -/
theorem Born.helps (sound : world.Sound) {purpose : Purpose} (born : world.Born move purpose)
    (helps : purpose.helps? = some principal) :
    move = .resume principal ∧ (world.apply move).Ran principal := by
  cases born with
  | request => simp [Purpose.helps?] at helps
  | shutdown => simp [Purpose.helps?] at helps
  | @borne me parent child mine bears =>
    obtain ⟨rfl, site, request, asks, fetches⟩ := Purpose.Bears.helps? (.inl bears) helps
    exact ⟨rfl, ran_resume sound mine asks fetches⟩
  | @handed me parent child mine hands =>
    obtain ⟨rfl, site, request, asks, fetches⟩ := Purpose.Bears.helps? (.inr hands) helps
    exact ⟨rfl, ran_resume sound mine asks fetches⟩

/-- In every world that can be reached, a request that has a helper has run. -/
theorem Opened.helped (opened : start.Opened) (reaches : start.Reaches last)
    (there : last.tasks[child]? = some helper) (helps : helper.purpose.helps? = some principal) :
    last.Ran principal := by
  have all : ∀ (child : TaskId) (helper : Task) principal, last.tasks[child]? = some helper →
      helper.purpose.helps? = some principal → last.Ran principal := by
    refine opened.sound.keeps (P := fun world => ∀ (child : TaskId) (helper : Task) principal,
      world.tasks[child]? = some helper → helper.purpose.helps? = some principal →
        world.Ran principal) ?_ ?_ reaches
    · intro world move sound free ran child helper principal there helps
      obtain born | ⟨earlier, before, same⟩ := born_or_kept sound free there
      · exact (born.helps sound helps).2
      · exact (ran child earlier principal before (same ▸ helps)).apply sound move
    · intro child helper principal there
      simp [opened.untouched.1] at there
  exact all child helper principal there helps

/-- A request that has not run has no helper. -/
theorem Opened.unaided (opened : start.Opened) (reaches : start.Reaches last)
    (there : last.tasks[task]? = some found) (fresh : found.stage = .fresh) :
    last.Unaided task := by
  intro child helper here helps
  obtain ⟨running, mine, aged⟩ := opened.helped reaches here helps
  obtain rfl := Option.some.inj (there.symm.trans mine)
  exact aged fresh

/-- Only a step of its own gets a request a helper. -/
theorem Unaided.apply (unaided : world.Unaided task) (sound : world.Sound)
    (free : world.isOpen move = true) (foreign : move ≠ .resume task) :
    (world.apply move).Unaided task := by
  intro child helper there helps
  obtain born | ⟨earlier, before, same⟩ := born_or_kept sound free there
  · exact foreign (born.helps sound helps).1
  · exact unaided child earlier before (same ▸ helps)

/-- A task that has ended does nothing more. -/
theorem resume_ended {outcome : Outcome} (ended : world.outcome? task = some outcome) :
    world.resume task = { world with ready := world.ready.erase task } := by
  obtain ⟨found, there, stage⟩ := outcome?_eq_some_iff.mp ended
  rw [resume_eq there]
  simp only [proceed, stage]

/-- A request that has ended without a helper gets none any more. -/
theorem Unaided.reaches (unaided : world.Unaided task) (sound : world.Sound) {outcome : Outcome}
    (ended : world.outcome? task = some outcome) (reaches : world.Reaches last) :
    last.Unaided task := by
  have both : last.outcome? task = some outcome ∧ last.Unaided task := by
    refine sound.keeps (P := fun world => world.outcome? task = some outcome ∧
      world.Unaided task) ?_ ⟨ended, unaided⟩ reaches
    rintro world move sound free ⟨ended, unaided⟩
    refine ⟨outcome?_apply sound move ended, ?_⟩
    by_cases own : move = .resume task
    · subst own
      rw [World.apply, resume_ended ended]
      exact unaided
    · exact unaided.apply sound free own
  exact both.2

end World

end ClusterGateway
