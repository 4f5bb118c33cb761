import ClusterGateway.Proofs.Opening
import ClusterGateway.Proofs.World.Frames
import ClusterGateway.Proofs.World.Runs
import ClusterGateway.Proofs.World.Steps

/-!
# Tasks along a run

A task keeps its purpose for as long as the world lasts, and waits only where its purpose
allows it. A new task is a call that somebody makes, or was started by the task that runs.
-/

namespace ClusterGateway.World

variable {world : World} {task : TaskId} {found : Task}

/-- Every task waits where its purpose allows it, and shuts no gateway down twice. -/
def Sound (world : World) : Prop :=
  ∀ (task : TaskId) (found : Task), world.tasks[task]? = some found →
    found.stage.Fits found.purpose ∧ found.purpose.shutsDown.Nodup

/-- A world without tasks is sound. -/
theorem sound_of_idle {world : World} (idle : world.tasks = []) : world.Sound := by
  intro task found there
  simp [idle] at there

/-- A task that is resumed leaves the line and goes on. -/
theorem resume_eq (there : world.tasks[task]? = some found) : world.resume task =
    ({ world with ready := world.ready.erase task } : World).proceed task found := by
  simp only [resume, there]

/-- A task that does not exist does nothing. -/
theorem resume_absent (absent : world.tasks[task]? = none) : world.resume task =
    { world with ready := world.ready.erase task } := by
  simp only [resume, absent]

/-- A task that is resumed makes strokes of its purpose. -/
theorem strokes_resume (there : world.tasks[task]? = some found)
    (fits : found.stage.Fits found.purpose) :
    Strokes task found.purpose found.purpose.Sends True
      { world with ready := world.ready.erase task } (world.resume task) := by
  rw [resume_eq there]
  exact strokes_proceed _ found fits fun _ _ => trivial

/-- A task that is resumed hands nothing on, unless it runs for the first time. -/
theorem strokes_resume_alone (there : world.tasks[task]? = some found)
    (fits : found.stage.Fits found.purpose)
    (alone : ¬ (found.stage = .fresh ∧ found.purpose.Entrusts)) :
    Strokes task found.purpose found.purpose.Sends False
      { world with ready := world.ready.erase task } (world.resume task) := by
  rw [resume_eq there]
  exact strokes_proceed _ found fits fun fresh entrusts => alone ⟨fresh, entrusts⟩

/-- A cancelled task has ended, all others stay. -/
theorem tasks_cancel (world : World) (task : TaskId) : (world.cancel task).tasks = world.tasks ∨
    (world.cancel task).tasks = (world.setStage task (.ended .cancelled)).tasks := by
  obtain same | ⟨ended, rfl, same | ⟨place, session, same⟩ | ⟨parent, same⟩⟩ :=
    cancel_forms world task
  · exact .inl (by rw [same])
  · exact .inr (by rw [same]; rfl)
  · right
    obtain ⟨ready, given⟩ := exists_onSession
      (({ world with ready := world.ready.erase task } : World).finish task .cancelled) place
        session (·.withdraw task)
    rw [same, giveUpSend, given]
    rfl
  · right
    obtain ⟨ready, woken⟩ := exists_wake
      (({ world with ready := world.ready.erase task } : World).finish task .cancelled) parent
    rw [same, woken]
    rfl

/-- Time that passes leaves the tasks alone. -/
theorem tasks_passTo (world : World) (moment : Nat) :
    (world.passTo moment).tasks = world.tasks := by
  obtain ⟨ready, same⟩ := exists_passTo world moment
  rw [same]

/-- A changed session leaves the tasks alone. -/
theorem tasks_onSession (world : World) (site : SiteId) (session : SessionId)
    (change : Session → Session × List TaskId) :
    (world.onSession site session change).tasks = world.tasks := by
  obtain ⟨ready, same⟩ := exists_onSession world site session change
  rw [same]
  rfl

/-- A move tells a task the answer that it waits for, and where it waits then. -/
def Tells (world : World) (move : Move) (task : TaskId) (stage : Stage) : Prop :=
  ∃ (me : TaskId) (teller : Task), move = .resume me ∧ world.tasks[me]? = some teller ∧
    teller.purpose.Tells task stage

/-- After an open move a task is what it was. It waits where it did, or has been told the answer
that it waits for, unless the move was its own. -/
theorem kept_apply (sound : world.Sound) (move : Move) (there : world.tasks[task]? = some found) :
    ∃ stage, (world.apply move).tasks[task]? = some { found with stage := stage } ∧
      (stage = found.stage ∨ found.stage.AwaitsAlike stage ∧ world.Tells move task stage ∨
        (move = .resume task ∨ move = .cancel task) ∧ stage.Fits found.purpose ∧
          stage ≠ .fresh) := by
  have same (after : World) (tasks : after.tasks = world.tasks) :
      ∃ stage, after.tasks[task]? = some { found with stage := stage } ∧
        (stage = found.stage ∨ found.stage.AwaitsAlike stage ∧ world.Tells move task stage ∨
          (move = .resume task ∨ move = .cancel task) ∧ stage.Fits found.purpose ∧
            stage ≠ .fresh) :=
    ⟨found.stage, by rw [tasks]; exact there, .inl rfl⟩
  cases move with
  | resume me =>
    cases mine : world.tasks[me]? with
    | none => exact same _ (by rw [apply, resume_absent mine])
    | some running =>
      have strokes := strokes_resume mine (sound me running mine).1
      obtain ⟨stage, later, moved⟩ := strokes.taskFrame.kept task found there
      refine ⟨stage, later, ?_⟩
      rcases moved with stays | ⟨alike, tells⟩ | ⟨rfl, fits⟩
      · exact .inl stays
      · exact .inr (.inl ⟨alike, me, running, rfl, mine, tells⟩)
      · obtain rfl := Option.some.inj (mine.symm.trans there)
        exact .inr (.inr ⟨.inl rfl, fits⟩)
  | pass moment => exact same _ (tasks_passTo world moment)
  | request site request =>
    exact ⟨found.stage, getElem?_spawn_of_some world there, .inl rfl⟩
  | shutdown sites logged =>
    exact ⟨found.stage, getElem?_spawn_of_some world there, .inl rfl⟩
  | cancel other =>
    rcases tasks_cancel world other with tasks | tasks
    · exact same _ tasks
    · show ∃ stage, (world.cancel other).tasks[task]? = _ ∧ _
      rw [tasks, getElem?_setStage]
      by_cases mine : other = task
      · subst mine
        exact ⟨.ended .cancelled, by simp [there], .inr (.inr ⟨.inr rfl, trivial, nofun⟩)⟩
      · exact ⟨found.stage, by simp [mine, there], .inl rfl⟩
  | enqueue site group topic items => exact same _ rfl
  | read site session limit => exact same _ (tasks_onSession ..)
  | close site session => exact same _ (tasks_onSession ..)
  | renew site key => exact same _ rfl

/-- A task that has an outcome has ended with it. -/
theorem outcome?_eq_some_iff {outcome : Outcome} : world.outcome? task = some outcome ↔
    ∃ found, world.tasks[task]? = some found ∧ found.stage = .ended outcome := by
  unfold outcome?
  constructor
  · intro told
    split at told
    · rename_i actor purpose result there
      obtain rfl := Option.some.inj told
      exact ⟨_, there, rfl⟩
    · simp at told
  · rintro ⟨⟨actor, purpose, stage⟩, there, rfl⟩
    rw [there]

/-- A task that has ended keeps its outcome. -/
theorem outcome?_apply (sound : world.Sound) (move : Move) {outcome : Outcome}
    (settled : world.outcome? task = some outcome) :
    (world.apply move).outcome? task = some outcome := by
  obtain ⟨found, there, ended⟩ := outcome?_eq_some_iff.mp settled
  by_cases resumed : move = .resume task
  · subst resumed
    rw [apply, resume_eq there]
    simp only [proceed, ended]
    exact settled
  by_cases cancelled : move = .cancel task
  · subst cancelled
    have same : world.cancel task = world := by
      unfold cancel
      rw [there]
      dsimp only
      rw [ended]
    rw [apply, same]
    exact settled
  obtain ⟨stage, after, moved⟩ := kept_apply sound move there
  refine outcome?_eq_some_iff.mpr ⟨_, after, ?_⟩
  obtain rfl | ⟨alike, -⟩ | ⟨own | own, -⟩ := moved
  · exact ended
  · rw [ended] at alike
    exact alike.elim
  · exact absurd own resumed
  · exact absurd own cancelled

/-- Where a new task comes from: somebody has made a call, or the task that runs has started
it. -/
inductive Born (world : World) : Move → Purpose → Prop
  | request (site : SiteId) (request : Request) :
    Born world (.request site request) (.request site request)
  | shutdown {sites : List SiteId} (distinct : sites.Nodup) (logged : Bool) :
    Born world (.shutdown sites logged) (.shutdown sites logged)
  | borne {me : TaskId} {parent : Task} {child : Purpose} (mine : world.tasks[me]? = some parent)
    (bears : parent.purpose.Bears me child) : Born world (.resume me) child
  | handed {me : TaskId} {parent : Task} {child : Purpose} (mine : world.tasks[me]? = some parent)
    (hands : parent.purpose.HandsOn me child) : Born world (.resume me) child

/-- A task that an open move starts has not run. -/
theorem born_apply (sound : world.Sound) {move : Move} (free : world.isOpen move = true)
    (absent : world.tasks[task]? = none)
    (there : (world.apply move).tasks[task]? = some found) :
    found.stage = .fresh ∧ world.Born move found.purpose := by
  have same {after : World} (tasks : after.tasks = world.tasks)
      (there : after.tasks[task]? = some found) :
      found.stage = .fresh ∧ world.Born move found.purpose := by
    simp [tasks, absent] at there
  cases move with
  | resume me =>
    cases mine : world.tasks[me]? with
    | none => exact same (by rw [apply, resume_absent mine]) there
    | some running =>
      have strokes := strokes_resume mine (sound me running mine).1
      have foreign : task ≠ me := by
        rintro rfl
        simp [absent] at mine
      obtain ⟨fresh, bears | ⟨-, hands⟩⟩ := strokes.taskFrame.born task found absent there foreign
      · exact ⟨fresh, .borne mine bears⟩
      · exact ⟨fresh, .handed mine hands⟩
  | pass moment => exact same (tasks_passTo world moment) there
  | request site request =>
    obtain ⟨-, rfl⟩ := getElem?_spawn_of_none world absent there
    exact ⟨rfl, .request site request⟩
  | shutdown sites logged =>
    obtain ⟨-, rfl⟩ := getElem?_spawn_of_none world absent there
    exact ⟨rfl, .shutdown (of_decide_eq_true free) logged⟩
  | cancel other =>
    rcases tasks_cancel world other with tasks | tasks
    · exact same tasks there
    · have here : (world.setStage other (.ended .cancelled)).tasks[task]? = some found := by
        rw [← tasks]
        exact there
      rw [getElem?_setStage, absent] at here
      simp at here
  | enqueue site group topic items => exact same rfl there
  | read site session limit => exact same (tasks_onSession ..) there
  | close site session => exact same (tasks_onSession ..) there
  | renew site key => exact same rfl there

/-- A task that is there after an open move has just been started, or was there before and was
for the same. -/
theorem born_or_kept (sound : world.Sound) {move : Move} (free : world.isOpen move = true)
    (there : (world.apply move).tasks[task]? = some found) : world.Born move found.purpose ∨
      ∃ earlier, world.tasks[task]? = some earlier ∧ earlier.purpose = found.purpose := by
  cases before : world.tasks[task]? with
  | none => exact .inl (born_apply sound free before there).2
  | some earlier =>
    obtain ⟨stage, later, -⟩ := kept_apply sound move before
    obtain rfl := Option.some.inj (later.symm.trans there)
    exact .inr ⟨earlier, rfl, rfl⟩

/-- A cancelled task leaves the clock, the script and the number of gateways alone. -/
theorem cancel_fields (world : World) (task : TaskId) :
    (world.cancel task).now = world.now ∧ (world.cancel task).script = world.script ∧
      (world.cancel task).sites.length = world.sites.length := by
  obtain same | ⟨ended, rfl, same | ⟨place, session, same⟩ | ⟨parent, same⟩⟩ :=
    cancel_forms world task
  · rw [same]
    exact ⟨rfl, rfl, rfl⟩
  · rw [same]
    exact ⟨rfl, rfl, rfl⟩
  · obtain ⟨ready, given⟩ := exists_onSession
      (({ world with ready := world.ready.erase task } : World).finish task .cancelled) place
        session (·.withdraw task)
    rw [same, giveUpSend, given]
    exact ⟨rfl, rfl, by simp [onBroker, onSite, finish, setStage]⟩
  · obtain ⟨ready, woken⟩ := exists_wake
      (({ world with ready := world.ready.erase task } : World).finish task .cancelled) parent
    rw [same, woken]
    exact ⟨rfl, rfl, rfl⟩

/-- Moves leave the script and the number of gateways alone. -/
theorem apply_fields (sound : world.Sound) (move : Move) :
    (world.apply move).script = world.script ∧
      (world.apply move).sites.length = world.sites.length := by
  have session (site : SiteId) (session : SessionId)
      (change : Session → Session × List TaskId) :
      (world.onSession site session change).script = world.script ∧
        (world.onSession site session change).sites.length = world.sites.length := by
    obtain ⟨ready, same⟩ := exists_onSession world site session change
    rw [same]
    exact ⟨rfl, by simp [onBroker, onSite]⟩
  cases move with
  | resume me =>
    cases mine : world.tasks[me]? with
    | none =>
      rw [apply, resume_absent mine]
      exact ⟨rfl, rfl⟩
    | some running =>
      have strokes := strokes_resume mine (sound me running mine).1
      exact ⟨strokes.script_eq, strokes.length_sites⟩
  | pass moment =>
    obtain ⟨ready, same⟩ := exists_passTo world moment
    rw [apply, same]
    exact ⟨rfl, rfl⟩
  | request => exact ⟨rfl, rfl⟩
  | shutdown => exact ⟨rfl, rfl⟩
  | cancel task => exact (cancel_fields world task).2
  | enqueue => exact ⟨rfl, by simp [apply, onBroker, onSite]⟩
  | read site number limit => exact session site number _
  | close site number => exact session site number _
  | renew => exact ⟨rfl, by simp [apply, onBroker, onSite]⟩

/-- Only time that passes moves the clock. -/
theorem now_apply (sound : world.Sound) (move : Move) :
    (world.apply move).now = world.now ∨
      ∃ moment, move = .pass moment ∧ (world.apply move).now = max world.now moment := by
  cases move with
  | resume me =>
    left
    cases there : world.tasks[me]? with
    | none => rw [apply, resume_absent there]
    | some found => exact (strokes_resume there (sound me found there).1).now_eq
  | pass moment =>
    obtain ⟨ready, same⟩ := exists_passTo world moment
    exact .inr ⟨moment, rfl, by rw [apply, same]⟩
  | cancel me => exact .inl (cancel_fields world me).1
  | read => exact .inl (now_onSession ..)
  | close => exact .inl (now_onSession ..)
  | _ => exact .inl rfl

/-- A new task shuts no gateway down twice. -/
theorem Born.distinct {move : Move} {purpose : Purpose} (born : world.Born move purpose) :
    purpose.shutsDown.Nodup := by
  cases born with
  | request site request => cases request <;> simp [Purpose.shutsDown]
  | shutdown distinct => exact distinct
  | @borne me parent child mine bears =>
    unfold Purpose.Bears at bears
    split at bears <;> first | exact bears.elim | simp [Purpose.shutsDown]
  | @handed me parent child mine hands =>
    unfold Purpose.HandsOn at hands
    split at hands <;> first | exact hands.elim | simp [Purpose.shutsDown]

/-- Open moves keep the tasks where their purposes allow them to be. -/
theorem Sound.apply (sound : world.Sound) {move : Move} (free : world.isOpen move = true) :
    (world.apply move).Sound := by
  intro task later there
  cases before : world.tasks[task]? with
  | none =>
    obtain ⟨fresh, born⟩ := born_apply sound free before there
    rw [fresh]
    exact ⟨trivial, born.distinct⟩
  | some found =>
    obtain ⟨fits, distinct⟩ := sound task found before
    obtain ⟨stage, after, moved⟩ := kept_apply sound move before
    obtain rfl := Option.some.inj (after.symm.trans there)
    refine ⟨?_, distinct⟩
    rcases moved with same | ⟨alike, -⟩ | ⟨-, own, -⟩
    · show stage.Fits found.purpose
      rw [same]
      exact fits
    · exact fits.alike alike
    · exact own

/-- A world without tasks is sound. -/
theorem Opened.sound (opened : world.Opened) : world.Sound := by
  intro task found there
  rw [opened.untouched.1] at there
  simp at there

/-- Sound worlds lead to sound worlds. -/
theorem Sound.reaches {last : World} (sound : world.Sound) (reaches : world.Reaches last) :
    last.Sound :=
  reaches.keeps (P := Sound) (fun _ _ sound free => sound.apply free) sound

/-- What open moves keep in sound worlds holds along a run. -/
theorem Sound.keeps {P : World → Prop} {last : World} (sound : world.Sound)
    (step : ∀ world move, world.Sound → world.isOpen move = true → P world → P (world.apply move))
    (holds : P world) (reaches : world.Reaches last) : P last := by
  have both : last.Sound ∧ P last := by
    refine reaches.keeps (P := fun world => world.Sound ∧ P world) ?_ ⟨sound, holds⟩
    rintro world move ⟨sound, holds⟩ free
    exact ⟨sound.apply free, step world move sound free holds⟩
  exact both.2

/-- A task that has ended keeps its outcome along a run. -/
theorem Sound.outcome?_reaches {last : World} (sound : world.Sound)
    (reaches : world.Reaches last) {outcome : Outcome}
    (settled : world.outcome? task = some outcome) : last.outcome? task = some outcome :=
  sound.keeps (P := fun world => world.outcome? task = some outcome)
    (fun _ move sound _ settled => outcome?_apply sound move settled) settled reaches

/-- A task keeps its purpose along a run. -/
theorem Sound.purpose_reaches {last : World} (sound : world.Sound)
    (reaches : world.Reaches last) (there : world.tasks[task]? = some found) :
    ∃ stage, last.tasks[task]? = some { found with stage := stage } := by
  refine sound.keeps (P := fun world => ∃ stage, world.tasks[task]? = some { found with stage })
    ?_ ⟨found.stage, there⟩ reaches
  rintro world move sound - ⟨stage, there⟩
  obtain ⟨later, after, -⟩ := kept_apply sound move there
  exact ⟨later, after⟩

end ClusterGateway.World
