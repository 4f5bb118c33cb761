import ClusterGateway.Proofs.Shutdown.Moves
import ClusterGateway.Proofs.Shutdown.Waits
import ClusterGateway.Proofs.World.Work

/-!
# Waiting for a shutdown

Each run of a shutdown, or of a task that stops a component for it, uses up some of the work
that is left. So where nothing but one shutdown goes on, whoever waits for it waits until
it has returned. Main statements: `work_resume_lt`, `Closing.awaitEnd`.
-/

namespace ClusterGateway.World

variable {world before after : World} {me task : TaskId} {actor : Option String}
  {found running : Task} {phase later : ShutdownPhase} {parts : List Shutdown}

/-- What happens beside the tasks leaves the work as it is. -/
theorem Beside.work_eq (beside : Beside before after) : after.work = before.work :=
  work_congr beside.tasks beside.ready beside.timers

/-- The work of the tasks that are started to stop components. -/
theorem work_spawnStops (world : World) (parent : TaskId) (site : SiteId) (path : TaskPath)
    (components : List Component) :
    (world.spawnStops parent site path components).1.work = world.work + 4 * components.length := by
  induction components generalizing world with
  | nil => rfl
  | cons component rest ih =>
    have first := work_spawn world (some (path.child component.stopTaskName).text)
      (.stopComponent site component parent)
    have stop : Purpose.work (.stopComponent site component parent) = 3 := rfl
    simp only [spawnStops, List.length_cons]
    rw [ih, first, stop]
    omega

/-- A shutdown of a gateway uses up what it causes. -/
theorem Advance.work_le (advance : Advance me before phase after later) :
    after.work + ShutdownPhase.work later ≤ before.work + ShutdownPhase.work phase := by
  cases advance with
  | stays => exact Nat.le_refl _
  | @opens between beside site path =>
    have serving : Component.serving.length = 3 := rfl
    rw [work_spawnStops, beside.work_eq, serving]
    exact Nat.le_refl _
  | @offsets stops between due beside =>
    rw [work_setTimer, beside.work_eq]
    simp only [ShutdownPhase.work]
    omega
  | @client _ between due early beside =>
    rw [work_setTimer, beside.work_eq]
    obtain ⟨stops, rfl⟩ | ⟨due, rfl⟩ := early
    all_goals
      simp only [ShutdownPhase.work]
      omega
  | finishes beside =>
    rw [beside.work_eq]
    exact Nat.add_le_add_left (Nat.zero_le _) _
  | breaks beside =>
    rw [beside.work_eq]
    exact Nat.add_le_add_left (Nat.zero_le _) _

/-- Work left in the shutdown of several gateways. -/
def partsWork (parts : List Shutdown) : Nat :=
  (parts.map fun part => ShutdownPhase.work part.phase).sum

/-- The work left in shutdowns that have not begun. -/
theorem partsWork_opening (begun : Nat) (sites : List SiteId) :
    partsWork (sites.map fun site => ⟨site, begun, .opening⟩) = 19 * sites.length := by
  induction sites with
  | nil => rfl
  | cons site rest ih =>
    show 19 + partsWork (rest.map fun site => ⟨site, begun, .opening⟩) = _
    rw [ih, List.length_cons]
    omega

/-- A shutdown of several gateways uses up what it causes. -/
theorem work_advanceShutdowns_le (world : World) (me : TaskId) (actor : Option String)
    (parts : List Shutdown) :
    (world.advanceShutdowns me actor parts).1.work +
        partsWork (world.advanceShutdowns me actor parts).2 ≤ world.work + partsWork parts := by
  induction parts generalizing world with
  | nil => exact Nat.le_refl _
  | cons first rest ih =>
    have one := (advance_advanceShutdown world me actor first).work_le
    have others := ih (world.advanceShutdown me actor first).1
    simp only [advanceShutdowns, partsWork, List.map_cons, List.sum_cons] at others ⊢
    omega

/-- The work of a shutdown task that waits. -/
theorem work_shuttingDown (actor : Option String) (purpose : Purpose) (parts : List Shutdown) :
    Task.work ⟨actor, purpose, .shuttingDown parts⟩ = partsWork parts + 1 := by
  have added (start : Nat) : parts.foldl (fun left part => left + ShutdownPhase.work part.phase)
      start = start + partsWork parts := by
    induction parts generalizing start with
    | nil => rfl
    | cons first rest ih =>
      rw [List.foldl_cons, ih, partsWork, partsWork, List.map_cons, List.sum_cons, Nat.add_assoc]
  exact (added 1).trans (Nat.add_comm _ _)

/-- A shutdown task uses up what it causes. -/
theorem work_continueShutdown_le (mine : world.tasks[me]? = some running) (actor : Option String)
    (logged : Bool) (parts : List Shutdown) :
    (world.continueShutdown me actor logged parts).work + Task.work running ≤
      world.work + (partsWork parts + 1) := by
  have fewer := work_advanceShutdowns_le world me actor parts
  have still := (grows_advanceShutdowns world me actor parts).tasks me running mine
  unfold continueShutdown
  generalize world.advanceShutdowns me actor parts = result at fewer still ⊢
  obtain ⟨after, advanced⟩ := result
  dsimp only at fewer still ⊢
  split
  · have ends := work_finish_le still .broken
    omega
  · split
    · split
      · have noted : (after.note actor [⟨.info, "all cluster proxies stopped", []⟩]).tasks[me]? =
            some running := still
        have same := ((Beside.refl after).note actor
          [⟨.info, "all cluster proxies stopped", []⟩]).work_eq
        have ends := work_finish_le noted (.returned (.ok .done))
        omega
      · have ends := work_finish_le still (.returned (.ok .done))
        omega
    · have waits := work_setStage still (.shuttingDown advanced)
      rw [work_shuttingDown] at waits
      omega

/-- A shutdown that runs uses up what it causes. -/
theorem work_resume_shutdown_le (mine : world.tasks[me]? = some running)
    (fits : running.stage.Fits running.purpose) (teardown : running.purpose.IsTeardown)
    (whole : ∀ parent, ¬ running.purpose.StopsFor parent) :
    (world.resume me).work ≤ ({ world with ready := world.ready.erase me } : World).work := by
  have here : ({ world with ready := world.ready.erase me } : World).tasks[me]? = some running :=
    mine
  obtain ⟨outcome, ended, same⟩ | ⟨-, -, same⟩ | ⟨logged, parts, same, waits⟩ :=
    resume_shutdown_forms mine fits teardown whole rfl
  · exact Nat.le_of_eq (by rw [same])
  · have ends := work_finish_le here .broken
    rw [same]
    omega
  · have less := work_continueShutdown_le here running.actor logged parts
    rw [same]
    have enough : partsWork parts + 1 ≤ Task.work running := by
      obtain ⟨name, purpose, stage⟩ := running
      obtain rfl | ⟨rfl, rfl⟩ := waits
      · exact Nat.le_of_eq (work_shuttingDown name purpose parts).symm
      · rw [partsWork_opening]
        show _ ≤ Purpose.work purpose
        cases purpose with
        | request site request =>
          cases request with
          | stop => exact Nat.le_refl 20
          | _ => exact teardown.elim
        | shutdown sites logged =>
          simp only [Purpose.shutsDown, Purpose.work]
          omega
        | stopComponent site component parent => exact absurd ⟨site, component, rfl⟩ (whole parent)
        | _ => exact teardown.elim
    omega

/-- A stop task that runs uses up what it causes. -/
theorem work_resume_stop_le (mine : world.tasks[me]? = some running) {parent : TaskId}
    (fits : running.stage.Fits running.purpose) (stops : running.purpose.StopsFor parent) :
    (world.resume me).work ≤ ({ world with ready := world.ready.erase me } : World).work := by
  have still {after : World}
      (beside : Beside { world with ready := world.ready.erase me } after) :
      after.tasks[me]? = some running := by
    rw [beside.tasks]
    exact mine
  obtain ⟨outcome, -, same⟩ | ⟨due, -, -, same⟩ | ⟨after, outcome, stands, beside, same⟩ |
    ⟨after, due, fresh, beside, -, same⟩ := resume_stop_forms mine fits stops rfl
  · exact Nat.le_of_eq (by rw [same])
  · exact Nat.le_of_eq (by rw [same])
  · have left : 0 < Task.work running := by
      obtain ⟨name, purpose, stage⟩ := running
      obtain ⟨site, component, rfl⟩ : purpose.StopsFor parent := stops
      obtain rfl | ⟨due, rfl⟩ := stands
      · exact Nat.succ_pos 2
      · exact Nat.succ_pos 0
    have finished := work_finish_le (still beside) outcome
    have woken := work_wake_le (after.finish me outcome) parent
    have kept := beside.work_eq
    rw [same]
    omega
  · obtain ⟨name, purpose, stage⟩ := running
    obtain ⟨site, component, rfl⟩ : purpose.StopsFor parent := stops
    obtain rfl : stage = .fresh := fresh
    have here : (after.setTimer me due).tasks[me]? =
        some ⟨name, .stopComponent site component parent, .fresh⟩ := @still after beside
    have sleeps : ((after.setTimer me due).setStage me (.sleeping due)).work + 3 =
        (after.setTimer me due).work + 1 := work_setStage here (.sleeping due)
    have timed := work_setTimer after me due
    have kept := beside.work_eq
    rw [same]
    omega

/-- A shutdown, or a task that stops a component for it, uses up work when it runs. -/
theorem work_resume_lt (sound : world.Sound) (ready : me ∈ world.ready)
    (mine : world.tasks[me]? = some running) (teardown : running.purpose.IsTeardown) :
    (world.resume me).work < world.work := by
  have taken := work_erase ready
  have fits := (sound me running mine).1
  by_cases stops : ∃ parent, running.purpose.StopsFor parent
  · obtain ⟨parent, stops⟩ := stops
    have less := work_resume_stop_le mine fits stops
    omega
  · have less := work_resume_shutdown_le mine fits teardown fun parent stopping =>
      stops ⟨parent, stopping⟩
    omega

/-- A shutdown task that ends when only stops of serving components break down has returned. -/
theorem outcome_continueShutdown (mine : world.tasks[me]? = some running) (actor : Option String)
    (logged : Bool) (firm : world.script.Firm)
    (whole : ∀ part ∈ parts, part.phase ≠ .broken) {outcome : Outcome}
    (ended : (world.continueShutdown me actor logged parts).outcome? me = some outcome) :
    outcome = .returned (.ok .done) := by
  have unbroken : ∀ part ∈ (world.advanceShutdowns me actor parts).2, part.phase ≠ .broken :=
    unbroken_advanceShutdowns actor firm whole
  have still := (grows_advanceShutdowns world me actor parts).tasks me running mine
  unfold continueShutdown at ended
  generalize world.advanceShutdowns me actor parts = result at unbroken still ended
  obtain ⟨after, advanced⟩ := result
  dsimp only at unbroken still ended
  obtain ⟨last, there, stage⟩ := outcome?_eq_some_iff.mp ended
  split at there
  · rename_i some_broken
    obtain ⟨part, member, broken⟩ := List.any_eq_true.mp some_broken
    exact absurd (of_decide_eq_true broken) (unbroken part member)
  · split at there
    · have returns : last.stage = .ended (.returned (.ok .done)) := by
        split at there
        all_goals
          rw [getElem?_finish, if_pos rfl] at there
          obtain ⟨found, -, rfl⟩ := Option.map_eq_some_iff.mp there
          rfl
      rw [returns] at stage
      exact (Stage.ended.inj stage).symm
    · rw [getElem?_setStage, if_pos rfl] at there
      obtain ⟨found, -, rfl⟩ := Option.map_eq_some_iff.mp there
      simp at stage

/-- Nothing goes on but one shutdown of gateways, with the tasks that stop components for it. -/
structure Closing (task : TaskId) (world : World) : Prop where
  sound : world.Sound
  wakeful : world.Wakeful
  firm : world.script.Firm
  shutdown : ∃ found sites logged, world.tasks[task]? = some found ∧
    found.purpose = .shutdown sites logged
  others : ∀ (other : TaskId) (found : Task), world.tasks[other]? = some found → other ≠ task →
    found.purpose.StopsFor task
  returned : ∀ outcome, world.outcome? task = some outcome → outcome = .returned (.ok .done)

namespace Closing

variable {move : Move}

/-- Every task belongs to the shutdown. -/
theorem isTeardown (closing : world.Closing task) (there : world.tasks[me]? = some found) :
    found.purpose.IsTeardown := by
  by_cases mine : me = task
  · obtain ⟨shutdown, sites, logged, here, purpose⟩ := closing.shutdown
    rw [mine, here] at there
    obtain rfl := Option.some.inj there
    rw [purpose]
    trivial
  · obtain ⟨site, component, purpose⟩ := closing.others me found there mine
    rw [purpose]
    trivial

/-- What a task starts stops a component for the shutdown. -/
theorem stopsFor_of_born {purpose : Purpose} (closing : world.Closing task)
    (runs : Unattended move) (born : world.Born move purpose) : purpose.StopsFor task := by
  cases born with
  | request => cases runs
  | shutdown => cases runs
  | @borne me parent _ mine bears =>
    by_cases same : me = task
    · obtain ⟨shutdown, sites, logged, here, named⟩ := closing.shutdown
      rw [same, here] at mine
      obtain rfl := Option.some.inj mine
      rw [named] at bears
      unfold Purpose.Bears at bears
      split at bears <;> simp_all [Purpose.StopsFor]
    · obtain ⟨site, component, named⟩ := closing.others me parent mine same
      rw [named] at bears
      exact bears.elim
  | @handed me parent _ mine hands =>
    have teardown := closing.isTeardown mine
    obtain ⟨name, carried, stage⟩ := parent
    cases carried with
    | request site request =>
      cases request with
      | consume => exact teardown.elim
      | _ => exact hands.elim
    | _ => exact hands.elim

/-- The shutdown has returned if it is over, after any run of a task and any time. -/
theorem returned_apply (closing : world.Closing task) (runs : Unattended move)
    {outcome : Outcome} (ended : (world.apply move).outcome? task = some outcome) :
    outcome = .returned (.ok .done) := by
  obtain ⟨found, sites, logged, there, purpose⟩ := closing.shutdown
  have fits := (closing.sound task found there).1
  have whole (parent : TaskId) : ¬ found.purpose.StopsFor parent := by
    rintro ⟨site, component, stops⟩
    simp [purpose] at stops
  by_cases resumed : move = .resume task
  · subst resumed
    obtain ⟨-, -, same⟩ | ⟨⟨site, calls⟩, -, -⟩ | ⟨logged, parts, same, waits⟩ :=
      resume_shutdown_forms there fits (closing.isTeardown there) whole rfl
    · rw [World.apply, same] at ended
      exact closing.returned outcome ended
    · simp [purpose] at calls
    · rw [World.apply, same] at ended
      have here : ({ world with ready := world.ready.erase task } : World).tasks[task]? =
          some found := there
      refine outcome_continueShutdown here found.actor logged closing.firm ?_ ended
      intro part member
      obtain stage | ⟨-, rfl⟩ := waits
      · rw [stage, purpose] at fits
        exact fits.2 part member
      · obtain ⟨site, -, rfl⟩ := List.mem_map.mp member
        simp
  · obtain ⟨stage, later, stays | ⟨alike, -⟩ | ⟨own | own, -⟩⟩ :=
      kept_apply closing.sound move there
    · obtain ⟨last, here, stage⟩ := outcome?_eq_some_iff.mp ended
      obtain rfl := Option.some.inj (later.symm.trans here)
      exact closing.returned outcome (outcome?_eq_some_iff.mpr ⟨found, there, stays ▸ stage⟩)
    · obtain ⟨last, here, ends⟩ := outcome?_eq_some_iff.mp ended
      obtain rfl := Option.some.inj (later.symm.trans here)
      obtain rfl : stage = .ended outcome := ends
      exact absurd alike.symm (by simp [Stage.AwaitsAlike])
    · exact absurd own resumed
    · rw [own] at runs
      cases runs

/-- The shutdown goes on while tasks run and time passes. -/
theorem apply (closing : world.Closing task) (free : world.isOpen move = true)
    (runs : Unattended move) : (world.apply move).Closing task where
  sound := closing.sound.apply free
  wakeful := closing.wakeful.apply closing.sound free
  firm := (apply_fields closing.sound move).1.symm ▸ closing.firm
  shutdown := by
    obtain ⟨found, sites, logged, there, purpose⟩ := closing.shutdown
    obtain ⟨stage, later, -⟩ := kept_apply closing.sound move there
    exact ⟨_, sites, logged, later, purpose⟩
  others := by
    intro other found there differ
    obtain born | ⟨earlier, here, same⟩ := born_or_kept closing.sound free there
    · exact closing.stopsFor_of_born runs born
    · rw [← same]
      exact closing.others other earlier here differ
  returned := fun _ ended => closing.returned_apply runs ended

/-- Whoever waits for the shutdown waits until it has returned. -/
theorem awaitEnd (closing : world.Closing task) : (world.awaitEnd task).Closing task ∧
    (world.awaitEnd task).outcome? task = some (.returned (.ok .done)) := by
  have resumes (world : World) (me : TaskId) (closing : world.Closing task)
      (ready : me ∈ world.ready) :
      (world.resume me).Closing task ∧ (world.resume me).work < world.work := by
    have free : world.isOpen (.resume me) = true := by simpa [isOpen] using ready
    refine ⟨closing.apply free (.resume me), ?_⟩
    cases mine : world.tasks[me]? with
    | none =>
      rw [resume_absent mine]
      have less := work_erase ready
      omega
    | some running => exact work_resume_lt closing.sound ready mine (closing.isTeardown mine)
  have passes (world : World) (due : Nat) (closing : world.Closing task)
      (idle : world.ready = []) (next : world.nextDue? = some due) :
      (world.passTo due).Closing task := by
    have free : world.isOpen (.pass due) = true := mayPass_of_nextDue? idle next
    exact closing.apply free (.pass due)
  -- the fuel is one more than the work that is left, so the wait does not run out of it
  obtain ⟨last, settled⟩ : (world.awaitEnd task).Closing task ∧
      ((world.awaitEnd task).isOver task = true ∨
        (world.awaitEnd task).ready = [] ∧ (world.awaitEnd task).timers = []) :=
    runFor_rests (P := Closing task) resumes passes (Nat.lt_succ_self world.work) closing
  refine ⟨last, ?_⟩
  obtain ⟨found, sites, logged, there, purpose⟩ := last.shutdown
  have ended : (world.awaitEnd task).isOver task = true := by
    obtain settled | ⟨idle, quiet⟩ := settled
    · exact settled
    · exact last.wakeful.isOver last.sound idle quiet there (last.isTeardown there)
  obtain ⟨outcome, stage⟩ := exists_outcome there ended
  have told : (world.awaitEnd task).outcome? task = some outcome :=
    outcome?_eq_some_iff.mpr ⟨found, there, stage⟩
  rw [told, last.returned outcome told]

end Closing

/-- A shutdown that is called for in a world without tasks. -/
theorem closing_call {sites : List SiteId} {logged : Bool} (idle : world.tasks = [])
    (firm : world.script.Firm) (free : world.isOpen (.shutdown sites logged) = true) :
    (world.apply (.shutdown sites logged)).Closing 0 := by
  have sound := sound_of_idle idle
  have wakeful : world.Wakeful := fun task found there => by simp [idle] at there
  have only : (world.apply (.shutdown sites logged)).tasks =
      [⟨none, .shutdown sites logged, .fresh⟩] := by
    simp [apply, spawn, idle]
  refine ⟨sound.apply free, wakeful.apply sound free, firm, ?_, fun other found there differ => ?_,
    fun outcome ended => ?_⟩
  · exact ⟨_, sites, logged, by rw [only]; rfl, rfl⟩
  · rw [only, List.getElem?_singleton, if_neg differ] at there
    simp at there
  · simp [outcome?, only] at ended

end ClusterGateway.World
