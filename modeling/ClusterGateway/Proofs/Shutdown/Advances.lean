import ClusterGateway.Proofs.Shutdown.Steps

/-!
# What a shutdown can do next

A shutdown of a gateway stays where it is while it waits; otherwise it starts the stop tasks,
sets a timer for the component that it is stopping, or is over (`Advance`). A stop task
sets a timer or ends, and an end wakes the shutdown that the task belongs to. Whatever
else they do is done to gateways, clusters and the log only (`Beside`). Main statements:
`advance_advanceShutdown`, `endComponentStop_form`, `beginComponentStop_forms`.
-/

namespace ClusterGateway

/-- Only stops of serving components may break down. They run in tasks of their own, so that a
shutdown goes on all the same. -/
def BrokerScript.Firm (script : BrokerScript) : Prop :=
  ∀ component, script.stopBreaks component = true → component ∈ Component.serving

/-- A script in which no stop breaks down is firm. -/
theorem BrokerScript.Firm.of_sturdy {script : BrokerScript} (sturdy : script.stopFaults = []) :
    script.Firm :=
  fun _ failed => absurd sturdy (World.stopFaults_ne_nil failed)

namespace World

variable {world before between after : World} {me : TaskId} {actor : Option String}
  {found : Site} {part : Shutdown} {phase : ShutdownPhase}

/-- Only gateways, clusters and the log have changed. -/
structure Beside (before after : World) : Prop where
  now : after.now = before.now
  script : after.script = before.script
  tasks : after.tasks = before.tasks
  ready : after.ready = before.ready
  timers : after.timers = before.timers

namespace Beside

/-- Nothing has changed. -/
theorem refl (world : World) : Beside world world := ⟨rfl, rfl, rfl, rfl, rfl⟩

/-- One change after the other. -/
theorem trans (first : Beside before between) (second : Beside between after) :
    Beside before after where
  now := second.now.trans first.now
  script := second.script.trans first.script
  tasks := second.tasks.trans first.tasks
  ready := second.ready.trans first.ready
  timers := second.timers.trans first.timers

/-- A gateway has changed. -/
theorem onGateway (beside : Beside before after) (site : SiteId) (change : Gateway → Gateway) :
    Beside before (after.onGateway site change) :=
  beside.trans ⟨rfl, rfl, rfl, rfl, rfl⟩

/-- The log has changed. -/
theorem note (beside : Beside before after) (actor : Option String) (entries : List LogEntry) :
    Beside before (after.note actor entries) :=
  beside.trans ⟨rfl, rfl, rfl, rfl, rfl⟩

/-- The state of a component has changed. -/
theorem setState (beside : Beside before after) (site : SiteId) (actor : Option String)
    (component : Component) (state : ComponentState) :
    Beside before (after.setState site actor component state) := by
  obtain ⟨-, same⟩ | ⟨entries, same⟩ := setState_cases after site actor component state
  · rw [same]
    exact beside
  · rw [same]
    exact (beside.onGateway site _).note actor entries

/-- The beginning or the end of a stop was recorded. -/
theorem recordStop (beside : Beside before after) (site : SiteId) (component : Component)
    (ended : Bool) : Beside before (after.recordStop site component ended) :=
  beside.trans ⟨rfl, rfl, rfl, rfl, rfl⟩

/-- A component was taken away, and its stop has begun. -/
theorem beginStop (beside : Beside before after) (site : SiteId) (actor : Option String)
    (component : Component) :
    Beside before (((after.onGateway site (·.release component)).setState site actor component
      .stopping).recordStop site component false) :=
  ((beside.onGateway site _).setState site actor component .stopping).recordStop site component
    false

/-- A component has stopped. -/
theorem endStop (beside : Beside before after) (site : SiteId) (actor : Option String)
    (component : Component) :
    Beside before ((after.recordStop site component true).setState site actor component
      .stopped) :=
  (beside.recordStop site component true).setState site actor component .stopped

end Beside

/-- The shutdown of a gateway cannot go on: it waits for a stop task, or for a time that has not
come, or it is over. -/
def Pends (world : World) : ShutdownPhase → Prop
  | .opening => False
  | .joining stops => ∃ stop ∈ stops, world.isOver stop = false
  | .stoppingOffsets due => world.now < due
  | .closingClient due => world.now < due
  | .finished => True
  | .broken => True

/-- How the shutdown of a gateway goes from one phase to another. -/
inductive Advance (me : TaskId) (before : World) : ShutdownPhase → World → ShutdownPhase → Prop
  | stays {phase : ShutdownPhase} (pends : before.Pends phase) : Advance me before phase before phase
  | opens {between : World} (beside : Beside before between) (site : SiteId) (path : TaskPath) :
    Advance me before .opening (between.spawnStops me site path Component.serving).1
      (.joining (between.spawnStops me site path Component.serving).2)
  | offsets {stops : List TaskId} {between : World} {due : Nat} (beside : Beside before between)
    (later : before.now < due) :
    Advance me before (.joining stops) (between.setTimer me due) (.stoppingOffsets due)
  | client {phase : ShutdownPhase} {between : World} {due : Nat}
    (early : (∃ stops, phase = .joining stops) ∨ ∃ due, phase = .stoppingOffsets due)
    (beside : Beside before between) (later : before.now < due) :
    Advance me before phase (between.setTimer me due) (.closingClient due)
  | finishes {phase : ShutdownPhase} {after : World} (beside : Beside before after) :
    Advance me before phase after .finished
  | breaks {phase : ShutdownPhase} {after : World} (beside : Beside before after)
    (faulty : ¬ before.script.Firm) : Advance me before phase after .broken

/-- The shutdown of a gateway breaks down only with the stop of the offset manager or the client. -/
theorem Advance.unbroken {later : ShutdownPhase} (advance : Advance me before phase after later)
    (firm : before.script.Firm) (whole : phase ≠ .broken) : later ≠ .broken := by
  cases advance with
  | stays => exact whole
  | breaks _ faulty => exact absurd firm faulty
  | _ => simp

/-- A shutdown that is over. -/
theorem advance_completeShutdown (beside : Beside before between) (owner : String) :
    Advance me before phase (between.completeShutdown actor owner part).1
      (between.completeShutdown actor owner part).2.phase :=
  .finishes ((beside.onGateway part.site _).note actor _)

/-- A shutdown whose client is closed. -/
theorem advance_endClientClose (beside : Beside before between) (owner : String) :
    Advance me before phase (between.endClientClose actor owner part).1
      (between.endClientClose actor owner part).2.phase :=
  advance_completeShutdown (beside.endStop part.site actor .client) owner

/-- A shutdown whose client is to be closed. -/
theorem advance_beginClientClose (beside : Beside before between)
    (early : (∃ stops, phase = .joining stops) ∨ ∃ due, phase = .stoppingOffsets due) :
    Advance me before phase (between.beginClientClose me actor found part).1
      (between.beginClientClose me actor found part).2.phase := by
  simp only [beginClientClose]
  split
  · have taken := (beside.onGateway part.site (·.release .client)).recordStop part.site .client
      false
    split
    · rename_i failed
      exact .breaks taken fun firm =>
        absurd (firm .client (taken.script ▸ failed)) (by decide)
    · split
      · exact advance_endClientClose taken _
      · rename_i slow
        exact .client early taken (by rw [taken.now]; omega)
  · exact advance_completeShutdown beside _

/-- A shutdown whose offset manager has stopped. -/
theorem advance_endOffsetsStop (beside : Beside before between)
    (early : (∃ stops, phase = .joining stops) ∨ ∃ due, phase = .stoppingOffsets due) :
    Advance me before phase (between.endOffsetsStop me actor found part).1
      (between.endOffsetsStop me actor found part).2.phase :=
  advance_beginClientClose (beside.endStop part.site actor .offsets) early

/-- A shutdown whose stop tasks are over. -/
theorem advance_beginOffsetsStop {stops : List TaskId} (beside : Beside before between) :
    Advance me before (.joining stops) (between.beginOffsetsStop me actor found part).1
      (between.beginOffsetsStop me actor found part).2.phase := by
  have early : (∃ tasks, ShutdownPhase.joining stops = .joining tasks) ∨
      ∃ due, ShutdownPhase.joining stops = .stoppingOffsets due := .inl ⟨stops, rfl⟩
  simp only [beginOffsetsStop]
  split
  · have taken := beside.beginStop part.site actor .offsets
    split
    · rename_i failed
      exact .breaks taken fun firm =>
        absurd (firm .offsets (taken.script ▸ failed)) (by decide)
    · split
      · exact advance_endOffsetsStop taken early
      · rename_i slow
        exact .offsets taken (by rw [taken.now]; omega)
  · exact advance_beginClientClose beside early

/-- The shutdown of a gateway stays where it is exactly while it waits. -/
theorem advance_advanceShutdown (world : World) (me : TaskId) (actor : Option String)
    (part : Shutdown) : Advance me world part.phase (world.advanceShutdown me actor part).1
      (world.advanceShutdown me actor part).2.phase := by
  have same := Beside.refl world
  unfold advanceShutdown
  split
  · exact .finishes same
  · split
    · rename_i opening
      rw [opening]
      exact .opens ((same.onGateway part.site _).note actor _) part.site _
    · rename_i stops joining
      rw [joining]
      split
      · exact advance_beginOffsetsStop (same.note actor _)
      · rename_i running
        rw [joining]
        refine .stays ?_
        simpa [Pends] using running
    · rename_i due stopping
      rw [stopping]
      split
      · exact advance_endOffsetsStop same (.inr ⟨due, rfl⟩)
      · rename_i early
        rw [stopping]
        exact .stays (Nat.lt_of_not_le early)
    · rename_i due closing
      rw [closing]
      split
      · exact advance_endClientClose same _
      · rename_i early
        rw [closing]
        exact .stays (Nat.lt_of_not_le early)
    · rename_i stands
      rw [stands]
      exact .stays trivial
    · rename_i stands
      rw [stands]
      exact .stays trivial

/-- A stop task whose component has stopped ends and wakes its shutdown. -/
theorem endComponentStop_form (world : World) (me : TaskId) (actor : Option String)
    (site : SiteId) (component : Component) (parent : TaskId) : ∃ after, Beside world after ∧
      world.endComponentStop me actor site component parent =
        (after.finish me (.returned (.ok .done))).wake parent := by
  have stopped := (Beside.refl world).endStop site actor component
  unfold endComponentStop
  dsimp only
  refine ⟨_, ?_, rfl⟩
  split
  · split
    · exact stopped.note actor _
    · exact stopped
  · exact stopped

/-- A stop task that runs first ends and wakes its shutdown, or sleeps until a timer. -/
theorem beginComponentStop_forms (world : World) (me : TaskId) (actor : Option String)
    (site : SiteId) (found : Site) (component : Component) (parent : TaskId) :
    ∃ after, Beside world after ∧
      ((∃ outcome, world.beginComponentStop me actor site found component parent =
        (after.finish me outcome).wake parent) ∨
      ∃ due, world.now < due ∧ world.beginComponentStop me actor site found component parent =
        (after.setTimer me due).setStage me (.sleeping due)) := by
  unfold beginComponentStop
  split
  · have taken := (Beside.refl world).beginStop site actor component
    dsimp only
    split
    · exact ⟨_, taken, .inl ⟨.broken, rfl⟩⟩
    · split
      · obtain ⟨after, beside, same⟩ := endComponentStop_form
          (((world.onGateway site (·.release component)).setState site actor component
            .stopping).recordStop site component false) me actor site component parent
        exact ⟨after, taken.trans beside, .inl ⟨_, same⟩⟩
      · rename_i slow
        refine ⟨_, taken, .inr ⟨_, ?_, rfl⟩⟩
        rw [taken.now]
        omega
  · exact ⟨world, .refl world, .inl ⟨_, rfl⟩⟩

end World

end ClusterGateway
