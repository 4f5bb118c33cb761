import ClusterGateway.Proofs.Shutdown.Courses
import ClusterGateway.Proofs.Shutdown.Once

/-!
# The states of a component move forward

From the opening of a gateway on, each of its components goes from running to stopping and
stopped, the client from running to stopped at once, and none of them goes back, whoever
shuts the gateway down and however often. When its shutdowns have all returned and nothing
is pending, all components are stopped, unless stops break down. Main statement:
`states_move_forward`.
-/

namespace ClusterGateway

/-- A state comes before another one: running before stopping, and stopping before stopped. -/
def ComponentState.Precedes (before after : ComponentState) : Prop :=
  [before, after].Sublist [.running, .stopping, .stopped]

/-- It can be computed whether a state comes before another one. -/
instance (before after : ComponentState) : Decidable (before.Precedes after) :=
  inferInstanceAs (Decidable ([before, after].Sublist _))

/-- Changes of the state of a component that was running: they follow on each other, each of them
enters a later state, and no state is entered twice. Nothing leaves the stopped state, and none of
them is a failure. -/
structure MovesForward (course : List (ComponentState × ComponentState)) : Prop where
  chained : Chained .running course
  forward : ∀ change ∈ course, change.1.Precedes change.2
  once : (course.map (·.2)).Nodup
  final : ∀ change ∈ course, change.1 ≠ .stopped
  whole : ∀ change ∈ course, change.2 ≠ .failed

/-- By the record of stops, the states of a component move forward, up to the one that it is
reported in. -/
theorem Component.movesForward (component : Component) {lines : List StopLine}
    (regular : Regular lines) : MovesForward (component.course lines) ∧
      component.reported lines = endpoint .running (component.course lines) := by
  have begun : Over lines component → Begun lines component := regular.begun_of_over
  have nothing : MovesForward [] := ⟨trivial, by simp, by simp, by simp, by simp⟩
  have stopping : MovesForward [(.running, .stopping)] :=
    ⟨⟨rfl, trivial⟩, by decide, by decide, by decide, by decide⟩
  have stopped : MovesForward [(.running, .stopping), (.stopping, .stopped)] :=
    ⟨⟨rfl, rfl, trivial⟩, by decide, by decide, by decide, by decide⟩
  have closed : MovesForward [(.running, .stopped)] :=
    ⟨⟨rfl, trivial⟩, by decide, by decide, by decide, by decide⟩
  by_cases client : component = .client
  · by_cases settled : Over lines component
    · simpa [course, reported, client, settled, client ▸ settled, endpoint] using closed
    · simpa [course, reported, client, settled, client ▸ settled, endpoint] using nothing
  · by_cases settled : Over lines component
    · simpa [course, reported, client, settled, begun settled, endpoint] using stopped
    · by_cases running : Begun lines component
      · simpa [course, reported, client, settled, running, endpoint] using stopping
      · simpa [course, reported, client, settled, running, endpoint] using nothing

namespace World

variable {world opened last start : World} {site : SiteId} {script : BrokerScript}
  {parent : TaskPath} {name : String} {config : GatewayConfig}

/-- Shutdowns of a gateway were called, all of them have returned, and no task is pending. -/
structure AtRest (world : World) (site : SiteId) : Prop where
  called : ∃ (task : TaskId) (found : Task), world.tasks[task]? = some found ∧
    site ∈ found.purpose.shutsDown
  returned : ∀ (task : TaskId) (found : Task), world.tasks[task]? = some found →
    site ∈ found.purpose.shutsDown → ∃ result, world.outcome? task = some (.returned result)
  settled : ∀ task, world.isOver task = true

/-- A task that is over attends to no stop. -/
theorem attends?_of_isOver {task : TaskId} (ended : world.isOver task = true) :
    (world.ledger site).attends? task = none := by
  cases there : world.tasks[task]? with
  | none => simp [Ledger.attends?, ledger, there]
  | some found =>
    obtain ⟨actor, purpose, stage⟩ := found
    cases stage with
    | ended outcome =>
      have stops : (Task.stopOf? ⟨actor, purpose, .ended outcome⟩ site).bind StopEntry.attends? =
          none := by
        unfold Task.stopOf?
        split
        · split <;> rfl
        · rfl
      have shuts : (Task.progress? ⟨actor, purpose, .ended outcome⟩ site).bind
          Progress.attends? = none := by
        unfold Task.progress?
        split
        · cases outcome <;> rfl
        · rfl
      simp [Ledger.attends?, ledger, there, stops, shuts]
    | _ => simp [isOver, there] at ended

/-- Where all shutdowns of a gateway have returned, none of them was dropped. -/
theorem AtRest.not_dropped (rests : world.AtRest site) (task : TaskId) :
    (world.ledger site).shutdowns task ≠ some .dropped := by
  intro dropped
  obtain ⟨found, there, stands⟩ := Option.bind_eq_some_iff.mp dropped
  by_cases shuts : site ∈ found.purpose.shutsDown
  · obtain ⟨result, ended⟩ := rests.returned task found there shuts
    exact absurd (dropped.symm.trans (finished_of_returned there shuts ended)) (by simp)
  · simp [Task.progress?, shuts] at stands

/-- At rest, each component of a gateway has stopped. -/
theorem Watched.over_of_atRest (watched : world.Watched False site) (rests : world.AtRest site)
    (component : Component) : Over (world.ledger site).lines component := by
  obtain ⟨task, found, there, shuts⟩ := rests.called
  obtain ⟨result, ended⟩ := rests.returned task found there shuts
  have begun : Begun (world.ledger site).lines component :=
    watched.tended.lacks_iff_begun.mp (watched.tended.lacks_of_returned there shuts ended component)
  -- a stop that is not over would be attended by a task that is not over
  by_contra unsettled
  obtain ⟨other, attends⟩ | broken | ⟨other, dropped⟩ :=
    watched.attended.cared component ⟨begun, unsettled⟩
  · exact absurd ((attends?_of_isOver (rests.settled other)).symm.trans attends) (by simp)
  · exact broken
  · exact rests.not_dropped other dropped

/-- In every history: the components of an opened gateway are running, and from then on their states
move forward, whoever shuts the gateway down and however often. If no stop breaks down, all of them
are stopped once the shutdowns have returned and nothing is pending. -/
theorem states_move_forward (past : Leads { script := script } start)
    (opens : start.openGateway parent name config = (opened, .ok site))
    (leads : opened.Leads last) :
    (∀ component, opened.state? site component = some .running) ∧
    (∃ later, last.journal site = opened.journal site ++ later ∧
      ∀ component : Component, MovesForward (changes component.name later) ∧
        last.state? site component =
          some (endpoint .running (changes component.name later))) ∧
    (script.stopFaults = [] → last.AtRest site →
      ∀ component, last.state? site component = some .stopped) := by
  have sited := (sited_empty script).leads past
  obtain ⟨regular, later, journal, follows⟩ := states_of_record past opens leads
  refine ⟨state?_openGateway opens, ⟨later, journal, fun component => ?_⟩, ?_⟩
  · obtain ⟨state, told⟩ := follows component
    obtain ⟨forward, reached⟩ := component.movesForward regular
    rw [state, told]
    exact ⟨forward, congrArg some reached⟩
  · intro sturdy rests component
    have script := (sited_empty script).script_leads past
    have watched : last.Watched False site :=
      (watched_openGateway sited opens fun faulty => faulty (script ▸ sturdy)).leads leads
    rw [(follows component).1, Component.reported, if_pos (watched.over_of_atRest rests component)]

/-- Two stops that overlap have returned, and nothing is pending: each component was stopped, and
its states have moved forward. -/
theorem states_move_forward_overlapping : ∃ last later, Leads slowGateway last ∧
    last.AtRest 0 ∧ last.journal 0 = slowGateway.journal 0 ++ later ∧
    ∀ component : Component, MovesForward (changes component.name later) ∧
      last.state? 0 component = some .stopped := by
  have ends : (slowGateway.play? bothStops).map (fun last =>
      (last.tasks.map (·.stage), (last.tasks[0]?).map (·.purpose.shutsDown))) =
        some (List.replicate 8 (.ended (.returned (.ok .done))), some [0]) := rfl
  obtain ⟨last, played, same⟩ := Option.map_eq_some_iff.mp ends
  obtain ⟨stages, call⟩ := Prod.mk.inj same
  obtain ⟨found, there, shuts⟩ := Option.map_eq_some_iff.mp call
  have ended (task : TaskId) (running : Task) (here : last.tasks[task]? = some running) :
      running.stage = .ended (.returned (.ok .done)) := by
    have member : running.stage ∈ last.tasks.map (·.stage) :=
      List.mem_map_of_mem (List.mem_of_getElem? here)
    rw [stages] at member
    exact List.eq_of_mem_replicate member
  have rests : last.AtRest 0 := by
    refine ⟨⟨0, found, there, by simp [shuts]⟩, fun task running here _ => ?_, fun task => ?_⟩
    · exact ⟨.ok .done, outcome?_eq_some_iff.mpr ⟨running, here, ended task running here⟩⟩
    · cases here : last.tasks[task]? with
      | none => simp [isOver, here]
      | some running => simp [isOver, here, ended task running here]
  have leads : Leads slowGateway last :=
    leads_of_play? opened_slowGateway.sound (by decide) played
  have past : Leads { script := slowProducer } { script := slowProducer } := .refl
  have opens : openGateway { script := slowProducer } (.root "test") "default" {} =
      (slowGateway, .ok 0) := rfl
  obtain ⟨-, ⟨later, journal, forward⟩, stopped⟩ := states_move_forward past opens leads
  exact ⟨last, later, leads, rests, journal, fun component =>
    ⟨(forward component).1, stopped rfl rests component⟩⟩

end World

end ClusterGateway
