import ClusterGateway.Proofs.Shutdown.Ledger
import ClusterGateway.Proofs.World.Tasks

/-!
# The teardown of a gateway in the world

`World.ledger` reads off the world what its tasks have made of one gateway. Tasks that do
not shut the gateway down leave it alone.
-/

namespace ClusterGateway

/-- How far a stop task has come that waits in a stage. -/
def Stage.stopProgress : Stage → StopProgress
  | .fresh => .fresh
  | .ended _ => .settled
  | _ => .running

/-- How far the shutdown of one gateway has come in a phase. -/
def ShutdownPhase.progress : ShutdownPhase → Progress
  | .opening => .opening
  | .joining stops => .joining stops
  | .stoppingOffsets _ => .stopping .offsets
  | .closingClient _ => .stopping .client
  | .finished => .finished
  | .broken => .dropped

/-- How far a task that waits in a stage has come with the shutdown of one gateway. -/
def Stage.progress (site : SiteId) : Stage → Progress
  | .fresh => .opening
  | .shuttingDown parts =>
    match parts.find? fun part => part.site == site with
    | some part => part.phase.progress
    | none => .dropped
  | .ended (.returned _) => .finished
  | _ => .dropped

/-- What a task is among those that stop a serving component of a gateway. -/
def Task.stopOf? (task : Task) (site : SiteId) : Option StopEntry :=
  match task.purpose with
  | .stopComponent place component owner =>
    if place = site then some ⟨component, owner, task.stage.stopProgress⟩ else none
  | _ => none

/-- How far a task has come with the shutdown of a gateway, if it shuts that gateway down. -/
def Task.progress? (task : Task) (site : SiteId) : Option Progress :=
  if site ∈ task.purpose.shutsDown then some (task.stage.progress site) else none

/-- Waiting for another answer of the same kind is no progress. -/
theorem Stage.AwaitsAlike.progress {first last : Stage} (alike : first.AwaitsAlike last)
    (site : SiteId) :
    last.stopProgress = first.stopProgress ∧ last.progress site = first.progress site := by
  cases first <;> cases last <;> simp_all [Stage.AwaitsAlike, Stage.stopProgress, Stage.progress]

/-- A task that shuts no gateway of a number down, and stops none of its components, is not
part of its teardown. -/
theorem Task.outside {found : Task} {site : SiteId}
    (foreign : site ∉ found.purpose.tearsDown) :
    found.stopOf? site = none ∧ found.progress? site = none := by
  have away : site ∉ found.purpose.shutsDown := fun shuts => foreign (World.mem_tearsDown shuts)
  refine ⟨?_, if_neg away⟩
  obtain ⟨actor, purpose, stage⟩ := found
  cases purpose with
  | stopComponent place component owner =>
    have differ : place ≠ site := by
      rintro rfl
      exact foreign (List.mem_singleton_self place)
    exact if_neg differ
  | _ => rfl

/-- What a task starts belongs to the teardown of the gateways only that it shuts down. -/
theorem outside_of_bears {me : TaskId} {site : SiteId} {purpose child : Purpose}
    (foreign : site ∉ purpose.tearsDown)
    (bears : purpose.Bears me child ∨ purpose.HandsOn me child) : site ∉ child.tearsDown := by
  have away : site ∉ purpose.shutsDown := fun shuts => foreign (World.mem_tearsDown shuts)
  rcases bears with bears | hands
  · unfold Purpose.Bears at bears
    split at bears
    · simp [Purpose.tearsDown, Purpose.shutsDown]
    · simp [Purpose.tearsDown, Purpose.shutsDown]
    · obtain ⟨rfl, -, -⟩ := bears
      simpa [Purpose.tearsDown, Purpose.shutsDown] using away
    · obtain ⟨there, -, -⟩ := bears
      have differ : site ≠ _ := fun same => away (same ▸ there)
      simpa [Purpose.tearsDown] using differ
    · exact bears.elim
  · unfold Purpose.HandsOn at hands
    split at hands
    · simp [Purpose.tearsDown, Purpose.shutsDown]
    · exact hands.elim

namespace World

/-- What the teardown of one gateway has come to in a world. -/
def ledger (world : World) (site : SiteId) : Ledger where
  holds component := (world.sites[site]?).any (·.gateway.holds component)
  lines := (world.sites[site]?).elim [] (·.broker.stops)
  stops task := (world.tasks[task]?).bind (·.stopOf? site)
  shutdowns task := (world.tasks[task]?).bind (·.progress? site)

variable {world before after : World} {me : TaskId} {site : SiteId}

/-- What the teardown is read off. -/
theorem ledger_congr (sites : ∀ component,
      (after.sites[site]?).any (·.gateway.holds component) =
        (before.sites[site]?).any (·.gateway.holds component))
    (lines : (after.sites[site]?).elim [] (·.broker.stops) =
      (before.sites[site]?).elim [] (·.broker.stops))
    (tasks : after.tasks = before.tasks) : after.ledger site = before.ledger site := by
  unfold ledger
  rw [tasks, lines]
  simp only [sites]

/-- The teardown of a gateway after a task that has nothing to do with it has run. -/
theorem ledger_strokes {purpose : Purpose} {sends hands : Prop}
    (strokes : Strokes me purpose sends hands before after) (foreign : site ∉ purpose.tearsDown) :
    (after.ledger site).holds = (before.ledger site).holds ∧
      (after.ledger site).lines = (before.ledger site).lines ∧
      ∀ other ≠ me, (after.ledger site).stops other = (before.ledger site).stops other ∧
        (after.ledger site).shutdowns other = (before.ledger site).shutdowns other := by
  refine ⟨?_, ?_, ?_⟩
  · funext component
    unfold ledger
    obtain ⟨absent, still⟩ | ⟨found, later, there, here, frame⟩ := strokes.siteFrame site
    · rw [absent, still]
    · simp [there, here, frame.holds foreign]
  · unfold ledger
    obtain ⟨absent, still⟩ | ⟨found, later, there, here, frame⟩ := strokes.siteFrame site
    · rw [absent, still]
    · simp [there, here, frame.stops foreign]
  · intro other differ
    have frame := strokes.taskFrame
    simp only [ledger]
    cases there : before.tasks[other]? with
    | none =>
      cases here : after.tasks[other]? with
      | none => simp
      | some found =>
        obtain ⟨-, bears⟩ := frame.born other found there here differ
        have outside := Task.outside (outside_of_bears foreign (bears.imp id (·.2)))
        exact ⟨outside.1, outside.2⟩
    | some found =>
      obtain ⟨stage, here, moved⟩ := frame.kept other found there
      rw [here]
      rcases moved with rfl | ⟨alike, -⟩ | ⟨mine, -⟩
      · exact ⟨rfl, rfl⟩
      · obtain ⟨stop, shutdown⟩ := alike.progress site
        simp only [Option.bind_some, Task.stopOf?, Task.progress?, stop, shutdown]
        exact ⟨trivial, trivial⟩
      · exact absurd mine differ

/-- A task that has nothing to do with a gateway leaves its teardown alone. -/
theorem ledger_of_foreign {found : Task} {sends hands : Prop}
    (strokes : Strokes me found.purpose sends hands before after)
    (mine : before.tasks[me]? = some found) (foreign : site ∉ found.purpose.tearsDown) :
    after.ledger site = before.ledger site := by
  obtain ⟨holds, lines, others⟩ := ledger_strokes strokes foreign
  obtain ⟨stage, still, -⟩ := strokes.taskFrame.kept me found mine
  have early := Task.outside foreign
  have late : ({ found with stage := stage } : Task).stopOf? site = none ∧
      ({ found with stage := stage } : Task).progress? site = none := Task.outside foreign
  refine Ledger.ext holds lines (funext fun other => ?_) (funext fun other => ?_)
  · by_cases self : other = me
    · subst self
      simp only [ledger, mine, still, Option.bind_some, early.1, late.1]
    · exact (others other self).1
  · by_cases self : other = me
    · subst self
      simp only [ledger, mine, still, Option.bind_some, early.2, late.2]
    · exact (others other self).2

/-- A shutdown is no stop task. -/
theorem stops_ledger_of_shutsDown {found : Task} (mine : world.tasks[me]? = some found)
    (shuts : found.purpose.shutsDown ≠ []) : (world.ledger site).stops me = none := by
  obtain ⟨actor, purpose, stage⟩ := found
  simp only [ledger, mine, Option.bind_some]
  cases purpose with
  | stopComponent => simp [Purpose.shutsDown] at shuts
  | _ => rfl

/-- What a shutdown does with one gateway leaves the teardown of the others alone, but for
its own progress. -/
theorem ledger_put_of_foreign {found : Task} {purpose : Purpose} {sends hands : Prop}
    (strokes : Strokes me purpose sends hands before after) (mine : before.tasks[me]? = some found)
    (shuts : found.purpose.shutsDown ≠ []) (foreign : site ∉ purpose.tearsDown)
    (progress : Progress) :
    (after.ledger site).put me progress = (before.ledger site).put me progress := by
  obtain ⟨holds, lines, others⟩ := ledger_strokes strokes foreign
  obtain ⟨stage, still, -⟩ := strokes.taskFrame.kept me found mine
  refine Ledger.ext holds lines (funext fun other => ?_) (funext fun other => ?_)
  · by_cases self : other = me
    · subst self
      exact (stops_ledger_of_shutsDown still shuts).trans
        (stops_ledger_of_shutsDown mine shuts).symm
    · exact (others other self).1
  · by_cases self : other = me
    · subst self
      simp [Ledger.put]
    · simpa [Ledger.put, self] using (others other self).2

end World

end ClusterGateway
