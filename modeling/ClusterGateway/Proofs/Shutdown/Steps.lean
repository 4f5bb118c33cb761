import ClusterGateway.Proofs.Shutdown.View

/-!
# The teardown of a gateway goes on in steps

What a shutdown or a stop task does to the teardown of its gateway between two waits is a
sequence of ledger steps, but for stops that break down. The parameter `breaks` holds where
the script lets one do so.
-/

namespace ClusterGateway

namespace Ledger

variable {me : TaskId} {ledger : Ledger}

/-- The last place that a shutdown was put in counts. -/
theorem put_put (ledger : Ledger) (first second : Progress) :
    (ledger.put me first).put me second = ledger.put me second := by
  refine Ledger.ext rfl rfl rfl (funext fun other => ?_)
  by_cases self : other = me <;> simp [put, self]

/-- A shutdown that has come to a component finds it gone. -/
theorem step_skip {component : Component} (gone : ledger.holds component = false) :
    Step me (ledger.put me (.turn component)) (ledger.put me (.after component)) := by
  rw [← put_put ledger (.turn component) (.after component)]
  exact .skip (if_pos rfl) gone

/-- A shutdown that has come to a component begins to stop it. -/
theorem step_close {component : Component} (time : Nat) (holds : ledger.holds component = true) :
    Step me (ledger.put me (.turn component))
      ((ledger.take time component).put me (.stopping component)) := by
  rw [← put_put (ledger.take time component) (.turn component) (.stopping component)]
  exact .close time (if_pos rfl) holds

/-- The component that a shutdown is stopping has stopped. -/
theorem step_closed {component : Component} (time : Nat) :
    Step me (ledger.put me (.stopping component))
      ((ledger.give time component).put me (.after component)) := by
  rw [← put_put (ledger.give time component) (.stopping component) (.after component)]
  exact .closed time (if_pos rfl)

/-- The stop tasks of a shutdown are over. -/
theorem step_join {tasks : List TaskId}
    (settled : ∀ task ∈ tasks, ∀ entry, ledger.stops task = some entry →
      entry.progress = .settled) :
    Step me (ledger.put me (.joining tasks)) (ledger.put me (.turn .offsets)) := by
  rw [← put_put ledger (.joining tasks) (.turn .offsets)]
  exact .join (if_pos rfl) settled

/-- A shutdown that is about to do something falls. -/
theorem stride_fall {breaks : Prop} (broken : breaks) (progress : Progress) :
    Stride breaks me (ledger.put me progress) (ledger.put me .dropped) := by
  rw [← put_put ledger progress .dropped]
  exact .fall broken (if_pos rfl)

/-- Where no stop breaks down, strides are steps. -/
theorem steps_of_strides {before after : Ledger}
    (strides : Relation.ReflTransGen (Stride False me) before after) :
    Relation.ReflTransGen (Step me) before after := by
  refine Relation.ReflTransGen.mono (fun first last stride => ?_) before after strides
  cases stride with
  | step step => exact step
  | fall broken => exact broken.elim
  | fail broken => exact broken.elim

end Ledger

namespace World

variable {world : World} {me : TaskId} {site : SiteId} {found : Site} {actor : Option String}
  {part : Shutdown} {breaks : Prop}

/-- What is written to the log has nothing to do with the teardown. -/
theorem ledger_note (world : World) (actor : Option String) (entries : List LogEntry) :
    (world.note actor entries).ledger site = world.ledger site :=
  rfl

/-- A timer has nothing to do with the teardown. -/
theorem ledger_setTimer (world : World) (task : TaskId) (due : Nat) :
    (world.setTimer task due).ledger site = world.ledger site :=
  rfl

/-- Waking a task has nothing to do with the teardown. -/
theorem ledger_wake (world : World) (task : TaskId) :
    (world.wake task).ledger site = world.ledger site := by
  obtain ⟨ready, same⟩ := exists_wake world task
  rw [same]
  rfl

/-- A change of a gateway that keeps its components has nothing to do with the teardown. -/
theorem ledger_onGateway (world : World) (place : SiteId) {change : Gateway → Gateway}
    (keeps : ∀ gateway, (change gateway).holds = gateway.holds) :
    (world.onGateway place change).ledger site = world.ledger site := by
  have looked := getElem?_onSite world place
    (fun found => { found with gateway := change found.gateway }) site
  refine ledger_congr (fun component => ?_) ?_ rfl
  · rw [onGateway, looked]
    split
    · cases world.sites[site]? <;> simp [keeps]
    · rfl
  · rw [onGateway, looked]
    split
    · cases world.sites[site]? <;> rfl
    · rfl

/-- The state of a component has nothing to do with the teardown. -/
theorem ledger_setState (world : World) (place : SiteId) (actor : Option String)
    (component : Component) (state : ComponentState) :
    (world.setState place actor component state).ledger site = world.ledger site := by
  obtain ⟨-, same⟩ | ⟨entries, same⟩ := setState_cases world place actor component state
  · rw [same]
  · rw [same, ledger_note]
    exact ledger_onGateway world place fun _ => rfl

/-- A component is taken away. -/
theorem ledger_release (there : site < world.sites.length) (component : Component) :
    (world.onGateway site (·.release component)).ledger site =
      { world.ledger site with
        holds := fun other => other != component && (world.ledger site).holds other } := by
  have looked := getElem?_onSite world site
    (fun found => { found with gateway := found.gateway.release component }) site
  rw [List.getElem?_eq_getElem there, if_pos rfl] at looked
  refine Ledger.ext (funext fun other => ?_) ?_ rfl rfl
  · simp only [ledger, onGateway, looked, List.getElem?_eq_getElem there]
    rfl
  · simp only [ledger, onGateway, looked, List.getElem?_eq_getElem there]
    rfl

/-- A line is added to the record of stops. -/
theorem ledger_recordStop (there : site < world.sites.length) (component : Component)
    (ended : Bool) : (world.recordStop site component ended).ledger site =
      { world.ledger site with
        lines := (world.ledger site).lines ++ [⟨world.now, component, ended⟩] } := by
  have looked := getElem?_onSite world site
    (fun found => { found with broker := found.broker.recordStop ⟨world.now, component, ended⟩ })
    site
  rw [List.getElem?_eq_getElem there, if_pos rfl] at looked
  refine Ledger.ext (funext fun other => ?_) ?_ rfl rfl
  · simp only [ledger, recordStop, onBroker, looked, List.getElem?_eq_getElem there]
    rfl
  · simp only [ledger, recordStop, onBroker, looked, List.getElem?_eq_getElem there]
    rfl

/-- Setting a state keeps the clock, the script and the number of gateways. -/
theorem setState_fields (world : World) (place : SiteId) (actor : Option String)
    (component : Component) (state : ComponentState) :
    (world.setState place actor component state).now = world.now ∧
      (world.setState place actor component state).script = world.script ∧
      (world.setState place actor component state).tasks = world.tasks ∧
      (world.setState place actor component state).sites.length = world.sites.length := by
  obtain ⟨-, same⟩ | ⟨entries, same⟩ := setState_cases world place actor component state
  · rw [same]
    exact ⟨rfl, rfl, rfl, rfl⟩
  · rw [same]
    exact ⟨rfl, rfl, rfl, by simp [note, onGateway, onSite]⟩

/-- A component is taken away, its state is set and its stop begins. -/
theorem ledger_beginStop (there : site < world.sites.length) (component : Component) :
    (((world.onGateway site (·.release component)).setState site actor component
      .stopping).recordStop site component false).ledger site =
        (world.ledger site).take world.now component := by
  obtain ⟨clock, -, -, length⟩ := setState_fields
    (world.onGateway site (·.release component)) site actor component .stopping
  rw [ledger_recordStop, ledger_setState, ledger_release there, clock]
  · rfl
  · rw [length]
    simpa [onGateway, onSite] using there

/-- Taking a component away keeps the tasks, the script and the number of gateways. -/
theorem beginStop_fields (world : World) (place : SiteId) (actor : Option String)
    (component : Component) :
    (((world.onGateway place (·.release component)).setState place actor component
      .stopping).recordStop place component false).tasks = world.tasks ∧
    (((world.onGateway place (·.release component)).setState place actor component
      .stopping).recordStop place component false).script = world.script ∧
    (((world.onGateway place (·.release component)).setState place actor component
      .stopping).recordStop place component false).sites.length = world.sites.length := by
  obtain ⟨-, script, tasks, length⟩ := setState_fields
    (world.onGateway place (·.release component)) place actor component .stopping
  refine ⟨tasks, script, ?_⟩
  simp only [recordStop, onBroker, onSite, List.length_modify, length]
  simp [onGateway, onSite]

/-- The stop of a component has returned, and its state is set. -/
theorem ledger_endStop (there : site < world.sites.length) (component : Component) :
    ((world.recordStop site component true).setState site actor component .stopped).ledger site =
      (world.ledger site).give world.now component := by
  rw [ledger_setState, ledger_recordStop there]
  rfl

section Shutdown

variable {actor : Option String} {part : Shutdown} {found : Site}

/-- A shutdown that is complete has finished. -/
theorem ledger_completeShutdown (world : World) (owner : String) :
    ((world.completeShutdown actor owner part).1.ledger part.site) = world.ledger part.site := by
  unfold completeShutdown
  rw [ledger_note]
  exact ledger_onGateway world part.site fun _ => rfl

/-- A stop breaks down only if the script says so. -/
theorem stopFaults_ne_nil {script : BrokerScript} {component : Component}
    (failed : script.stopBreaks component = true) : script.stopFaults ≠ [] := by
  intro sturdy
  simp [BrokerScript.stopBreaks, sturdy] at failed

/-- The client has been closed. -/
theorem step_endClientClose (there : part.site < world.sites.length) (owner : String) :
    Ledger.Step me ((world.ledger part.site).put me (.stopping .client))
      (((world.endClientClose actor owner part).1.ledger part.site).put me .finished) := by
  unfold endClientClose
  dsimp only
  rw [ledger_completeShutdown, ledger_endStop there]
  exact Ledger.step_closed world.now

/-- The client is taken away and closed. -/
theorem strides_beginClientClose (there : part.site < world.sites.length)
    (holds : (world.ledger part.site).holds .client = found.gateway.holds .client)
    (may : world.script.stopFaults ≠ [] → breaks) :
    Relation.ReflTransGen (Ledger.Stride breaks me)
      ((world.ledger part.site).put me (.turn .client))
      (((world.beginClientClose me actor found part).1.ledger part.site).put me
        (world.beginClientClose me actor found part).2.phase.progress) := by
  have taken : (((world.onGateway part.site (·.release .client)).recordStop part.site .client
      false).ledger part.site) = (world.ledger part.site).take world.now .client := by
    rw [ledger_recordStop (by simpa [onGateway, onSite] using there), ledger_release there]
    rfl
  unfold beginClientClose
  dsimp only
  split
  · rename_i held
    have close : Ledger.Step me ((world.ledger part.site).put me (.turn .client)) _ :=
      Ledger.step_close world.now (holds.trans held)
    rw [← taken] at close
    split
    · rename_i failed
      exact .head (.step close) (.single (Ledger.stride_fall (may (stopFaults_ne_nil failed)) _))
    · split
      · exact .head (.step close) (.single (.step (step_endClientClose
          (by simpa [onGateway, onSite, recordStop, onBroker] using there) _)))
      · exact .single (.step close)
  · rename_i gone
    rw [ledger_completeShutdown]
    exact .single (.step (Ledger.step_skip (holds.trans (Bool.eq_false_iff.mpr gone))))

/-- The offset manager has stopped. -/
theorem strides_endOffsetsStop (there : part.site < world.sites.length)
    (holds : (world.ledger part.site).holds .client = found.gateway.holds .client)
    (may : world.script.stopFaults ≠ [] → breaks) :
    Relation.ReflTransGen (Ledger.Stride breaks me)
      ((world.ledger part.site).put me (.stopping .offsets))
      (((world.endOffsetsStop me actor found part).1.ledger part.site).put me
        (world.endOffsetsStop me actor found part).2.phase.progress) := by
  have ended : ((world.recordStop part.site .offsets true).setState part.site actor .offsets
      .stopped).ledger part.site = (world.ledger part.site).give world.now .offsets :=
    ledger_endStop there .offsets
  obtain ⟨-, script, -, length⟩ := setState_fields
    (world.recordStop part.site .offsets true) part.site actor .offsets .stopped
  refine .head (.step (Ledger.step_closed world.now)) ?_
  rw [← ended]
  refine strides_beginClientClose ?_ ?_ ?_
  · rw [length]
    simpa [recordStop, onBroker, onSite] using there
  · rw [ended]
    exact holds
  · rw [script]
    exact may

/-- The offset manager is taken away and stopped. -/
theorem strides_beginOffsetsStop (there : world.sites[part.site]? = some found)
    (may : world.script.stopFaults ≠ [] → breaks) :
    Relation.ReflTransGen (Ledger.Stride breaks me)
      ((world.ledger part.site).put me (.turn .offsets))
      (((world.beginOffsetsStop me actor found part).1.ledger part.site).put me
        (world.beginOffsetsStop me actor found part).2.phase.progress) := by
  have inside : part.site < world.sites.length := (List.getElem?_eq_some_iff.mp there).1
  have holds (component : Component) :
      (world.ledger part.site).holds component = found.gateway.holds component := by
    simp [ledger, there]
  have taken : (((world.onGateway part.site (·.release .offsets)).setState part.site actor .offsets
      .stopping).recordStop part.site .offsets false).ledger part.site =
        (world.ledger part.site).take world.now .offsets := ledger_beginStop inside .offsets
  obtain ⟨-, script, length⟩ := beginStop_fields world part.site actor .offsets
  unfold beginOffsetsStop
  dsimp only
  split
  · rename_i held
    have close : Ledger.Step me ((world.ledger part.site).put me (.turn .offsets)) _ :=
      Ledger.step_close world.now ((holds .offsets).trans held)
    rw [← taken] at close
    generalize ((world.onGateway part.site (·.release .offsets)).setState part.site actor .offsets
      .stopping).recordStop part.site .offsets false = after at taken script length close ⊢
    rw [← script] at may
    split
    · rename_i failed
      exact .head (.step close) (.single (Ledger.stride_fall (may (stopFaults_ne_nil failed)) _))
    · split
      · refine .head (.step close) (strides_endOffsetsStop (length.symm ▸ inside) ?_ may)
        rw [taken]
        exact holds .client
      · exact .single (.step close)
  · rename_i gone
    have lacks := (holds .offsets).trans (Bool.eq_false_iff.mpr gone)
    exact .head (.step (Ledger.step_skip lacks)) (strides_beginClientClose inside (holds .client) may)

/-- The tasks that were there are still there after the stop tasks were started. -/
theorem spawnStops_old {task : TaskId} {old : Task} (parent : TaskId) (path : TaskPath)
    (components : List Component) (there : world.tasks[task]? = some old) :
    (world.spawnStops parent site path components).1.tasks[task]? = some old := by
  induction components generalizing world with
  | nil => exact there
  | cons component rest ih => exact ih (getElem?_spawn_of_some world there)

/-- A task that is new after the stop tasks were started is one of them. -/
theorem spawnStops_new {task : TaskId} {new : Task} (parent : TaskId) (path : TaskPath)
    (components : List Component) (absent : world.tasks[task]? = none)
    (there : (world.spawnStops parent site path components).1.tasks[task]? = some new) :
    task ∈ (world.spawnStops parent site path components).2 ∧ ∃ component ∈ components,
      new.purpose = .stopComponent site component parent ∧ new.stage = .fresh := by
  induction components generalizing world with
  | nil => exact absurd (absent.symm.trans there) (by simp)
  | cons component rest ih =>
    let started := (world.spawn (some (path.child component.stopTaskName).text)
      (.stopComponent site component parent))
    cases first : started.1.tasks[task]? with
    | none =>
      obtain ⟨member, kind, serving, rest⟩ := ih first there
      exact ⟨List.mem_cons_of_mem _ member, kind, List.mem_cons_of_mem _ serving, rest⟩
    | some early =>
      obtain ⟨here, rfl⟩ := getElem?_spawn_of_none world absent first
      obtain rfl := Option.some.inj ((spawnStops_old parent path rest first).symm.trans there)
      refine ⟨?_, component, List.mem_cons_self, rfl, rfl⟩
      rw [here]
      exact List.mem_cons_self

/-- Every component gets a stop task. -/
theorem spawnStops_all (site : SiteId) (parent : TaskId) (path : TaskPath)
    {components : List Component}
    {component : Component} (member : component ∈ components) (world : World) :
    ∃ task ∈ (world.spawnStops parent site path components).2, ∃ actor,
      (world.spawnStops parent site path components).1.tasks[task]? =
        some ⟨actor, .stopComponent site component parent, .fresh⟩ := by
  induction components generalizing world with
  | nil => simp at member
  | cons first rest ih =>
    rcases List.mem_cons.mp member with rfl | later
    · refine ⟨world.tasks.length, List.mem_cons_self,
        some (path.child component.stopTaskName).text, ?_⟩
      exact spawnStops_old parent path rest (getElem?_spawn_self world _ _)
    · obtain ⟨task, there, actor, found⟩ := ih later
        (world.spawn (some (path.child first.stopTaskName).text)
          (.stopComponent site first parent)).1
      exact ⟨task, List.mem_cons_of_mem _ there, actor, found⟩

/-- Starting tasks leaves the gateways alone. -/
theorem sites_spawnStops (world : World) (parent : TaskId) (path : TaskPath)
    (components : List Component) :
    (world.spawnStops parent site path components).1.sites = world.sites := by
  induction components generalizing world with
  | nil => rfl
  | cons component rest ih => exact ih _

/-- A shutdown starts tasks that stop the serving components. -/
theorem step_spawnStops {running : Task} (mine : world.tasks[me]? = some running)
    (path : TaskPath) :
    Ledger.Step me ((world.ledger site).put me .opening)
      (((world.spawnStops me site path Component.serving).1.ledger site).put me
        (.joining (world.spawnStops me site path Component.serving).2)) := by
  let after := (world.spawnStops me site path Component.serving).1
  let tasks := (world.spawnStops me site path Component.serving).2
  have sites : after.sites = world.sites := sites_spawnStops world me path Component.serving
  have same : (after.ledger site).put me (.joining tasks) =
      ({ (world.ledger site).put me .opening with stops := (after.ledger site).stops }).put me
        (.joining tasks) := by
    refine Ledger.ext ?_ ?_ rfl (funext fun other => ?_)
    · simp only [Ledger.put, ledger, sites]
    · simp only [Ledger.put, ledger, sites]
    · by_cases self : other = me
      · simp [Ledger.put, self]
      · simp only [Ledger.put, self, if_false, ledger]
        cases there : world.tasks[other]? with
        | some old => rw [spawnStops_old me path Component.serving there]
        | none =>
          cases here : after.tasks[other]? with
          | none => rfl
          | some new =>
            obtain ⟨-, component, -, purpose, -⟩ :=
              spawnStops_new me path Component.serving there here
            simp [Task.progress?, purpose, Purpose.shutsDown]
  rw [show ((world.spawnStops me site path Component.serving).1.ledger site).put me
    (.joining (world.spawnStops me site path Component.serving).2) = _ from same]
  refine .open (if_pos rfl) ?_ ?_ ?_
  · intro task entry there
    simp only [Ledger.put, ledger] at there ⊢
    cases before : world.tasks[task]? with
    | none => simp [before] at there
    | some old =>
      rw [spawnStops_old me path Component.serving before, ← before]
      exact there
  · intro task entry absent there
    simp only [Ledger.put, ledger] at absent there ⊢
    cases before : world.tasks[task]? with
    | some old =>
      rw [spawnStops_old me path Component.serving before, ← before, absent] at there
      simp at there
    | none =>
      have differ : task ≠ me := by
        rintro rfl
        simp [before] at mine
      obtain ⟨new, here, kind⟩ := Option.bind_eq_some_iff.mp there
      obtain ⟨member, component, serving, purpose, fresh⟩ :=
        spawnStops_new me path Component.serving before here
      simp only [Task.stopOf?, purpose, fresh, if_true, Option.some.injEq] at kind
      subst kind
      exact ⟨by simp [differ], member, serving, rfl, rfl⟩
  · intro component serving
    obtain ⟨task, member, actor, found⟩ := spawnStops_all site me path serving world
    have there : after.tasks[task]? = some ⟨actor, .stopComponent site component me, .fresh⟩ :=
      found
    refine ⟨task, member, ?_⟩
    simp only [ledger, there, Option.bind_some, Task.stopOf?, if_true]
    rfl

/-- A shutdown announces itself and starts its stop tasks. -/
theorem step_openShutdown {running : Task} (mine : world.tasks[me]? = some running)
    (found : Site) : Ledger.Step me ((world.ledger part.site).put me .opening)
      (((world.openShutdown me actor found part).1.ledger part.site).put me
        (world.openShutdown me actor found part).2.phase.progress) := by
  unfold openShutdown
  dsimp only
  generalize announces : (world.onGateway part.site (·.notify .shutdownInitiated)).note actor
    [⟨.info, "stopping proxy", [("proxy", found.gateway.task.text)]⟩] = announced
  have same : announced.ledger part.site = world.ledger part.site := by
    rw [← announces, ledger_note]
    exact ledger_onGateway world part.site fun _ => rfl
  have still : announced.tasks[me]? = some running := by
    rw [← announces]
    exact mine
  rw [← same]
  exact step_spawnStops still found.gateway.task

/-- Tasks that are over count as stop tasks that are over. -/
theorem over_of_isOver {stops : List TaskId} (settled : stops.all world.isOver = true) :
    ∀ task ∈ stops, ∀ entry, (world.ledger site).stops task = some entry →
      entry.progress = .settled := by
  intro task member entry found
  obtain ⟨⟨_, purpose, stage⟩, there, kind⟩ := Option.bind_eq_some_iff.mp found
  have ended := List.all_eq_true.mp settled task member
  simp only [isOver, there] at ended
  cases purpose with
  | stopComponent place component owner =>
    simp only [Task.stopOf?] at kind
    split at kind
    · obtain rfl := Option.some.inj kind
      cases stage with
      | ended outcome => rfl
      | _ => simp at ended
    · simp at kind
  | _ => simp [Task.stopOf?] at kind

/-- The shutdown of one gateway advances in strides. -/
theorem strides_advanceShutdown {running : Task} (mine : world.tasks[me]? = some running)
    (actor : Option String) (inside : part.site < world.sites.length)
    (may : world.script.stopFaults ≠ [] → breaks) :
    Relation.ReflTransGen (Ledger.Stride breaks me)
      ((world.ledger part.site).put me part.phase.progress)
      (((world.advanceShutdown me actor part).1.ledger part.site).put me
        (world.advanceShutdown me actor part).2.phase.progress) := by
  have there : world.sites[part.site]? = some world.sites[part.site] :=
    List.getElem?_eq_getElem inside
  have holds : (world.ledger part.site).holds .client =
      world.sites[part.site].gateway.holds .client := by
    simp [ledger, there]
  cases phase : part.phase with
  | opening =>
    simp only [advanceShutdown, there, phase, ShutdownPhase.progress]
    exact .single (.step (step_openShutdown mine world.sites[part.site]))
  | joining stops =>
    simp only [advanceShutdown, there, phase, ShutdownPhase.progress]
    split
    · rename_i settled
      refine .head (.step (Ledger.step_join (over_of_isOver settled))) ?_
      rw [← ledger_note world actor
        (stops.flatMap (world.stopFailureEntries world.sites[part.site].gateway.task.text))]
      exact strides_beginOffsetsStop there may
    · simp only [phase]
      exact .refl
  | stoppingOffsets due =>
    simp only [advanceShutdown, there, phase, ShutdownPhase.progress]
    split
    · exact strides_endOffsetsStop inside holds may
    · simp only [phase]
      exact .refl
  | closingClient due =>
    simp only [advanceShutdown, there, phase, ShutdownPhase.progress]
    split
    · exact .single (.step (step_endClientClose inside _))
    · simp only [phase]
      exact .refl
  | finished =>
    simp only [advanceShutdown, there, phase, ShutdownPhase.progress]
    exact .refl
  | broken =>
    simp only [advanceShutdown, there, phase, ShutdownPhase.progress]
    exact .refl

/-- What a step over some gateways keeps for the steps over the others. -/
theorem strokes_keep {purpose : Purpose} {sends hands : Prop} {before after : World}
    {running : Task} (strokes : Strokes me purpose sends hands before after)
    (mine : before.tasks[me]? = some running)
    (inside : site < before.sites.length) (may : before.script.stopFaults ≠ [] → breaks) :
    (∃ stage, after.tasks[me]? = some { running with stage := stage }) ∧
      site < after.sites.length ∧ (after.script.stopFaults ≠ [] → breaks) := by
  obtain ⟨stage, still, -⟩ := strokes.taskFrame.kept me running mine
  refine ⟨⟨stage, still⟩, ?_, by rw [strokes.script_eq]; exact may⟩
  obtain ⟨absent, -⟩ | ⟨found, later, -, here, -⟩ := strokes.siteFrame site
  · exact absurd absent (by simpa using inside)
  · exact (List.getElem?_eq_some_iff.mp here).1

/-- A shutdown of several gateways advances each of them in strides. -/
theorem strides_advanceShutdowns {running : Task} {parts : List Shutdown}
    (mine : world.tasks[me]? = some running) (shuts : running.purpose.shutsDown ≠ [])
    (actor : Option String) (distinct : (parts.map (·.site)).Nodup)
    (inside : part.site < world.sites.length) (may : world.script.stopFaults ≠ [] → breaks)
    (member : part ∈ parts) :
    ∃ later ∈ (world.advanceShutdowns me actor parts).2, later.site = part.site ∧
      Relation.ReflTransGen (Ledger.Stride breaks me)
        ((world.ledger part.site).put me part.phase.progress)
        (((world.advanceShutdowns me actor parts).1.ledger part.site).put me
          later.phase.progress) := by
  induction parts generalizing world running with
  | nil => simp at member
  | cons first rest ih =>
    obtain ⟨new, distinct⟩ := List.nodup_cons.mp distinct
    simp only [advanceShutdowns]
    have one : Strokes me (.shutdown [first.site] false) True True world
        (world.advanceShutdown me actor first).1 :=
      strokes_advanceShutdown world (by simp [Purpose.shutsDown])
    obtain ⟨⟨stage, still⟩, inside', may'⟩ := strokes_keep one mine inside may
    rcases List.mem_cons.mp member with rfl | later
    · refine ⟨_, List.mem_cons_self, site_advanceShutdown world, ?_⟩
      have others : Strokes me (.shutdown (rest.map (·.site)) false) True True
          (world.advanceShutdown me actor part).1
          ((world.advanceShutdown me actor part).1.advanceShutdowns me actor rest).1 :=
        strokes_advanceShutdowns _ rest fun other there => List.mem_map_of_mem there
      rw [ledger_put_of_foreign others still shuts new]
      exact strides_advanceShutdown mine actor inside may
    · have differ : part.site ∉ (Purpose.shutdown [first.site] false).tearsDown := by
        intro same
        have same : part.site = first.site := List.mem_singleton.mp same
        exact new (List.mem_map.mpr ⟨part, later, same⟩)
      obtain ⟨last, there, named, strides⟩ :=
        ih still shuts distinct inside' may' later
      refine ⟨last, List.mem_cons_of_mem _ there, named, ?_⟩
      rw [← ledger_put_of_foreign one mine shuts differ]
      exact strides

end Shutdown

end World

end ClusterGateway
