import ClusterGateway.Proofs.Lifecycle.Journal
import ClusterGateway.Proofs.Shutdown.Again
import ClusterGateway.Proofs.Shutdown.Reports

/-!
# The state that a component is reported in

When a gateway is open, each of its components is running. From then on the record of stops
tells the state of each component, and the changes that were announced of it: a component
that is being stopped is reported as stopping, and one that has stopped as stopped. The
client alone is reported as running while it is being closed, and so as able to work. Main
statements: `states_of_record`, `works_until_stopped`; `closing_client_works`.
-/

namespace ClusterGateway

/-- It can be computed whether a stop has begun. -/
instance (lines : List StopLine) (component : Component) : Decidable (Begun lines component) :=
  inferInstanceAs (Decidable (∃ line ∈ lines, line.component = component ∧ line.ended = false))

/-- It can be computed whether a stop has returned. -/
instance (lines : List StopLine) (component : Component) : Decidable (Over lines component) :=
  inferInstanceAs (Decidable (∃ line ∈ lines, line.component = component ∧ line.ended = true))

namespace Component

/-- The state that a component of an opened gateway is in, by the record of stops. -/
def reported (component : Component) (lines : List StopLine) : ComponentState :=
  if Over lines component then .stopped
  else if Begun lines component ∧ component ≠ .client then .stopping
  else .running

/-- The changes of state of a component of an opened gateway, by the record of stops. -/
def course (component : Component) (lines : List StopLine) :
    List (ComponentState × ComponentState) :=
  if component = .client then
    if Over lines component then [(.running, .stopped)] else []
  else
    (if Begun lines component then [(.running, .stopping)] else []) ++
      if Over lines component then [(.stopping, .stopped)] else []

variable {component other : Component} {lines : List StopLine} {time : Nat} {ended : Bool}

/-- The client that begins to close tells nothing of it. -/
theorem tells_closing : client.reported (lines ++ [⟨time, client, false⟩]) =
      client.reported lines ∧
    client.course (lines ++ [⟨time, client, false⟩]) = client.course lines := by
  simp [reported, course, over_append_singleton]

/-- Any other component that begins to stop is stopping. -/
theorem tells_stopping (serves : component ≠ .client) (regular : Regular lines)
    (new : ¬ Begun lines component) :
    component.reported (lines ++ [⟨time, component, false⟩]) = .stopping ∧
      component.course (lines ++ [⟨time, component, false⟩]) =
        component.course lines ++ [(component.reported lines, .stopping)] := by
  have unsettled : ¬ Over lines component := fun settled => new (regular.begun_of_over settled)
  simp [course, reported, begun_append_singleton, over_append_singleton, new, unsettled, serves]

/-- A component that has stopped is stopped. -/
theorem tells_stopped (begun : Begun lines component) (unsettled : ¬ Over lines component) :
    component.reported (lines ++ [⟨time, component, true⟩]) = .stopped ∧
      component.course (lines ++ [⟨time, component, true⟩]) =
        component.course lines ++ [(component.reported lines, .stopped)] := by
  by_cases client : component = .client <;>
    simp_all [course, reported, begun_append_singleton, over_append_singleton]

/-- A line tells nothing of another component. -/
theorem tells_other (lines : List StopLine) (time : Nat) (ended : Bool)
    (differ : other ≠ component) :
    component.reported (lines ++ [⟨time, other, ended⟩]) = component.reported lines ∧
      component.course (lines ++ [⟨time, other, ended⟩]) = component.course lines := by
  simp [reported, course, begun_append_singleton, over_append_singleton, differ]

end Component

namespace Report

variable {base report : Report} {entry : ReportEntry} {entries : List ReportEntry}

/-- Since a time at which all components were running and no stop was on record, the state of each
component and the changes that were announced of it are those that the record of stops tells. -/
def Tracks (base report : Report) : Prop :=
  ∃ later, report.lifecycle.journal = base.lifecycle.journal ++ later ∧
    ∀ component : Component,
      report.lifecycle.state? component.name = some (component.reported report.lines) ∧
        changes component.name later = component.course report.lines

/-- All components are running. -/
theorem tracks_self (report : Report) (whole : report.lines = [])
    (running : ∀ component : Component,
      report.lifecycle.state? component.name = some .running) : report.Tracks report := by
  refine ⟨[], by simp, fun component => ⟨?_, ?_⟩⟩
  · rw [running, whole]
    rfl
  · rw [whole]
    cases component <;> rfl

/-- A line that tells of no change. -/
theorem Tracks.lines (tracks : base.Tracks report) {lines : List StopLine}
    (same : ∀ component : Component, component.reported lines = component.reported report.lines ∧
      component.course lines = component.course report.lines) :
    base.Tracks { report with lines := lines } := by
  obtain ⟨later, journal, follows⟩ := tracks
  refine ⟨later, journal, fun component => ?_⟩
  rw [(same component).1, (same component).2]
  exact follows component

/-- A line that tells of a change of state. -/
theorem Tracks.setState (tracks : base.Tracks report) {component : Component} {time : Nat}
    {ended : Bool} {state : ComponentState}
    (tells : component.reported (report.lines ++ [⟨time, component, ended⟩]) = state ∧
      component.course (report.lines ++ [⟨time, component, ended⟩]) =
        component.course report.lines ++ [(component.reported report.lines, state)]) :
    base.Tracks ⟨report.lines ++ [⟨time, component, ended⟩],
      report.lifecycle.setState component.name state⟩ := by
  obtain ⟨later, journal, follows⟩ := tracks
  obtain ⟨stands, told⟩ := follows component
  refine ⟨later ++ [.stateChanged component.name (component.reported report.lines) state], ?_, ?_⟩
  · rw [Lifecycle.journal_setState_from, journal, stands, List.append_assoc]
    rfl
  · intro other
    rw [Lifecycle.state?_setState, changes_append_stateChanged]
    by_cases same : other = component
    · subst same
      rw [if_pos rfl, if_pos rfl, tells.1, tells.2, told]
      exact ⟨rfl, rfl⟩
    · have apart : other.name ≠ component.name := fun names =>
        same (Component.name_injective other component names)
      obtain ⟨reported, course⟩ := Component.tells_other report.lines time ended (Ne.symm same)
      rw [if_neg apart, if_neg (Ne.symm apart), reported, course]
      exact follows other

/-- An event that tells of no component. -/
theorem Tracks.notify (tracks : base.Tracks report) {event : LifecycleEvent}
    (silent : ∀ name, event.change? name = none) :
    base.Tracks { report with lifecycle := report.lifecycle.notify event } := by
  obtain ⟨later, journal, follows⟩ := tracks
  refine ⟨later ++ [event], ?_, fun component => ⟨(follows component).1, ?_⟩⟩
  · rw [← List.append_assoc, ← journal]
    rfl
  · simp [changes, List.filterMap_append, silent, ← (follows component).2]

/-- One entry of a regular record. -/
theorem Tracks.add (tracks : base.Tracks report) (regular : Regular (report.add entry).lines) :
    base.Tracks (report.add entry) := by
  cases entry with
  | begins time component =>
    obtain ⟨before, begins, -⟩ := regular.of_append_singleton
    by_cases client : component = .client
    · subst client
      refine tracks.lines fun component => ?_
      by_cases own : component = .client
      · subst own
        exact Component.tells_closing
      · exact Component.tells_other _ _ _ (Ne.symm own)
    · rw [Report.add, if_neg client]
      exact tracks.setState (Component.tells_stopping client before (begins rfl))
  | ends time component =>
    obtain ⟨before, -, ends⟩ := regular.of_append_singleton
    obtain ⟨begun, unsettled⟩ := ends rfl
    exact tracks.setState (Component.tells_stopped begun unsettled)
  | initiates => exact tracks.notify fun _ => rfl
  | completes duration => exact tracks.notify fun _ => rfl

/-- A record without its last entry is regular if the whole record is. -/
theorem regular_of_add (regular : Regular (report.add entry).lines) : Regular report.lines := by
  cases entry with
  | begins time component => exact regular.of_append_singleton.1
  | ends time component => exact regular.of_append_singleton.1
  | initiates => exact regular
  | completes duration => exact regular

/-- All entries of a regular record. -/
theorem Tracks.foldl (tracks : base.Tracks report)
    (regular : Regular (entries.foldl Report.add report).lines) :
    base.Tracks (entries.foldl Report.add report) := by
  -- from the end of the record, since a part of a regular record is regular if it is the first part
  induction entries using List.reverseRecOn with
  | nil => exact tracks
  | append_singleton earlier entry ih =>
    rw [List.foldl_append] at regular ⊢
    exact (ih (regular_of_add regular)).add regular

end Report

namespace World

variable {world after opened last start : World} {site : SiteId} {component other : Component}
  {script : BrokerScript} {parent : TaskPath} {name : String} {config : GatewayConfig}

/-- The state of a component of a gateway. -/
def state? (world : World) (site : SiteId) (component : Component) : Option ComponentState :=
  (world.gateway? site).bind (·.lifecycle.state? component.name)

/-- The state of a component after a state was set. -/
theorem state?_setState (inside : site < world.sites.length) (actor : Option String)
    (component other : Component) (state : ComponentState) :
    (world.setState site actor component state).state? site other =
      if other = component then some state else world.state? site other := by
  have names : other.name = component.name ↔ other = component :=
    ⟨Component.name_injective other component, congrArg Component.name⟩
  rw [state?, gateway?_setState, if_pos rfl]
  simp [state?, gateway?, List.getElem?_eq_getElem inside, Gateway.setState,
    Lifecycle.state?_setState, names]

/-- A component that is created is in the state in which it was. -/
theorem state?_create {created : World} (goes : world.create site component = (created, none)) :
    created.state? site other = world.state? site other := by
  unfold create at goes
  split at goes
  · obtain rfl := (Prod.mk.inj goes).1
    rfl
  · dsimp only at goes
    split at goes
    · simp at goes
    · obtain rfl := (Prod.mk.inj goes).1
      rw [state?, gateway?_onGateway, if_pos rfl, Option.bind_map]
      rfl

/-- A component that was started is running; the others are in the states in which they were. -/
theorem state?_startComponent (goes : world.startComponent site component = (after, none))
    (inside : site < world.sites.length) (other : Component) :
    after.state? site other =
      if other = component then some .running else world.state? site other := by
  obtain ⟨announced, begins⟩ : ∃ announced, announced =
      if component = .offsets then world else world.setState site none component .starting :=
    ⟨_, rfl⟩
  have length : announced.sites.length = world.sites.length := by
    rw [begins]
    split
    · rfl
    · exact (starts_setState world site none component .starting).length
  have same (differ : other ≠ component) :
      announced.state? site other = world.state? site other := by
    rw [begins]
    split
    · rfl
    · rw [state?_setState inside, if_neg differ]
  unfold startComponent at goes
  dsimp only at goes
  rw [← begins] at goes
  split at goes
  · rename_i created attempt
    obtain rfl := (Prod.mk.inj goes).1
    have within : site < announced.sites.length := length.symm ▸ inside
    rw [state?_setState ((starts_create attempt within).length.symm ▸ within)]
    split
    · rfl
    · rename_i differ
      rw [state?_create attempt, same differ]
  · simp at goes

/-- Components that were started are running. -/
theorem state?_startComponents {components : List Component}
    (goes : world.startComponents site components = (after, none))
    (inside : site < world.sites.length) (other : Component) :
    after.state? site other =
      if other ∈ components then some .running else world.state? site other := by
  induction components generalizing world with
  | nil =>
    obtain rfl := (Prod.mk.inj goes).1
    simp
  | cons component rest ih =>
    unfold startComponents at goes
    split at goes
    · simp at goes
    · rename_i started first
      have within := (starts_startComponent first inside).length.symm ▸ inside
      rw [ih goes within, state?_startComponent first inside]
      by_cases later : other ∈ rest
      · simp [later]
      · simp [later]

/-- Every component of an opened gateway is running. -/
theorem state?_openGateway (opens : world.openGateway parent name config = (opened, .ok site))
    (component : Component) : opened.state? site component = some .running := by
  unfold openGateway at opens
  split at opens
  · dsimp only at opens
    split at opens
    · simp at opens
    · rename_i started all
      obtain ⟨rfl, same⟩ := Prod.mk.inj opens
      obtain rfl := Except.ok.inj same
      have running := state?_startComponents all (by simp) component
      rw [if_pos (Ledger.mem_all component)] at running
      exact running
  · simp at opens

/-- A report is told by the journal, the states and the record of stops. -/
theorem report?_eq_some {report : Report} (there : world.report? site = some report) :
    world.journal site = report.lifecycle.journal ∧
      (world.ledger site).lines = report.lines ∧
        ∀ component : Component,
          world.state? site component = report.lifecycle.state? component.name := by
  obtain ⟨found, here, rfl⟩ := Option.map_eq_some_iff.mp there
  exact ⟨by simp [journal, here], by simp [ledger, here],
    fun component => by simp [state?, gateway?, here]⟩

/-- Whatever has happened before a gateway was opened, and happens to it later: its record of stops
is regular, and tells the state of each component and the changes that were announced of it. -/
theorem states_of_record (past : Leads { script := script } start)
    (opens : start.openGateway parent name config = (opened, .ok site))
    (leads : opened.Leads last) :
    Regular (last.ledger site).lines ∧
      ∃ later, last.journal site = opened.journal site ++ later ∧
        ∀ component : Component,
          last.state? site component = some (component.reported (last.ledger site).lines) ∧
            changes component.name later = component.course (last.ledger site).lines := by
  have sited := (sited_empty script).leads past
  have watched : opened.Watched True site := watched_openGateway sited opens fun _ => trivial
  have regular := (watched.leads leads).attended.regular
  refine ⟨regular, ?_⟩
  obtain ⟨found, there, untouched⟩ := untouched_openGateway opens
  have first : opened.report? site = some ⟨found.broker.stops, found.gateway.lifecycle⟩ := by
    simp [report?, there]
  obtain ⟨entries, grown⟩ := reports_leads watched.tended leads
  rw [first, Option.map_some] at grown
  obtain ⟨journal, -, states⟩ := report?_eq_some first
  obtain ⟨journal', lines', states'⟩ := report?_eq_some grown
  have begins := Report.tracks_self ⟨found.broker.stops, found.gateway.lifecycle⟩
    (by simp [untouched.broker])
    (fun component => by rw [← states, state?_openGateway opens])
  rw [lines'] at regular
  obtain ⟨later, grows, follows⟩ := begins.foldl regular
  refine ⟨later, by rw [journal', grows, journal], fun component => ?_⟩
  rw [states', lines']
  exact follows component

/-- By the record of stops, a component can work until its stop has begun, and the client until it
is closed. -/
theorem canWork_reported {lines : List StopLine} (regular : Regular lines) :
    (component.reported lines).canWork = true ↔
      ¬ Begun lines component ∨ component = .client ∧ ¬ Over lines component := by
  have begun : Over lines component → Begun lines component := regular.begun_of_over
  unfold Component.reported
  split
  · rename_i settled
    simp [ComponentState.canWork, begun settled, settled]
  · rename_i unsettled
    split
    · rename_i stopping
      simp [ComponentState.canWork, stopping.1, stopping.2]
    · rename_i rests
      simp only [ComponentState.canWork, unsettled]
      tauto

/-- Whatever has happened, each component of an opened gateway is reported able to work exactly
until its stop has begun, and the client until it is closed. So no component is reported able to
work when its stop has begun, exactly unless it is the client, and is being closed. -/
theorem works_until_stopped (past : Leads { script := script } start)
    (opens : start.openGateway parent name config = (opened, .ok site))
    (leads : opened.Leads last) (component : Component) :
    let lines := (last.ledger site).lines
    ∃ state, last.state? site component = some state ∧
      (state.canWork = true ↔
        ¬ Begun lines component ∨ component = .client ∧ ¬ Over lines component) ∧
      ((state.canWork = true → ¬ Begun lines component) ↔
        (component = .client → Begun lines component → Over lines component)) := by
  intro lines
  obtain ⟨regular, later, -, follows⟩ := states_of_record past opens leads
  have works : (component.reported lines).canWork = true ↔
      ¬ Begun lines component ∨ component = .client ∧ ¬ Over lines component :=
    canWork_reported regular
  refine ⟨component.reported lines, (follows component).1, works, ?_⟩
  rw [works]
  tauto

/-- While the producer is being stopped, it is not reported able to work. -/
theorem works_until_stopped_producer : ∃ last, Leads slowGateway last ∧
    Begun (last.ledger 0).lines .producer ∧ ¬ Over (last.ledger 0).lines .producer ∧
    ∃ state, last.state? 0 .producer = some state ∧ state.canWork = false := by
  have runs : (slowGateway.play? (firstStop ++ [.resume 1])).map
      (fun last => (last.ledger 0).lines) = some [⟨0, .producer, false⟩] := by decide +kernel
  obtain ⟨last, played, lines⟩ := Option.map_eq_some_iff.mp runs
  have leads : Leads slowGateway last :=
    leads_of_play? opened_slowGateway.sound (by decide) played
  have begun : Begun (last.ledger 0).lines .producer := by
    rw [lines]
    decide
  have past : Leads { script := slowProducer } { script := slowProducer } := .refl
  have opens : openGateway { script := slowProducer } (.root "test") "default" {} =
      (slowGateway, .ok 0) := rfl
  obtain ⟨state, found, works, -⟩ := works_until_stopped past opens leads .producer
  refine ⟨last, leads, begun, by rw [lines]; decide, state, found, ?_⟩
  rw [← Bool.not_eq_true, works]
  simp [begun]

/-- A cluster whose client takes a second to close. -/
def slowClient : BrokerScript := { stopDelays := [(.client, 1000)] }

/-- Somebody stops a gateway, and all of it has stopped but for the client. -/
def lastToClose : List Move := firstStop ++ [.resume 1, .resume 2, .resume 3, .resume 0]

/-- The client is reported able to work while it is being closed. -/
theorem closing_client_works : ∃ start opened last, Leads { script := slowClient } start ∧
    start.openGateway (.root "test") "default" {} = (opened, .ok 0) ∧ opened.Leads last ∧
    ∃ state, last.state? 0 .client = some state ∧ state.canWork = true ∧
      Begun (last.ledger 0).lines .client := by
  let opened : World := (openGateway { script := slowClient } (.root "test") "default" {}).1
  have opens : openGateway { script := slowClient } (.root "test") "default" {} =
      (opened, .ok 0) := rfl
  have runs : (opened.play? lastToClose).map (fun last =>
      (last.state? 0 .client, decide (Begun (last.ledger 0).lines .client))) =
        some (some .running, true) := by decide +kernel
  obtain ⟨last, played, same⟩ := Option.map_eq_some_iff.mp runs
  obtain ⟨running, begun⟩ := Prod.mk.inj same
  have sound : opened.Sound := (Opened.gateway (.empty slowClient) opens).sound
  exact ⟨_, opened, last, .refl, opens, leads_of_play? sound (by decide) played, _, running, rfl,
    of_decide_eq_true begun⟩

end World

end ClusterGateway
