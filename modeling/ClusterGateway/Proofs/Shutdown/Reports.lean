import ClusterGateway.Proofs.Shutdown.Attendance
import ClusterGateway.Proofs.Shutdown.Bare
import ClusterGateway.Proofs.World.Gateways

/-!
# What a shutdown puts on record

A task that shuts a gateway down takes components away, has them stopped and sets their
states, and always does so in the same pairs: the stop of a component begins where its state
is set to stopping, and it is over where its state is set to stopped. Only the client begins
to close without a change of its state. So whatever happens, the record of stops and the
lifecycle of a gateway grow together, by the same entries. Main statements:
`reports_resume`, `reports_leads`.
-/

namespace ClusterGateway

/-- What is on record about the teardown of a gateway. -/
structure Report where
  lines : List StopLine
  lifecycle : Lifecycle

/-- One thing that a shutdown puts on record. -/
inductive ReportEntry where
  | begins (time : Nat) (component : Component)
  | ends (time : Nat) (component : Component)
  | initiates
  | completes (duration : Nat)
deriving Repr, DecidableEq

/-- The report with one more entry. The state of the client does not tell that it is being
closed. -/
def Report.add (report : Report) : ReportEntry → Report
  | .begins time component =>
    { lines := report.lines ++ [⟨time, component, false⟩]
      lifecycle :=
        if component = .client then report.lifecycle
        else report.lifecycle.setState component.name .stopping }
  | .ends time component =>
    { lines := report.lines ++ [⟨time, component, true⟩]
      lifecycle := report.lifecycle.setState component.name .stopped }
  | .initiates => { report with lifecycle := report.lifecycle.notify .shutdownInitiated }
  | .completes duration =>
    { report with lifecycle := report.lifecycle.notify (.shutdownCompleted duration) }

namespace World

variable {world before between after start last : World} {me : TaskId} {site : SiteId}
  {actor : Option String} {found : Site} {part : Shutdown}

/-- What is on record about the teardown of a gateway. -/
def report? (world : World) (site : SiteId) : Option Report :=
  (world.sites[site]?).map fun found => ⟨found.broker.stops, found.gateway.lifecycle⟩

/-- What happens to the report of a gateway is that entries are added to it. -/
def Reports (site : SiteId) (before after : World) : Prop :=
  ∃ entries : List ReportEntry,
    after.report? site = (before.report? site).map (entries.foldl Report.add)

/-- A report is read off the gateway and the record of its stops. -/
theorem report?_eq (world : World) (site : SiteId) : world.report? site =
    (world.gateway? site).map fun gateway => ⟨(world.ledger site).lines, gateway.lifecycle⟩ := by
  unfold report? gateway? ledger
  cases world.sites[site]? <;> rfl

namespace Reports

/-- Where the report is the same, nothing was added. -/
theorem of_eq (same : after.report? site = before.report? site) : Reports site before after :=
  ⟨[], same.trans Option.map_id'.symm⟩

/-- Where the gateways and clusters are the same, nothing was added. -/
theorem of_sites (same : after.sites = before.sites) : Reports site before after :=
  of_eq (by rw [report?, report?, same])

/-- Where the lifecycle and the record of stops are the same, nothing was added. -/
theorem of_frame (lifecycle : (after.gateway? site).map (·.lifecycle) =
      (before.gateway? site).map (·.lifecycle))
    (lines : (after.ledger site).lines = (before.ledger site).lines) :
    Reports site before after := by
  have same := congrArg (Option.map fun lifecycle => Report.mk (before.ledger site).lines lifecycle)
    lifecycle
  rw [Option.map_map, Option.map_map] at same
  exact of_eq (by rw [report?_eq, report?_eq, lines]; exact same)

/-- Entries are added after others. -/
theorem trans (first : Reports site before between) (second : Reports site between after) :
    Reports site before after := by
  obtain ⟨early, one⟩ := first
  obtain ⟨late, other⟩ := second
  refine ⟨early ++ late, ?_⟩
  rw [other, one, Option.map_map]
  congr 1
  funext report
  simp [List.foldl_append]

/-- One entry is added to the report of one gateway. -/
theorem single (place : SiteId) (entry : ReportEntry)
    (adds : after.report? site = if place = site then
      (before.report? site).map (·.add entry) else before.report? site) :
    Reports site before after := by
  by_cases here : place = site
  · exact ⟨[entry], by rw [adds, if_pos here]; rfl⟩
  · exact .of_eq (by rw [adds, if_neg here])

/-- Something is done beside the gateways and clusters. -/
theorem beside (reports : Reports site before between) (same : after.sites = between.sites) :
    Reports site before after :=
  reports.trans (of_sites same)

end Reports

/-- The report of a gateway after a site was changed. -/
theorem report?_onSite (world : World) (place : SiteId) {change : Site → Site}
    {grow : Report → Report} (grows : ∀ found : Site,
      (⟨(change found).broker.stops, (change found).gateway.lifecycle⟩ : Report) =
        grow ⟨found.broker.stops, found.gateway.lifecycle⟩) (site : SiteId) :
    (world.onSite place change).report? site =
      if place = site then (world.report? site).map grow else world.report? site := by
  rw [report?, getElem?_onSite]
  split
  · rw [report?, Option.map_map, Option.map_map]
    exact congrArg (Option.map · _) (funext grows)
  · rfl

/-- A component that is taken away is still on record as it was. -/
theorem report?_release (world : World) (place : SiteId) (component : Component) (site : SiteId) :
    (world.onGateway place (·.release component)).report? site = world.report? site := by
  have same : (world.onGateway place (·.release component)).report? site =
      if place = site then (world.report? site).map id else world.report? site :=
    report?_onSite world place (fun _ => rfl) site
  rw [same, Option.map_id, id_eq, ite_self]

/-- A state that is set is in the report. -/
theorem report?_setState (world : World) (place : SiteId) (actor : Option String)
    (component : Component) (state : ComponentState) (site : SiteId) :
    (world.setState place actor component state).report? site =
      if place = site then (world.report? site).map fun report =>
        { report with lifecycle := report.lifecycle.setState component.name state }
      else world.report? site := by
  obtain ⟨absent, same⟩ | ⟨entries, same⟩ := setState_cases world place actor component state
  · rw [same]
    split
    · rename_i here
      simp [report?, ← here, absent]
    · rfl
  · rw [same]
    exact report?_onSite world place (fun _ => rfl) site

/-- A line of the record of stops is in the report. -/
theorem report?_recordStop (world : World) (place : SiteId) (component : Component)
    (ended : Bool) (site : SiteId) :
    (world.recordStop place component ended).report? site =
      if place = site then (world.report? site).map fun report =>
        { report with lines := report.lines ++ [⟨world.now, component, ended⟩] }
      else world.report? site :=
  report?_onSite world place (fun _ => rfl) site

/-- An event that a shutdown announces is in the report. -/
theorem report?_notify (world : World) (place : SiteId) (event : LifecycleEvent) (site : SiteId) :
    (world.onGateway place (·.notify event)).report? site =
      if place = site then (world.report? site).map fun report =>
        { report with lifecycle := report.lifecycle.notify event }
      else world.report? site :=
  report?_onSite world place (fun _ => rfl) site

/-- A component other than the client is taken away, and its stop begins. -/
theorem reports_beginStop (world : World) (place : SiteId) (actor : Option String)
    {component : Component} (other : component ≠ .client) :
    Reports site world (((world.onGateway place (·.release component)).setState place actor
      component .stopping).recordStop place component false) := by
  obtain ⟨clock, -⟩ := setState_fields (world.onGateway place (·.release component)) place actor
    component .stopping
  refine .single place (.begins world.now component) ?_
  rw [report?_recordStop, report?_setState, report?_release, clock]
  split
  · rw [Option.map_map]
    congr 1
    funext report
    simp [Report.add, other]
    rfl
  · rfl

/-- The client is taken away, and begins to close. -/
theorem reports_beginClose (world : World) (place : SiteId) : Reports site world
    ((world.onGateway place (·.release .client)).recordStop place .client false) := by
  refine .single place (.begins world.now .client) ?_
  rw [report?_recordStop, report?_release]
  rfl

/-- A component has stopped. -/
theorem reports_endStop (world : World) (place : SiteId) (actor : Option String)
    (component : Component) :
    Reports site world ((world.recordStop place component true).setState place actor component
      .stopped) := by
  refine .single place (.ends world.now component) ?_
  rw [report?_setState, report?_recordStop]
  split
  · rw [Option.map_map]
    rfl
  · rfl

/-- A task that ends and wakes another one leaves the reports alone. -/
theorem sites_finish_wake (world : World) (outcome : Outcome) (other : TaskId) :
    ((world.finish me outcome).wake other).sites = world.sites := by
  obtain ⟨ready, woken⟩ := exists_wake (world.finish me outcome) other
  rw [woken]
  rfl

/-- A stop task ends with the stop of its component. -/
theorem reports_endComponentStop (world : World) (actor : Option String) (place : SiteId)
    (component : Component) (parent : TaskId) :
    Reports site world (world.endComponentStop me actor place component parent) := by
  refine (reports_endStop world place actor component).beside ?_
  unfold endComponentStop
  dsimp only
  rw [sites_finish_wake]
  split
  · split <;> rfl
  · rfl

/-- A stop task takes its component away and stops it. -/
theorem reports_beginComponentStop (world : World) (actor : Option String) (place : SiteId)
    (found : Site) {component : Component} (other : component ≠ .client) (parent : TaskId) :
    Reports site world (world.beginComponentStop me actor place found component parent) := by
  unfold beginComponentStop
  dsimp only
  split
  · refine (reports_beginStop world place actor other).trans ?_
    split
    · exact .of_sites (sites_finish_wake _ _ _)
    · split
      · exact reports_endComponentStop _ actor place component parent
      · exact .of_sites rfl
  · exact .of_sites (sites_finish_wake _ _ _)

/-- A shutdown announces that it is over. -/
theorem reports_completeShutdown (world : World) (owner : String) :
    Reports site world (world.completeShutdown actor owner part).1 :=
  .single part.site (.completes (world.now - part.begun)) (report?_notify world part.site _ site)

/-- The client has been closed. -/
theorem reports_endClientClose (world : World) (owner : String) :
    Reports site world (world.endClientClose actor owner part).1 :=
  (reports_endStop world part.site actor .client).trans (reports_completeShutdown _ owner)

/-- The client is taken away and closed. -/
theorem reports_beginClientClose (world : World) (found : Site) :
    Reports site world (world.beginClientClose me actor found part).1 := by
  unfold beginClientClose
  dsimp only
  split
  · refine (reports_beginClose world part.site).trans ?_
    split
    · exact .of_sites rfl
    · split
      · exact reports_endClientClose _ _
      · exact .of_sites rfl
  · exact reports_completeShutdown world _

/-- The offset manager has stopped. -/
theorem reports_endOffsetsStop (world : World) (found : Site) :
    Reports site world (world.endOffsetsStop me actor found part).1 :=
  (reports_endStop world part.site actor .offsets).trans (reports_beginClientClose _ found)

/-- The offset manager is taken away and stopped. -/
theorem reports_beginOffsetsStop (world : World) (found : Site) :
    Reports site world (world.beginOffsetsStop me actor found part).1 := by
  have other : Component.offsets ≠ .client := by decide
  unfold beginOffsetsStop
  dsimp only
  split
  · refine (reports_beginStop world part.site actor other).trans ?_
    split
    · exact .of_sites rfl
    · split
      · exact reports_endOffsetsStop _ found
      · exact .of_sites rfl
  · exact reports_beginClientClose world found

/-- A shutdown announces itself. -/
theorem reports_openShutdown (world : World) (found : Site) :
    Reports site world (world.openShutdown me actor found part).1 := by
  have announced : Reports site world (world.onGateway part.site (·.notify .shutdownInitiated)) :=
    .single part.site .initiates (report?_notify world part.site _ site)
  refine announced.beside ?_
  unfold openShutdown
  dsimp only
  rw [sites_spawnStops]
  rfl

/-- The shutdown of one gateway advances. -/
theorem reports_advanceShutdown (world : World) (part : Shutdown) :
    Reports site world (world.advanceShutdown me actor part).1 := by
  have rests : Reports site world world := .of_eq rfl
  unfold advanceShutdown
  split
  · exact rests
  · rename_i found there
    split
    · exact reports_openShutdown world found
    · split
      · have noted (entries : List LogEntry) : Reports site world (world.note actor entries) :=
          .of_sites rfl
        exact (noted _).trans (reports_beginOffsetsStop _ found)
      · exact rests
    · split
      · exact reports_endOffsetsStop world found
      · exact rests
    · split
      · exact reports_endClientClose world _
      · exact rests
    · exact rests
    · exact rests

/-- The shutdowns of several gateways advance. -/
theorem reports_advanceShutdowns (world : World) (parts : List Shutdown) :
    Reports site world (world.advanceShutdowns me actor parts).1 := by
  induction parts generalizing world with
  | nil => exact .of_eq rfl
  | cons part rest ih => exact (reports_advanceShutdown world part).trans (ih _)

/-- A shutdown goes on. -/
theorem reports_continueShutdown (world : World) (actor : Option String) (logged : Bool)
    (parts : List Shutdown) :
    Reports site world (world.continueShutdown me actor logged parts) := by
  have advanced : Reports site world (world.advanceShutdowns me actor parts).1 :=
    reports_advanceShutdowns world parts
  unfold continueShutdown
  dsimp only
  refine advanced.trans ?_
  split
  · exact .of_sites rfl
  · split
    · split <;> exact .of_sites rfl
    · exact .of_sites rfl

/-- A task that does not shut a gateway down leaves its report alone. -/
theorem reports_of_foreign {purpose : Purpose} {sends hands : Prop}
    (strokes : Strokes me purpose sends hands before after) (foreign : site ∉ purpose.tearsDown) :
    Reports site before after :=
  .of_frame (strokes.lifecycle_eq foreign) (ledger_strokes strokes foreign).2.1

/-- A task that takes components of a gateway away shuts it down, or stops one component. -/
theorem tears_cases {purpose : Purpose} (tears : site ∈ purpose.tearsDown) :
    site ∈ purpose.shutsDown ∨
      ∃ component owner, purpose = .stopComponent site component owner := by
  cases purpose with
  | stopComponent place component owner =>
    obtain rfl : site = place := List.mem_singleton.mp tears
    exact .inr ⟨component, owner, rfl⟩
  | _ => exact .inl tears

/-- A stop task that goes on adds to the report of its gateway. -/
theorem reports_proceed_stop {running : Task} {component : Component} {owner : TaskId}
    (fits : running.stage.Fits running.purpose) (inside : site < world.sites.length)
    (stops : running.purpose = .stopComponent site component owner)
    (serving : component ∈ Component.serving) :
    Reports site world (world.proceed me running) := by
  have there : world.sites[site]? = some world.sites[site] := List.getElem?_eq_getElem inside
  have other : component ≠ .client := by
    rintro rfl
    exact absurd serving (by decide)
  obtain ⟨actor, purpose, stage⟩ := running
  obtain rfl : purpose = .stopComponent site component owner := stops
  cases stage with
  | fresh =>
    simp only [proceed, start, there]
    exact reports_beginComponentStop world actor site _ other owner
  | sleeping due =>
    simp only [proceed, awaken]
    split
    · exact reports_endComponentStop world actor site component owner
    · exact .of_eq rfl
  | ended outcome => exact .of_eq rfl
  | _ => exact fits.elim

/-- A task that is resumed adds to the report of a gateway. -/
theorem reports_resume (tended : world.Tended site) (me : TaskId) :
    Reports site world (world.resume me) := by
  obtain ⟨sound, inside, consistent, -, -⟩ := tended
  have left : Reports site world { world with ready := world.ready.erase me } := .of_sites rfl
  cases mine : world.tasks[me]? with
  | none =>
    rw [resume_absent mine]
    exact left
  | some running =>
    obtain ⟨fits, -⟩ := sound me running mine
    refine left.trans ?_
    by_cases tears : site ∈ running.purpose.tearsDown
    · obtain shuts | ⟨component, owner, stops⟩ := tears_cases tears
      · obtain ⟨teardown, whole⟩ := isTeardown_of_shutsDown (List.ne_nil_of_mem shuts)
        obtain ⟨outcome, -, same⟩ | ⟨-, -, same⟩ | ⟨logged, parts, same, -⟩ :=
          resume_shutdown_forms mine fits teardown whole rfl
        · rw [same]
          exact .of_eq rfl
        · rw [same]
          exact .of_sites rfl
        · rw [same]
          exact reports_continueShutdown _ running.actor logged parts
      · -- no stop task stops the client, whose close is not in its lifecycle
        have serving : component ∈ Component.serving :=
          consistent.serves me ⟨component, owner, running.stage.stopProgress⟩
            (by simp [ledger, mine, Task.stopOf?, stops])
        rw [resume_eq mine]
        exact reports_proceed_stop fits inside stops serving
    · exact reports_of_foreign (strokes_resume mine fits) tears

/-- Whatever happens adds to the report of a gateway. -/
theorem reports_happens (tended : before.Tended site) (happens : Happens before after) :
    Reports site before after := by
  cases happens with
  | attempt parent name config =>
    have alone := leavesAlone_openGateway before parent name config
    exact .of_eq (by rw [report?, report?, alone.others site tended.inside])
  | note actor entries => exact .of_sites rfl
  | @move move free named =>
    by_cases runs : ∃ task, move = .resume task
    · obtain ⟨task, rfl⟩ := runs
      exact reports_resume tended task
    · have still (task : TaskId) : move ≠ .resume task := fun here => runs ⟨task, here⟩
      refine .of_frame (by rw [gateway?_apply before still]) ?_
      obtain ⟨me, here, -⟩ | ⟨task, -, -, same⟩ | ⟨task, progress, -, same⟩ | same :=
        ledger_apply_cases tended.sound free tended.inside (fun faulty => faulty)
      · exact absurd here (still me)
      · rw [same]
        rfl
      · rw [same]
        rfl
      · rw [same]

/-- All that happens after the opening of a gateway adds to its report. -/
theorem reports_leads (tended : start.Tended site) (leads : start.Leads last) :
    Reports site start last := by
  induction leads with
  | refl => exact .of_eq rfl
  | tail earlier happens ih => exact ih.trans (reports_happens (tended.leads earlier) happens)

end World

end ClusterGateway
