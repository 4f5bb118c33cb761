import ClusterGateway.Proofs.Shutdown.Histories

/-!
# Who is stopping a component

While the stop of a component has begun and is not over, one task is at it: the stop task of
a serving component, or a shutdown that has got to the offset manager or the client; unless
that shutdown was dropped, or the stop has broken down. Nobody else begins that stop or ends
it, so the record of stops is regular: each stop begins once at most, and returns once at
most after that. Main statements: `Ledger.Stride.shift`, `Ledger.Attended.shift`,
`World.Watched.leads`.
-/

namespace ClusterGateway

/-- Each stop begins at most once, and returns at most once, after it has begun. -/
def Regular (lines : List StopLine) : Prop :=
  ∀ early line late, lines = early ++ line :: late →
    (line.ended = false → ¬ Begun early line.component) ∧
      (line.ended = true → Begun early line.component ∧ ¬ Over early line.component)

/-- An empty record is regular. -/
theorem regular_nil : Regular [] := by
  intro early line late split
  simp at split

namespace Regular

variable {lines early late : List StopLine} {line : StopLine} {time : Nat}
  {component other : Component}

/-- A record stays regular with a line that is in its place. -/
theorem append_singleton (regular : Regular lines)
    (begins : line.ended = false → ¬ Begun lines line.component)
    (ends : line.ended = true → Begun lines line.component ∧ ¬ Over lines line.component) :
    Regular (lines ++ [line]) :=
  forall_place_append_singleton (P := fun early line =>
    (line.ended = false → ¬ Begun early line.component) ∧
      (line.ended = true → Begun early line.component ∧ ¬ Over early line.component))
    regular ⟨begins, ends⟩

/-- The last line of a regular record is in its place, and the record before it is regular. -/
theorem of_append_singleton (regular : Regular (lines ++ [line])) :
    Regular lines ∧ (line.ended = false → ¬ Begun lines line.component) ∧
      (line.ended = true → Begun lines line.component ∧ ¬ Over lines line.component) := by
  refine ⟨fun early other late split => ?_, regular lines line [] rfl⟩
  exact regular early other (late ++ [line]) (by simp [split])

/-- A stop that has returned has begun. -/
theorem begun_of_over (regular : Regular lines) (settled : Over lines component) :
    Begun lines component := by
  obtain ⟨line, there, rfl, ended⟩ := settled
  obtain ⟨early, late, rfl⟩ := List.append_of_mem there
  obtain ⟨⟨first, before, same, began⟩, -⟩ := (regular early line late rfl).2 ended
  exact ⟨first, List.mem_append_left _ before, same, began⟩

end Regular

/-- The component that a stop task is stopping. -/
def StopEntry.attends? (entry : StopEntry) : Option Component :=
  match entry.progress with
  | .running => some entry.component
  | _ => none

/-- The component that a shutdown is stopping itself. -/
def Progress.attends? : Progress → Option Component
  | .stopping component => some component
  | _ => none

/-- A shutdown that is done with a component is stopping nothing. -/
theorem Progress.attends?_after (component : Component) : (after component).attends? = none := by
  cases component <;> rfl

namespace Ledger

variable {breaks : Prop} {me task : TaskId} {before after ledger : Ledger}
  {component : Component} {entry : StopEntry} {progress : Progress}

/-- The component that a task is stopping. -/
def attends? (ledger : Ledger) (task : TaskId) : Option Component :=
  ((ledger.stops task).bind StopEntry.attends?).or
    ((ledger.shutdowns task).bind Progress.attends?)

/-- A stop may never return: some shutdown was dropped, or stops may break down. -/
def Forsaken (breaks : Prop) (ledger : Ledger) : Prop :=
  breaks ∨ ∃ task, ledger.shutdowns task = some .dropped

/-- Of a stop task it counts what it is stopping. -/
theorem Consistent.attends?_of_stop (consistent : ledger.Consistent)
    (there : ledger.stops task = some entry) : ledger.attends? task = entry.attends? := by
  simp [attends?, there, consistent.apart task entry there]

/-- Of a shutdown it counts what it is stopping itself. -/
theorem Consistent.attends?_of_shutdown (consistent : ledger.Consistent)
    (there : ledger.shutdowns task = some progress) : ledger.attends? task = progress.attends? := by
  rw [attends?, there, consistent.stops_eq_none there]
  rfl

/-- Whom the tasks attend to after a shutdown was put in its place. -/
theorem attends?_put (ledger : Ledger) (alone : ledger.stops me = none) (progress : Progress)
    (task : TaskId) :
    (ledger.put me progress).attends? task =
      if task = me then progress.attends? else ledger.attends? task := by
  unfold attends?
  by_cases mine : task = me
  · subst mine
    rw [shutdowns_put_self, show (ledger.put task progress).stops task = none from alone]
    simp
  · rw [shutdowns_put_of_ne mine, if_neg mine]
    rfl

/-- Whom the tasks attend to after a stop task was put in its place. -/
theorem attends?_putStop (ledger : Ledger) (alone : ledger.shutdowns me = none)
    (entry : StopEntry) (task : TaskId) : (ledger.putStop me entry).attends? task =
      if task = me then entry.attends? else ledger.attends? task := by
  unfold attends?
  by_cases mine : task = me
  · subst mine
    rw [stops_putStop_self, show (ledger.putStop task entry).shutdowns task = none from alone]
    simp
  · rw [stops_putStop_of_ne mine, if_neg mine]
    rfl

/-- What a task does to the record and to whom it attends, with one line of the record at most. -/
inductive Shift (breaks : Prop) (me : TaskId) (before after : Ledger) : Prop
  | rests (lines : after.lines = before.lines) (same : after.attends? = before.attends?)
  | begins {component : Component} {time : Nat} (new : ¬ Begun before.lines component)
    (idle : before.attends? me = none)
    (lines : after.lines = before.lines ++ [⟨time, component, false⟩])
    (attends : ∀ task, after.attends? task =
      if task = me then some component else before.attends? task)
  | ends {component : Component} {time : Nat} (mine : before.attends? me = some component)
    (lines : after.lines = before.lines ++ [⟨time, component, true⟩])
    (attends : ∀ task, after.attends? task = if task = me then none else before.attends? task)
  | leaves (forsaken : after.Forsaken breaks) (lines : after.lines = before.lines)
    (attends : ∀ task, after.attends? task = if task = me then none else before.attends? task)

/-- A task that attends to nobody, and then to nobody, changes nothing. -/
theorem shift_of_idle (lines : after.lines = before.lines) (idle : before.attends? me = none)
    (attends : ∀ task, after.attends? task = if task = me then none else before.attends? task) :
    Shift breaks me before after := by
  refine .rests lines (funext fun task => ?_)
  rw [attends]
  split
  · rename_i mine
    rw [mine, idle]
  · rfl

/-- Every step shifts the attendance. -/
theorem Step.shift (step : Step me before after) (consistent : before.Consistent) :
    Shift breaks me before after := by
  cases step with
  | @«open» tasks stops fresh old new all =>
    have alone : stops me = none := by
      cases there : stops me with
      | none => rfl
      | some entry =>
        have absent := (new me entry (consistent.stops_eq_none fresh) there).1
        exact absurd (absent.symm.trans fresh) (by simp)
    have idle := consistent.attends?_of_shutdown fresh
    refine .rests rfl (funext fun task => ?_)
    rw [attends?_put _ alone]
    split
    · rename_i mine
      rw [mine, idle]
      rfl
    · -- a stop task that has just been started attends to nobody yet
      cases earlier : before.stops task with
      | some entry => simp only [attends?, old task entry earlier, earlier]
      | none =>
        cases later : stops task with
        | none => simp only [attends?, earlier, later]
        | some entry =>
          obtain ⟨absent, -, -, -, still⟩ := new task entry earlier later
          simp [attends?, earlier, later, absent, StopEntry.attends?, still]
  | @idle component owner fresh gone =>
    refine shift_of_idle rfl (consistent.attends?_of_stop fresh) fun task => ?_
    exact attends?_putStop before (consistent.apart me _ fresh) ⟨component, owner, .settled⟩ task
  | @begin component owner time fresh holds =>
    have new : ¬ Begun before.lines component := by
      rw [← consistent.taken, holds]
      simp
    refine .begins new (consistent.attends?_of_stop fresh) rfl fun task => ?_
    exact attends?_putStop (before.take time component) (consistent.apart me _ fresh)
      ⟨component, owner, .running⟩ task
  | @«end» component owner time running =>
    refine .ends (consistent.attends?_of_stop running) rfl fun task => ?_
    exact attends?_putStop (before.give time component) (consistent.apart me _ running)
      ⟨component, owner, .settled⟩ task
  | join joining settled =>
    refine shift_of_idle rfl (consistent.attends?_of_shutdown joining) fun task => ?_
    exact attends?_put before (consistent.stops_eq_none joining) (.turn .offsets) task
  | @skip component turn gone =>
    refine shift_of_idle rfl (consistent.attends?_of_shutdown turn) fun task => ?_
    rw [attends?_put before (consistent.stops_eq_none turn), Progress.attends?_after]
  | @close component time turn holds =>
    have new : ¬ Begun before.lines component := by
      rw [← consistent.taken, holds]
      simp
    refine .begins new (consistent.attends?_of_shutdown turn) rfl fun task => ?_
    exact attends?_put (before.take time component) (consistent.stops_eq_none turn)
      (.stopping component) task
  | @closed component time stopping =>
    refine .ends (consistent.attends?_of_shutdown stopping) rfl fun task => ?_
    rw [attends?_put (before.give time component) (consistent.stops_eq_none stopping),
      Progress.attends?_after]
    rfl

/-- Every stride shifts the attendance. -/
theorem Stride.shift (stride : Stride breaks me before after) (consistent : before.Consistent) :
    Shift breaks me before after := by
  cases stride with
  | step step => exact step.shift consistent
  | fall broken there =>
    exact .leaves (.inl broken) rfl (attends?_put before (consistent.stops_eq_none there) .dropped)
  | fail broken running =>
    exact .leaves (.inl broken) rfl (attends?_putStop before (consistent.apart me _ running) _)

/-- A shutdown that was dropped stays so in a step. -/
theorem Step.dropped (step : Step me before after)
    (dropped : before.shutdowns task = some .dropped) : after.shutdowns task = some .dropped := by
  have foreign {progress : Progress} (stands : before.shutdowns me = some progress)
      (differ : progress ≠ .dropped) : task ≠ me := by
    rintro rfl
    exact differ (Option.some.inj (stands.symm.trans dropped))
  cases step with
  | «open» fresh => exact (shutdowns_put_of_ne (foreign fresh (by simp))).trans dropped
  | join joining => exact (shutdowns_put_of_ne (foreign joining (by simp))).trans dropped
  | skip turn => exact (shutdowns_put_of_ne (foreign turn (by simp))).trans dropped
  | close time turn => exact (shutdowns_put_of_ne (foreign turn (by simp))).trans dropped
  | closed time stopping => exact (shutdowns_put_of_ne (foreign stopping (by simp))).trans dropped
  | _ => exact dropped

/-- What was forsaken stays so in a stride. -/
theorem Stride.forsaken (stride : Stride breaks me before after)
    (forsaken : before.Forsaken breaks) : after.Forsaken breaks := by
  obtain broken | ⟨task, dropped⟩ := forsaken
  · exact .inl broken
  · cases stride with
    | step step => exact .inr ⟨task, step.dropped dropped⟩
    | fall broken => exact .inl broken
    | fail broken => exact .inl broken

/-- The record is regular, and who is at a stop that has begun and is not over is known. -/
structure Attended (breaks : Prop) (ledger : Ledger) : Prop where
  regular : Regular ledger.lines
  underway : ∀ task component, ledger.attends? task = some component →
    ledger.InProgress component
  alone : ∀ first second component, ledger.attends? first = some component →
    ledger.attends? second = some component → first = second
  cared : ∀ component, ledger.InProgress component →
    (∃ task, ledger.attends? task = some component) ∨ ledger.Forsaken breaks

/-- Where nothing has begun and no task stops anything, all are attended. -/
theorem attended_of_whole (unstopped : ledger.lines = []) (stops : ∀ task, ledger.stops task = none)
    (shutdowns : ∀ task, ledger.shutdowns task = none) : ledger.Attended breaks where
  regular := unstopped ▸ regular_nil
  underway task component attends := by simp [attends?, stops, shutdowns] at attends
  alone first second component attends := by simp [attends?, stops, shutdowns] at attends
  cared component running := by simp [InProgress, unstopped, Begun] at running

/-- Where the record is the same, the same stops are in progress. -/
theorem inProgress_congr (lines : after.lines = before.lines) :
    after.InProgress component ↔ before.InProgress component := by
  rw [InProgress, InProgress, lines]

/-- With the line that begins its stop, a component is one of those whose stops are in progress. -/
theorem inProgress_begins {time : Nat} (other : Component) (regular : Regular before.lines)
    (new : ¬ Begun before.lines component)
    (lines : after.lines = before.lines ++ [⟨time, component, false⟩]) :
    after.InProgress other ↔ other = component ∨ before.InProgress other := by
  have unsettled : ¬ Over before.lines component := fun settled =>
    new (regular.begun_of_over settled)
  unfold InProgress
  rw [lines, begun_append_singleton, over_append_singleton]
  by_cases same : other = component
  · subst same
    simp [unsettled]
  · simp [same, Ne.symm same]

/-- With the line that ends its stop, a component is not one of those any more. -/
theorem inProgress_ends {time : Nat} (other : Component)
    (lines : after.lines = before.lines ++ [⟨time, component, true⟩]) :
    after.InProgress other ↔ other ≠ component ∧ before.InProgress other := by
  unfold InProgress
  rw [lines, begun_append_singleton, over_append_singleton]
  by_cases same : other = component
  · simp [same]
  · simp [same, Ne.symm same]

/-- When a task lets go, all others attend to whom they did before, and it to nobody. -/
theorem attends_released
    (attends : ∀ task, after.attends? task = if task = me then none else before.attends? task) :
    after.attends? task = some component ↔
      task ≠ me ∧ before.attends? task = some component := by
  rw [attends]
  by_cases mine : task = me <;> simp [mine]

/-- Every shift keeps the attendance. -/
theorem Attended.shift (attended : before.Attended breaks) (shift : Shift breaks me before after)
    (keeps : before.Forsaken breaks → after.Forsaken breaks) : after.Attended breaks := by
  obtain ⟨regular, underway, alone, cared⟩ := attended
  cases shift with
  | rests lines same =>
    refine ⟨lines ▸ regular, fun task component attends => ?_, same ▸ alone,
      fun component running => ?_⟩
    · rw [same] at attends
      exact (inProgress_congr lines).mpr (underway task component attends)
    · rw [same]
      exact (cared component ((inProgress_congr lines).mp running)).imp_right keeps
  | @begins component time new idle lines attends =>
    have running (other : Component) := inProgress_begins other regular new lines
    -- whoever attended before attends to another component
    have elsewhere (task : TaskId) : before.attends? task ≠ some component :=
      fun mine => new (underway task component mine).1
    refine ⟨lines ▸ regular.append_singleton (fun _ => new) (by simp), ?_, ?_, ?_⟩
    · intro task other here
      rw [attends] at here
      rw [running]
      split at here
      · exact .inl (Option.some.inj here).symm
      · exact .inr (underway task other here)
    · intro first second other one two
      rw [attends] at one two
      split at one <;> split at two
      · rename_i mine yours
        exact mine.trans yours.symm
      · obtain rfl := Option.some.inj one
        exact absurd two (elsewhere second)
      · obtain rfl := Option.some.inj two
        exact absurd one (elsewhere first)
      · exact alone first second other one two
    · intro other here
      obtain rfl | old := (running other).mp here
      · exact .inl ⟨me, by rw [attends, if_pos rfl]⟩
      · refine (cared other old).imp ?_ keeps
        rintro ⟨task, there⟩
        have foreign : task ≠ me := by
          rintro rfl
          exact absurd (idle.symm.trans there) (by simp)
        exact ⟨task, by rw [attends, if_neg foreign, there]⟩
  | @ends component time mine lines attends =>
    have running (other : Component) := inProgress_ends other lines
    have own := underway me component mine
    have released {task : TaskId} {other : Component} :
        after.attends? task = some other ↔ task ≠ me ∧ before.attends? task = some other :=
      attends_released attends
    refine ⟨lines ▸ regular.append_singleton (by simp) (fun _ => own), ?_, ?_, ?_⟩
    · intro task other here
      obtain ⟨foreign, old⟩ := released.mp here
      refine (running other).mpr ⟨?_, underway task other old⟩
      rintro rfl
      exact foreign (alone task me other old mine)
    · intro first second other one two
      exact alone first second other (released.mp one).2 (released.mp two).2
    · intro other here
      obtain ⟨differ, old⟩ := (running other).mp here
      refine (cared other old).imp ?_ keeps
      rintro ⟨task, there⟩
      have foreign : task ≠ me := by
        rintro rfl
        exact differ (Option.some.inj (there.symm.trans mine))
      exact ⟨task, released.mpr ⟨foreign, there⟩⟩
  | leaves forsaken lines attends =>
    refine ⟨lines ▸ regular, ?_, ?_, fun component running => .inr forsaken⟩
    · intro task component here
      have old := ((attends_released attends).mp here).2
      exact (inProgress_congr lines).mpr (underway task component old)
    · intro first second component one two
      exact alone first second component ((attends_released attends).mp one).2
        ((attends_released attends).mp two).2

/-- All strides keep the attendance. -/
theorem Attended.strides (attended : before.Attended breaks) (consistent : before.Consistent)
    (strides : Relation.ReflTransGen (Stride breaks me) before after) : after.Attended breaks := by
  have both : after.Consistent ∧ after.Attended breaks := by
    induction strides with
    | refl => exact ⟨consistent, attended⟩
    | tail _ stride ih =>
      exact ⟨ih.1.stride stride, ih.2.shift (stride.shift ih.1) stride.forsaken⟩
  exact both.2

/-- A call of a shutdown keeps the attendance. -/
theorem Attended.call (attended : ledger.Attended breaks) (new : ledger.shutdowns task = none)
    (other : ledger.stops task = none) : (ledger.put task .opening).Attended breaks := by
  have idle : ledger.attends? task = none := by simp [attends?, new, other]
  refine attended.shift (shift_of_idle rfl idle (attends?_put ledger other .opening)) ?_
  rintro (broken | ⟨dropped, there⟩)
  · exact .inl broken
  · have foreign : dropped ≠ task := by
      rintro rfl
      exact absurd (new.symm.trans there) (by simp)
    exact .inr ⟨dropped, (shutdowns_put_of_ne foreign).trans there⟩

/-- A shutdown that is dropped keeps the attendance. -/
theorem Attended.drop (attended : ledger.Attended breaks) (consistent : ledger.Consistent)
    (there : ledger.shutdowns task = some progress) :
    (ledger.put task .dropped).Attended breaks := by
  have dropped : (ledger.put task .dropped).Forsaken breaks :=
    .inr ⟨task, shutdowns_put_self ledger .dropped⟩
  exact attended.shift (.leaves dropped rfl
    (attends?_put ledger (consistent.stops_eq_none there) .dropped)) fun _ => dropped

end Ledger

namespace World

variable {breaks : Prop} {world before after start last : World} {site : SiteId}

/-- Open moves keep the attendance. -/
theorem Tended.attended_apply (tended : world.Tended site)
    (attended : (world.ledger site).Attended breaks)
    (may : world.script.stopFaults ≠ [] → breaks) {move : Move} (free : world.isOpen move = true) :
    ((world.apply move).ledger site).Attended breaks := by
  obtain ⟨me, -, strides⟩ | ⟨task, new, other, same⟩ | ⟨task, progress, there, same⟩ | same :=
    ledger_apply_cases tended.sound free tended.inside may
  · exact attended.strides tended.consistent strides
  · rw [same]
    exact attended.call new other
  · rw [same]
    exact attended.drop tended.consistent there
  · rw [same]
    exact attended

/-- What is known of the stops of a gateway at all times. -/
structure Watched (breaks : Prop) (site : SiteId) (world : World) : Prop where
  tended : world.Tended site
  attended : (world.ledger site).Attended breaks
  may : world.script.stopFaults ≠ [] → breaks

/-- A gateway is watched from the moment at which it is open. -/
theorem watched_openGateway (sited : world.Sited) {parent : TaskPath} {name : String}
    {config : GatewayConfig} (opens : world.openGateway parent name config = (after, .ok site))
    (may : world.script.stopFaults ≠ [] → breaks) : after.Watched breaks site := by
  have script := script_openGateway world parent name config
  rw [opens] at script
  refine ⟨tended_openGateway sited opens, ?_, script.symm ▸ may⟩
  obtain ⟨found, there, untouched⟩ := untouched_openGateway opens
  have outside (task : TaskId) (running : Task) (mine : after.tasks[task]? = some running) :=
    Task.outside (not_mem_tearsDown_openGateway sited opens mine)
  refine Ledger.attended_of_whole (by simp [ledger, there, untouched.broker]) ?_ ?_
  · intro task
    simp only [ledger, Option.bind_eq_none_iff]
    exact fun running mine => (outside task running mine).1
  · intro task
    simp only [ledger, Option.bind_eq_none_iff]
    exact fun running mine => (outside task running mine).2

/-- A gateway stays watched, whatever happens. -/
theorem Watched.happens (watched : before.Watched breaks site) (happens : Happens before after) :
    after.Watched breaks site := by
  obtain ⟨tended, attended, may⟩ := watched
  refine ⟨tended.happens happens, ?_, by rw [happens.script_eq tended.sound]; exact may⟩
  cases happens with
  | attempt parent name config =>
    have alone := leavesAlone_openGateway before parent name config
    have here := alone.others site tended.inside
    rw [ledger_congr (fun component => by rw [here]) (by rw [here]) alone.tasks]
    exact attended
  | note actor entries => exact attended
  | move free named => exact tended.attended_apply attended may free

/-- A gateway is watched for the rest of its history. -/
theorem Watched.leads (watched : start.Watched breaks site) (leads : start.Leads last) :
    last.Watched breaks site := by
  induction leads with
  | refl => exact watched
  | tail _ happens ih => exact ih.happens happens

end World

end ClusterGateway
