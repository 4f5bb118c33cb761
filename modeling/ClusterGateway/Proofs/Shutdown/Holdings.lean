import ClusterGateway.Proofs.Shutdown.Runs
import ClusterGateway.Proofs.World.Waking

/-!
# What a gateway still holds

A component that was taken away is never held again, and its stop begins in the step in
which it is taken away. So the stop of a component has begun once if the component is
gone, and not at all if it is held, whoever shuts the gateway down, in whatever order, and
whether or not a stop breaks down. Main statements: `Tended.apply`, `Tended.lacks_reaches`.
-/

namespace ClusterGateway

/-- How often the stop of a component has begun. -/
def begins (lines : List StopLine) (component : Component) : Nat :=
  lines.countP fun line => line.component = component ∧ line.ended = false

/-- One more line counts if it begins the stop of the component. -/
theorem begins_append_singleton (lines : List StopLine) (line : StopLine)
    (component : Component) : begins (lines ++ [line]) component = begins lines component +
      if line.component = component ∧ line.ended = false then 1 else 0 := by
  simp [begins, List.countP_append, List.countP_singleton]

namespace Ledger

variable {breaks : Prop} {me : TaskId} {before after ledger : Ledger} {component : Component}

/-- Every component is held, and its stop has not begun, or it is gone, and its stop has begun
once. -/
def Balanced (ledger : Ledger) : Prop :=
  ∀ component, begins ledger.lines component = if ledger.holds component then 0 else 1

/-- The account is the same where the components and the record are. -/
theorem Balanced.congr (balanced : before.Balanced) (holds : after.holds = before.holds)
    (lines : after.lines = before.lines) : after.Balanced := by
  intro component
  rw [holds, lines]
  exact balanced component

/-- Taking a component away that is held keeps the account. -/
theorem Balanced.take (balanced : ledger.Balanced) (time : Nat)
    (held : ledger.holds component = true) : (ledger.take time component).Balanced := by
  intro other
  have account := balanced other
  have counted := begins_append_singleton ledger.lines ⟨time, component, false⟩ other
  show begins (ledger.lines ++ [⟨time, component, false⟩]) other =
    if (other != component && ledger.holds other) = true then 0 else 1
  rw [counted]
  by_cases same : other = component
  · subst same
    simp [account, held]
  · simp [account, same, Ne.symm same]

/-- The stop of a component that returns does not begin again. -/
theorem Balanced.give (balanced : ledger.Balanced) (time : Nat) (component : Component) :
    (ledger.give time component).Balanced := by
  intro other
  show begins (ledger.lines ++ [⟨time, component, true⟩]) other =
    if ledger.holds other = true then 0 else 1
  rw [begins_append_singleton]
  simpa using balanced other

/-- A step keeps the account. -/
theorem Balanced.step (balanced : before.Balanced) (step : Step me before after) :
    after.Balanced := by
  cases step with
  | «open» => exact balanced.congr rfl rfl
  | idle => exact balanced.congr rfl rfl
  | begin time _ held => exact (balanced.take time held).congr rfl rfl
  | @«end» component _ time => exact (balanced.give time component).congr rfl rfl
  | join => exact balanced.congr rfl rfl
  | skip => exact balanced.congr rfl rfl
  | close time _ held => exact (balanced.take time held).congr rfl rfl
  | @closed component time => exact (balanced.give time component).congr rfl rfl

/-- A stride keeps the account. -/
theorem Balanced.stride (balanced : before.Balanced) (stride : Stride breaks me before after) :
    after.Balanced := by
  cases stride with
  | step step => exact balanced.step step
  | fall => exact balanced.congr rfl rfl
  | fail => exact balanced.congr rfl rfl

/-- A component that is gone stays so in a step. -/
theorem Step.gone (step : Step me before after) (gone : before.holds component = false) :
    after.holds component = false := by
  cases step with
  | begin => simp [putStop, take, gone]
  | close => simp [put, take, gone]
  | _ => exact gone

/-- A component that is gone stays so in a stride. -/
theorem Stride.gone (stride : Stride breaks me before after)
    (gone : before.holds component = false) : after.holds component = false := by
  cases stride with
  | step step => exact step.gone gone
  | fall => exact gone
  | fail => exact gone

/-- Stops begin in order in a step: a shutdown stops the offset manager and the client when it has
seen to those that come before. -/
theorem begunInOrder_step (consistent : before.Consistent) (step : Step me before after)
    (order : BegunInOrder before.lines) : BegunInOrder after.lines := by
  cases step with
  | @begin component owner time fresh =>
    have first := Component.awaited_of_serving (consistent.serves me _ fresh)
    exact order.append_singleton fun _ => by simp [first]
  | «end» time => exact order.append_singleton (by simp)
  | @close component time turn =>
    exact order.append_singleton fun _ => consistent.reached me _ turn
  | closed time => exact order.append_singleton (by simp)
  | _ => exact order

/-- Stops begin in order in a stride. -/
theorem begunInOrder_stride (consistent : before.Consistent) (stride : Stride breaks me before after)
    (order : BegunInOrder before.lines) : BegunInOrder after.lines := by
  cases stride with
  | step step => exact begunInOrder_step consistent step order
  | fall => exact order
  | fail => exact order

/-- What strides keep of the teardown of a gateway. -/
theorem kept_of_strides (strides : Relation.ReflTransGen (Stride breaks me) before after)
    (consistent : before.Consistent) (balanced : before.Balanced)
    (order : BegunInOrder before.lines) :
    after.Consistent ∧ after.Balanced ∧ BegunInOrder after.lines ∧
      ∀ component, before.holds component = false → after.holds component = false := by
  induction strides with
  | refl => exact ⟨consistent, balanced, order, fun _ => id⟩
  | tail _ stride ih =>
    obtain ⟨early, account, begun, gone⟩ := ih
    exact ⟨early.stride stride, account.stride stride, begunInOrder_stride early stride begun,
      fun component lacks => stride.gone (gone component lacks)⟩

end Ledger

namespace World

variable {start world last : World} {site : SiteId} {component : Component} {task : TaskId}
  {found : Task}

/-- A gateway does not hold a component any more. -/
def Lacks (world : World) (site : SiteId) (component : Component) : Prop :=
  (world.ledger site).holds component = false

/-- A gateway lacks a component that it does not hold. -/
theorem lacks_iff {place : Site} (there : world.sites[site]? = some place) :
    world.Lacks site component ↔ place.gateway.holds component = false := by
  simp [Lacks, ledger, there]

/-- What is known of a gateway at all times, whatever breaks down. -/
structure Tended (site : SiteId) (world : World) : Prop where
  sound : world.Sound
  inside : site < world.sites.length
  consistent : (world.ledger site).Consistent
  balanced : (world.ledger site).Balanced
  order : BegunInOrder (world.ledger site).lines

/-- A gateway that is tended is there. -/
theorem Tended.exists_site (tended : world.Tended site) :
    ∃ place, world.sites[site]? = some place :=
  ⟨_, List.getElem?_eq_getElem tended.inside⟩

/-- A gateway that holds all of its components, and of which no stop is recorded, is tended as
long as no task shuts it down. -/
theorem tended_of_whole (sound : world.Sound) (inside : site < world.sites.length)
    (idle : ∀ (task : TaskId) (found : Task), world.tasks[task]? = some found →
      site ∉ found.purpose.tearsDown)
    (whole : ∀ component, (world.ledger site).holds component = true)
    (unstopped : (world.ledger site).lines = []) : world.Tended site := by
  have absent (task : TaskId) : (world.ledger site).stops task = none ∧
      (world.ledger site).shutdowns task = none := by
    simp only [ledger, Option.bind_eq_none_iff]
    exact ⟨fun found there => (Task.outside (idle task found there)).1,
      fun found there => (Task.outside (idle task found there)).2⟩
  have consistent := Ledger.consistent_of_whole whole unstopped (fun task => (absent task).1)
    fun task => (absent task).2
  exact ⟨sound, inside, consistent, fun component => by simp [unstopped, whole, begins],
    by rw [unstopped]; exact begunInOrder_nil⟩

/-- An untouched gateway in a world without tasks is tended. -/
theorem tended_of_untouched (idle : world.tasks = []) {place : Site}
    (there : world.sites[site]? = some place) (untouched : Site.Untouched place) :
    world.Tended site := by
  obtain ⟨holds, lines, -, -⟩ := ledger_of_untouched idle there untouched
  refine tended_of_whole (sound_of_idle idle) (List.getElem?_eq_some_iff.mp there).1
    (fun task found here => ?_) holds lines
  simp [idle] at here

/-- A gateway that was just opened is tended. -/
theorem Opened.tended (opened : start.Opened) (inside : site < start.sites.length) :
    start.Tended site := by
  obtain ⟨tasks, -, -, sites⟩ := opened.untouched
  exact tended_of_untouched tasks (List.getElem?_eq_getElem inside)
    (sites start.sites[site] (List.getElem_mem inside))

/-- Open moves keep a gateway tended, and give nothing back to it. -/
theorem Tended.apply (tended : world.Tended site) {move : Move} (free : world.isOpen move = true) :
    (world.apply move).Tended site ∧
      ∀ component, world.Lacks site component → (world.apply move).Lacks site component := by
  obtain ⟨sound, inside, consistent, balanced, order⟩ := tended
  have length := (apply_fields sound move).2
  have kept : ((world.apply move).ledger site).Consistent ∧
      ((world.apply move).ledger site).Balanced ∧
        BegunInOrder ((world.apply move).ledger site).lines ∧ ∀ component,
          (world.ledger site).holds component = false →
            ((world.apply move).ledger site).holds component = false := by
    rcases ledger_apply_cases sound free inside (fun _ => trivial) with
      ⟨me, -, strides⟩ | ⟨task, new, other, same⟩ | ⟨task, progress, there, same⟩ | same
    · exact Ledger.kept_of_strides strides consistent balanced order
    · rw [same]
      exact ⟨consistent.change (.call new other), balanced.congr rfl rfl, order, fun _ => id⟩
    · rw [same]
      exact ⟨consistent.change (.drop there), balanced.congr rfl rfl, order, fun _ => id⟩
    · rw [same]
      exact ⟨consistent, balanced, order, fun _ => id⟩
  obtain ⟨early, account, begun, gone⟩ := kept
  exact ⟨⟨sound.apply free, length.symm ▸ inside, early, account, begun⟩, gone⟩

/-- A gateway stays tended along a run. -/
theorem Tended.reaches (tended : world.Tended site) (reaches : world.Reaches last) :
    last.Tended site :=
  reaches.keeps (P := Tended site) (fun _ _ tended free => (tended.apply free).1) tended

/-- What a gateway lacks it lacks for the rest of a run. -/
theorem Tended.lacks_reaches (tended : world.Tended site) (reaches : world.Reaches last)
    (lacks : world.Lacks site component) : last.Lacks site component := by
  have both : last.Tended site ∧ last.Lacks site component := by
    refine reaches.keeps (P := fun world => world.Tended site ∧ world.Lacks site component) ?_
      ⟨tended, lacks⟩
    rintro world move ⟨tended, lacks⟩ free
    obtain ⟨after, gone⟩ := tended.apply free
    exact ⟨after, gone component lacks⟩
  exact both.2

/-- A gateway lacks a component exactly if its stop has begun. -/
theorem Tended.lacks_iff_begun (tended : world.Tended site) :
    world.Lacks site component ↔ Begun (world.ledger site).lines component :=
  tended.consistent.taken component

/-- A shutdown of a gateway that has returned is over. -/
theorem finished_of_returned (there : world.tasks[task]? = some found)
    (shuts : site ∈ found.purpose.shutsDown) {result : Except Error Reply}
    (ended : world.outcome? task = some (.returned result)) :
    (world.ledger site).shutdowns task = some .finished := by
  obtain ⟨same, here, stage⟩ := outcome?_eq_some_iff.mp ended
  obtain rfl := Option.some.inj (there.symm.trans here)
  simp [ledger, there, Task.progress?, shuts, stage, Stage.progress]

/-- When a shutdown of a gateway has returned, the gateway lacks every component. -/
theorem Tended.lacks_of_returned (tended : world.Tended site)
    (there : world.tasks[task]? = some found) (shuts : site ∈ found.purpose.shutsDown)
    {result : Except Error Reply} (ended : world.outcome? task = some (.returned result))
    (component : Component) : world.Lacks site component := by
  have begun := tended.consistent.reached task .finished (finished_of_returned there shuts ended)
    component (Ledger.mem_all component)
  exact tended.lacks_iff_begun.mpr begun

/-- When a task that stops a component has run, the gateway lacks the component. -/
theorem Tended.lacks_of_stopped (tended : world.Tended site)
    (there : world.tasks[task]? = some found) {owner : TaskId}
    (stops : found.purpose = .stopComponent site component owner)
    (ran : found.stage ≠ .fresh) : world.Lacks site component := by
  have entry : (world.ledger site).stops task = some ⟨component, owner, found.stage.stopProgress⟩ := by
    simp [ledger, there, Task.stopOf?, stops]
  have moved : found.stage.stopProgress ≠ .fresh := by
    cases stage : found.stage <;> simp_all [Stage.stopProgress]
  exact tended.lacks_iff_begun.mpr (tended.consistent.moved task _ entry moved)

end World

end ClusterGateway
