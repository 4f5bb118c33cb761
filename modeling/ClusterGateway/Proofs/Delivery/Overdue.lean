import ClusterGateway.Proofs.Delivery.Couriers
import ClusterGateway.Proofs.Delivery.Deadline
import ClusterGateway.Proofs.Delivery.Rousing
import ClusterGateway.Proofs.World.Sites

/-!
# Whose time is up

Couriers that wait in the line of a session are given up in the order in which they were started:
each has one timer, these are due in that order and were set in it, and nothing else wakes a
courier in line. So where a courier is ready whose time is just up, all that were started before it
and still wait there run first (`Timely.front`). Main statement: `Timely.apply`.
-/

namespace ClusterGateway.World

variable {world : World} {me task first second : TaskId} {found : Task} {site : SiteId}
  {number : SessionId} {session : Session} {move : Move} {strict : Prop} {due : Nat}

/-- Those who are ready, and behind them those who have a timer, in the order in which the timers
were set. -/
def agenda (world : World) : List TaskId := world.ready ++ world.timers.map (·.task)

/-- A courier has no timer but for its deadline, and is ready in line only when that is over; and
of two couriers the second does not wait in line for less long than the first, nor is it woken
there before it. -/
structure Timely (world : World) (site : SiteId) (number : SessionId) : Prop where
  parents : ∀ (task : TaskId) found parent, world.tasks[task]? = some found →
    found.purpose.Rouses parent → world.isCourier site number parent = false
  clocked : ∀ timer ∈ world.timers, world.isCourier site number timer.task = true →
    world.due? timer.task = some timer.due
  bounded : ∀ task due place, world.isCourier site number task = true →
    world.due? task = some due → world.sites[site]? = some place →
      due ≤ world.now + place.gateway.deliveryTimeout
  late : ∀ session task due, world.session? site number = some session →
    session.closed = false → world.isCourier site number task = true → task ∈ session.waiting →
      task ∈ world.ready → world.due? task = some due → due ≤ world.now
  ahead : ∀ session first second, world.session? site number = some session →
    session.closed = false → first < second → world.Delivering site number first →
      world.Delivering site number second → second ∈ session.waiting →
        InFront world.agenda first second ∧ ∀ early late, world.due? first = some early →
          world.due? second = some late → early ≤ late

/-- Where a courier in line is ready, all couriers that were started before it run first. -/
theorem Timely.front (timely : world.Timely site number)
    (there : world.session? site number = some session) (unclosed : session.closed = false)
    (earlier : first < second) (one : world.Delivering site number first)
    (two : world.Delivering site number second) (inLine : second ∈ session.waiting)
    (ready : second ∈ world.ready) : InFront world.ready first second :=
  (timely.ahead session first second there unclosed earlier one two inLine).1.of_append ready

/-- No task wakes a courier when it ends. -/
theorem Timely.not_rouses (timely : world.Timely site number)
    (courier : world.isCourier site number task = true) (other : TaskId) (found : Task)
    (there : world.tasks[other]? = some found) : ¬ found.purpose.Rouses task := fun rouses =>
  absurd ((timely.parents other found task there rouses).symm.trans courier) (by simp)

/-- The timers of a courier are due when it is given up. -/
theorem Timely.due_eq (timely : world.Timely site number)
    (courier : world.isCourier site number task = true) (timed : world.due? task = some due)
    (timer : Timer) (set : timer ∈ world.timers) (mine : timer.task = task) : timer.due = due := by
  subst mine
  exact Option.some.inj ((timely.clocked timer set courier).symm.trans timed)

/-- A timer that another task's move leaves set was set before. -/
theorem mem_timers_of_apply (sound : world.Sound) {timer : Timer}
    (foreign : ¬ move.IsOwn timer.task) (set : timer ∈ (world.apply move).timers) :
    timer ∈ world.timers := by
  by_cases passes : ∃ moment, move = .pass moment
  · obtain ⟨moment, rfl⟩ := passes
    obtain ⟨ready, same⟩ := exists_passTo world moment
    rw [apply, same] at set
    exact (List.mem_filter.mp set).1
  · have alone (task : TaskId) (own : move.IsOwn task) : (task == timer.task) = false := by
      refine beq_eq_false_iff_ne.mpr ?_
      rintro rfl
      exact foreign own
    have same := timers_apply sound alone (not_exists.mp passes)
    have kept : timer ∈ (world.apply move).timers.filter fun other => other.task == timer.task :=
      List.mem_filter.mpr ⟨set, beq_self_eq_true _⟩
    rw [same] at kept
    exact (List.mem_filter.mp kept).1

/-- A task that waits for room after a move was there before. -/
theorem exists_of_due?_apply (sound : world.Sound) (free : world.isOpen move = true)
    (timed : (world.apply move).due? task = some due) :
    ∃ found, world.tasks[task]? = some found := by
  obtain ⟨dispatch, pending, -⟩ := due?_eq_some_iff.mp timed
  obtain ⟨found, there, waits⟩ := exists_of_dispatch? pending
  cases before : world.tasks[task]? with
  | some old => exact ⟨old, rfl⟩
  | none =>
    have fresh := (born_apply sound free before there).1
    simp [Task.dispatch?, fresh] at waits

/-- When a delivery is given up is changed by no move of others. -/
theorem due?_apply (sound : world.Sound) (foreign : ¬ move.IsOwn task)
    (there : world.tasks[task]? = some found) :
    (world.apply move).due? task = world.due? task :=
  congrArg (·.bind (·.due)) (dispatch?_apply sound foreign there)

/-- What a courier waits for is room in its session, for some time. -/
theorem Sound.room_of_isCourier (sound : world.Sound)
    (courier : world.isCourier site number task = true) {dispatch : Dispatch}
    (pending : world.dispatch? task = some dispatch) :
    dispatch.site = site ∧ dispatch.session = number ∧ ∃ due, world.due? task = some due := by
  obtain ⟨⟨actor, purpose, stage⟩, key, offset, parent, there, acts⟩ := isCourier_iff.mp courier
  obtain rfl : purpose = .deliverAck site key offset number parent := acts
  have fits := (sound task _ there).1
  simp only [dispatch?, there, Option.bind_some] at pending
  cases stage with
  | sending routed due =>
    obtain rfl : routed = number := fits
    obtain rfl := Option.some.inj pending
    exact ⟨rfl, rfl, due, by simp [due?, dispatch?, there, Task.dispatch?]⟩
  | fresh => simp [Task.dispatch?] at pending
  | ended => simp [Task.dispatch?] at pending
  | _ => exact fits.elim

/-- A courier that waits in line will be given up some time. -/
theorem Waits.exists_due? (waits : world.Waits)
    (courier : world.isCourier site number task = true)
    (there : world.session? site number = some session) (inLine : task ∈ session.waiting) :
    ∃ due, world.due? task = some due := by
  obtain ⟨dispatch, pending, -⟩ := (waits.placed task).lines site number session there (.inl inLine)
  exact (waits.sound.room_of_isCourier courier pending).2.2

/-- A courier that stands in no line waits for nothing. -/
theorem Waits.idle_of_out (waits : world.Waits)
    (courier : world.isCourier site number task = true)
    (there : world.session? site number = some session) (unclosed : session.closed = false)
    (out : ¬ session.InLine task) : world.dispatch? task = none := by
  refine Option.eq_none_iff_forall_not_mem.mpr fun dispatch pending => out ?_
  obtain ⟨rfl, rfl, -⟩ := waits.sound.room_of_isCourier courier pending
  obtain ⟨place, again, keeps⟩ := (waits.placed task).place dispatch pending
  obtain rfl := Option.some.inj (there.symm.trans again)
  obtain ⟨closed, -⟩ | ⟨-, inLine | ⟨granted, -⟩⟩ := keeps
  · exact absurd (closed.symm.trans unclosed) (by simp)
  · exact .inl inLine
  · exact .inr granted

/-- A courier that has something to deliver is ready, or has a timer. -/
theorem Ordered.mem_agenda (ordered : world.Ordered strict site number) (waits : world.Waits)
    (there : world.session? site number = some session) (unclosed : session.closed = false)
    (delivering : world.Delivering site number task) : task ∈ world.agenda := by
  by_cases inLine : task ∈ session.waiting
  · obtain ⟨due, timed⟩ := waits.exists_due? delivering.courier there inLine
    obtain ⟨dispatch, pending, same⟩ := due?_eq_some_iff.mp timed
    obtain ⟨-, set | ⟨-, ready⟩⟩ := (waits.placed task).timed dispatch due pending same
    · exact List.mem_append_right _ (List.mem_map.mpr ⟨_, set, rfl⟩)
    · exact List.mem_append_left _ ready
  · exact List.mem_append_left _ (ordered.awake waits there unclosed delivering inLine)

/-- A courier that waits for room after its step is asleep, and did so before or has just set a
timer. -/
theorem due?_resume (sound : world.Sound) (courier : world.isCourier site number task = true)
    (timed : (world.resume task).due? task = some due) :
    (world.resume task).ready = world.ready.erase task ∧ (world.due? task = some due ∨
      world.dispatch? task = none ∧
        (world.resume task).timers = world.timers ++ [⟨due, task⟩]) := by
  have step := courierStep_resume sound courier
  generalize world.resume task = after at step timed ⊢
  cases step with
  | ends outcome tasks => simp [due?, dispatch?_finish] at timed
  | waits ran => exact ⟨rfl, .inl timed⟩
  | queues idle begun given ready timers =>
    obtain ⟨dispatch, again, same⟩ := due?_eq_some_iff.mp timed
    obtain rfl := Option.some.inj (begun.symm.trans again)
    obtain rfl := Option.some.inj (given.symm.trans same)
    exact ⟨ready, .inr ⟨idle, timers⟩⟩

/-- A courier that gets in line is given the delivery timeout of its gateway. -/
theorem due_of_begun (waits : world.Waits) (courier : world.isCourier site number task = true)
    (idle : world.dispatch? task = none) {place : Site} (there : world.sites[site]? = some place)
    (timed : (world.resume task).due? task = some due) :
    due = world.now + place.gateway.deliveryTimeout := by
  obtain ⟨dispatch, begun, given⟩ := due?_eq_some_iff.mp timed
  obtain ⟨found, here, begins⟩ := begins_of_begun waits idle begun
  obtain ⟨⟨actor, purpose, stage⟩, key, offset, parent, again, acts⟩ := isCourier_iff.mp courier
  obtain rfl := Option.some.inj (here.symm.trans again)
  obtain rfl : purpose = .deliverAck site key offset number parent := acts
  have ⟨_, _, same⟩ := begins
  exact begins.due_eq (same ▸ there) given

/-- Whoever will run before another still will after a move of others, unless time passes or the
other one is woken. -/
theorem inFront_agenda_apply (sound : world.Sound) (peopled : (world.apply move).Peopled)
    (one : ¬ move.IsOwn first) (two : ¬ move.IsOwn second)
    (stands : ∀ moment, move ≠ .pass moment)
    (calm : second ∈ (world.apply move).ready → second ∈ world.ready)
    (front : InFront world.agenda first second) :
    InFront (world.apply move).agenda first second := by
  obtain ⟨line, left, longer⟩ := lengthens_apply sound move
  obtain ⟨more, joined, -⟩ := longer.ready
  have stays : second ∈ world.ready → second ∈ line := by
    obtain rfl | ⟨task, own, rfl⟩ := left
    · exact id
    · have differ : second ≠ task := fun same => two (same ▸ own)
      exact (List.mem_erase_of_ne differ).mpr
  have absent : second ∉ more := by
    intro new
    have before := stays (calm (joined ▸ List.mem_append_right _ new))
    have distinct := peopled.distinct
    rw [joined] at distinct
    exact (List.nodup_append.mp distinct).2.2 second before second new rfl
  have kept : InFront (line ++ world.timers.map (·.task)) first second := by
    obtain rfl | ⟨task, own, rfl⟩ := left
    · exact front
    · exact front.erase_append fun same => one (same ▸ own)
  have alone (task : TaskId) (own : move.IsOwn task) :
      (task == first || task == second) = false := by
    refine Bool.or_eq_false_iff.mpr ⟨beq_eq_false_iff_ne.mpr ?_, beq_eq_false_iff_ne.mpr ?_⟩
    · exact fun same => one (same ▸ own)
    · exact fun same => two (same ▸ own)
  have same := timers_apply sound alone stands
  have pair : InFront ((line ++ world.timers.map (·.task)).filter fun task =>
      task == first || task == second) first second := kept.filter (by simp)
  have later : InFront ((line ++ (world.apply move).timers.map (·.task)).filter fun task =>
      task == first || task == second) first second := by
    rw [List.filter_append, List.filter_map] at pair ⊢
    exact (congrArg (fun timers => InFront (_ ++ List.map _ timers) first second) same).mpr pair
  rw [agenda, joined]
  exact (later.of_filter (by simp)).insert absent

/-- Of two tasks that have timers, the one whose timers all fire is in front of the other among
those who are woken if it was so among all. -/
theorem inFront_fires {timers : List Timer} {fires : Timer → Bool}
    (front : InFront (timers.map (·.task)) first second)
    (all : ∀ timer ∈ timers, timer.task = first → fires timer = true) :
    InFront ((timers.filter fires).map (·.task)) first second := by
  obtain ⟨early, late, split, there, absent⟩ := front
  obtain ⟨before, after, rfl, rfl, rfl⟩ := List.map_eq_append_iff.mp split
  refine ⟨_, _, by rw [List.filter_append, List.map_append], ?_, fun inside => absent ?_⟩
  · obtain ⟨timer, set, mine⟩ := List.mem_map.mp there
    refine List.mem_map.mpr ⟨timer, List.mem_filter.mpr ⟨set, ?_⟩, mine⟩
    exact all timer (List.mem_append_left _ set) mine
  · obtain ⟨timer, set, mine⟩ := List.mem_map.mp inside
    exact List.mem_map.mpr ⟨timer, (List.mem_filter.mp set).1, mine⟩

/-- Whoever is ready when time has passed was ready before, or its timer was due. -/
theorem fired_of_mem_ready {moment : Nat} (ready : task ∈ (world.passTo moment).ready) :
    task ∈ world.ready ∨ ∃ timer ∈ world.timers, timer.task = task ∧ timer.due ≤ moment := by
  obtain ⟨more, joined, named⟩ := exists_ready_wakeAll
    { world with now := max world.now moment, timers := world.timers.filter (moment < ·.due) }
    ((world.timers.filter (·.due ≤ moment)).map (·.task))
  refine (List.mem_append.mp (joined ▸ ready)).imp id fun new => ?_
  obtain ⟨timer, fired, mine⟩ := List.mem_map.mp (named task new)
  obtain ⟨set, late⟩ := List.mem_filter.mp fired
  exact ⟨timer, set, mine, of_decide_eq_true late⟩

/-- Whoever has a timer that is due is ready when time has passed. -/
theorem mem_ready_of_fires {moment : Nat} {timer : Timer} (set : timer ∈ world.timers)
    (due : timer.due ≤ moment) : timer.task ∈ (world.passTo moment).ready :=
  mem_ready_wakeAll_self _
    (List.mem_map.mpr ⟨timer, List.mem_filter.mpr ⟨set, decide_eq_true due⟩, rfl⟩)

/-- Those whose timers are due while nobody is ready are woken in the order in which the timers
were set. -/
theorem inFront_ready_passTo {moment : Nat} (rest : world.ready = [])
    (front : InFront ((world.timers.filter (·.due ≤ moment)).map (·.task)) first second) :
    InFront (world.passTo moment).ready first second := by
  have nobody (task : TaskId) : task ∉ world.ready := rest ▸ List.not_mem_nil
  have joined : Joined first _ world.ready (world.passTo moment).ready :=
    joined_wakeAll _ (.inl rfl)
  exact joined.among first second (nobody first) (nobody second) front

/-- The timers that are not due stay set when time passes. -/
theorem timers_passTo (world : World) (moment : Nat) :
    (world.passTo moment).timers = world.timers.filter (moment < ·.due) := by
  obtain ⟨ready, same⟩ := exists_passTo world moment
  rw [same]

/-- When time passes, whoever has a timer before another, and due no later, is woken before it. -/
theorem inFront_agenda_passTo {moment early late : Nat} (rest : world.ready = [])
    (one : ∀ timer ∈ world.timers, timer.task = first → timer.due = early)
    (two : ∀ timer ∈ world.timers, timer.task = second → timer.due = late) (order : early ≤ late)
    (front : InFront world.agenda first second) :
    InFront (world.passTo moment).agenda first second := by
  have timers : InFront (world.timers.map (·.task)) first second := by
    rwa [agenda, rest, List.nil_append] at front
  by_cases fires : late ≤ moment
  · have among := inFront_fires timers fun timer set mine =>
      decide_eq_true (one timer set mine ▸ Nat.le_trans order fires)
    exact (inFront_ready_passTo rest among).append _
  have asleep : second ∉ (world.passTo moment).ready := by
    intro awake
    obtain before | ⟨timer, set, mine, due⟩ := fired_of_mem_ready awake
    · exact absurd (rest ▸ before) List.not_mem_nil
    · exact fires (two timer set mine ▸ due)
  by_cases soon : early ≤ moment
  · obtain ⟨timer, set, mine⟩ := List.mem_map.mp timers.mem
    exact .of_new (mine ▸ mem_ready_of_fires set (one timer set mine ▸ soon)) asleep _
  · have still : InFront ([] ++ (world.timers.filter (moment < ·.due)).map (·.task))
        first second :=
      inFront_fires timers fun timer set mine =>
        decide_eq_true (one timer set mine ▸ Nat.lt_of_not_le soon)
    rw [agenda, timers_passTo]
    exact still.insert asleep

/-- No courier is woken by a task that stops a component. -/
theorem Timely.parents_apply (timely : world.Timely site number) (sound : world.Sound)
    (peopled : world.Peopled) (free : world.isOpen move = true) {parent : TaskId}
    (there : (world.apply move).tasks[task]? = some found) (rouses : found.purpose.Rouses parent) :
    (world.apply move).isCourier site number parent = false := by
  have stays (present : parent < world.tasks.length)
      (idle : world.isCourier site number parent = false) :
      (world.apply move).isCourier site number parent = false :=
    (isCourier_apply_eq sound free (List.getElem?_eq_getElem present)).trans idle
  cases before : world.tasks[task]? with
  | some old =>
    obtain ⟨stage, later, -⟩ := kept_apply sound move before
    obtain rfl := Option.some.inj (later.symm.trans there)
    exact stays (peopled.parents task old parent before rouses)
      (timely.parents task old parent before rouses)
  | none =>
    obtain ⟨-, born⟩ := born_apply sound free before there
    obtain ⟨actor, purpose, stage⟩ := found
    cases born with
    | request => exact rouses.elim
    | shutdown => exact rouses.elim
    | handed mine hands => exact absurd rouses hands.not_rouses
    | @borne me shuts child mine bears =>
      obtain rfl := bears.rouses rouses
      refine stays (List.getElem?_eq_some_iff.mp mine).1 (Bool.eq_false_iff.mpr fun courier => ?_)
      obtain ⟨same, key, offset, owner, here, acts⟩ := isCourier_iff.mp courier
      obtain rfl := Option.some.inj (mine.symm.trans here)
      rw [acts] at bears
      exact bears.elim

/-- A task whose own move is open is there. -/
theorem Peopled.lt_of_isOwn (peopled : world.Peopled) (free : world.isOpen move = true)
    (own : move.IsOwn task) : task < world.tasks.length := by
  obtain rfl | rfl := own
  · exact peopled.ready task (List.contains_iff_mem.mp free)
  · have call : world.isCall task = true := free
    cases there : world.tasks[task]? with
    | none => simp [isCall, there] at call
    | some found => exact (List.getElem?_eq_some_iff.mp there).1

/-- A courier sets no timer but for its deadline. -/
theorem Timely.clocked_apply (timely : world.Timely site number) (sound : world.Sound)
    (peopled : world.Peopled) (free : world.isOpen move = true) {timer : Timer}
    (set : timer ∈ (world.apply move).timers)
    (courier : (world.apply move).isCourier site number timer.task = true) :
    (world.apply move).due? timer.task = some timer.due := by
  have earlier (present : timer.task < world.tasks.length) :
      world.isCourier site number timer.task = true :=
    (isCourier_apply_eq sound free (List.getElem?_eq_getElem present)).symm.trans courier
  by_cases own : move.IsOwn timer.task
  · have was := earlier (peopled.lt_of_isOwn free own)
    obtain rfl := resumed_of_isOwn was free own
    have step := courierStep_resume sound was
    rw [apply] at set ⊢
    generalize world.resume timer.task = after at step set ⊢
    cases step with
    | ends outcome tasks => simp [finish] at set
    | waits ran => exact timely.clocked timer set was
    | queues idle begun timed ready timers =>
      rw [timers] at set
      rcases List.mem_append.mp set with old | new
      · exact absurd (timely.clocked timer old was) (by simp [due?, idle])
      · obtain same := List.mem_singleton.mp new
        exact due?_eq_some_iff.mpr ⟨_, begun, timed.trans (congrArg (some ·.due) same).symm⟩
  · have before := mem_timers_of_apply sound own set
    have present := peopled.timers timer before
    rw [due?_apply sound own (List.getElem?_eq_getElem present)]
    exact timely.clocked timer before (earlier present)

/-- The clock does not go back. -/
theorem now_le_apply (sound : world.Sound) (move : Move) : world.now ≤ (world.apply move).now := by
  obtain same | ⟨moment, -, same⟩ := now_apply sound move
  · exact Nat.le_of_eq same.symm
  · exact same ▸ Nat.le_max_left ..

/-- A courier waits for the delivery timeout of its gateway at most. -/
theorem Timely.bounded_apply (timely : world.Timely site number) (waits : world.Waits)
    (laned : world.Laned) (free : world.isOpen move = true)
    (courier : (world.apply move).isCourier site number task = true)
    (timed : (world.apply move).due? task = some due) {later : Site}
    (there : (world.apply move).sites[site]? = some later) :
    due ≤ (world.apply move).now + later.gateway.deliveryTimeout := by
  have sound := waits.sound
  obtain ⟨found, present⟩ := exists_of_due?_apply sound free timed
  have was := (isCourier_apply_eq sound free present).symm.trans courier
  obtain ⟨session, inside⟩ := laned.session_of_isCourier was
  obtain ⟨place, here, -⟩ := Option.bind_eq_some_iff.mp inside
  have timeout : later.gateway.deliveryTimeout = place.gateway.deliveryTimeout := by
    obtain ⟨other, at_site, remains⟩ := exists_remains sound here move
    obtain rfl := Option.some.inj (there.symm.trans at_site)
    exact congrArg (·.consumer.longPollingTimeout.toNat) remains.config
  have clock := now_le_apply sound move
  rw [timeout]
  have old (same : (world.apply move).due? task = world.due? task) :
      due ≤ (world.apply move).now + place.gateway.deliveryTimeout :=
    Nat.le_trans (timely.bounded task due place was (same.symm.trans timed) here)
      (Nat.add_le_add_right clock _)
  by_cases own : move.IsOwn task
  · obtain rfl := resumed_of_isOwn was free own
    obtain ⟨-, before | ⟨idle, -⟩⟩ := due?_resume sound was timed
    · exact old (timed.trans before.symm)
    · exact due_of_begun waits was idle here timed ▸ Nat.add_le_add_right clock _
  · exact old (due?_apply sound own present)

/-- A courier that goes on to wait in line is asleep, unless its time is up. -/
theorem Timely.late_apply (timely : world.Timely site number) (waits : world.Waits)
    (laned : world.Laned) (peopled : world.Peopled) (free : world.isOpen move = true)
    {after : Session} (here : (world.apply move).session? site number = some after)
    (unclosed : after.closed = false)
    (courier : (world.apply move).isCourier site number task = true)
    (inLine : task ∈ after.waiting) (ready : task ∈ (world.apply move).ready)
    (timed : (world.apply move).due? task = some due) : due ≤ (world.apply move).now := by
  have sound := waits.sound
  obtain ⟨found, present⟩ := exists_of_due?_apply sound free timed
  have was := (isCourier_apply_eq sound free present).symm.trans courier
  by_cases own : move.IsOwn task
  · obtain rfl := resumed_of_isOwn was free own
    have left : task ∈ world.ready.erase task := (due?_resume sound was timed).1 ▸ ready
    exact absurd left peopled.distinct.not_mem_erase
  have before := (due?_apply sound own present).symm.trans timed
  by_cases passes : ∃ moment, move = .pass moment
  · obtain ⟨moment, rfl⟩ := passes
    obtain awake | ⟨timer, set, rfl, fired⟩ := fired_of_mem_ready ready
    · exact absurd free (not_mayPass_of_ready awake moment)
    · obtain rfl := Option.some.inj (before.symm.trans (timely.clocked timer set was))
      obtain ⟨_, same⟩ := exists_passTo world moment
      rw [apply, same]
      exact Nat.le_trans fired (Nat.le_max_right ..)
  · obtain ⟨session, there⟩ := laned.session_of_isCourier was
    obtain ⟨me, other, owner, again, effect⟩ := effect_apply waits free there
    obtain rfl := Option.some.inj (here.symm.trans again)
    have waited := effect.waited unclosed (ne_of_isCourier was owner own) inLine
    have awake := waits.not_stirred free own (not_exists.mp passes) (timely.not_rouses was) there
      here unclosed waited inLine ready
    exact Nat.le_trans (timely.late session task due there (effect.unclosed unclosed) was waited
      awake before) (now_le_apply sound move)

/-- A courier that runs while it waits in line does so because its time is up. -/
theorem Timely.not_early (timely : world.Timely site number) (waits : world.Waits)
    (free : world.isOpen (.resume task) = true)
    (courier : world.isCourier site number task = true)
    (there : world.session? site number = some session) (unclosed : session.closed = false)
    (inLine : task ∈ session.waiting) :
    ¬ ∀ due, world.due? task = some due → world.now < due := by
  intro early
  obtain ⟨due, timed⟩ := waits.exists_due? courier there inLine
  have awake : task ∈ world.ready := List.contains_iff_mem.mp free
  exact absurd (timely.late session task due there unclosed courier inLine awake timed)
    (Nat.not_le.mpr (early due timed))

/-- A courier that gets in line will be woken behind all others, and is due no sooner. -/
theorem Timely.ahead_of_await (timely : world.Timely site number)
    (ordered : world.Ordered strict site number) (waits : world.Waits) (peopled : world.Peopled)
    (there : world.session? site number = some session) (unclosed : session.closed = false)
    (one : world.Delivering site number first)
    (two : world.isCourier site number second = true) (differ : first ≠ second)
    (out : ¬ session.InLine second)
    (timed : (world.resume second).due? second = some due) :
    InFront (world.resume second).agenda first second ∧
      ∀ early, world.due? first = some early → early ≤ due := by
  have idle := waits.idle_of_out two there unclosed out
  obtain ⟨ready, before | ⟨-, timers⟩⟩ := due?_resume waits.sound two timed
  · simp [due?, idle] at before
  obtain ⟨place, here, -⟩ := Option.bind_eq_some_iff.mp there
  refine ⟨?_, fun early set => ?_⟩
  · rw [agenda, ready, timers, List.map_append, ← List.append_assoc]
    refine .of_new ?_ ?_ _
    · rcases List.mem_append.mp (ordered.mem_agenda waits there unclosed one) with awake | asleep
      · exact List.mem_append_left _ ((List.mem_erase_of_ne differ).mpr awake)
      · exact List.mem_append_right _ asleep
    · intro inside
      rcases List.mem_append.mp inside with left | asleep
      · exact peopled.distinct.not_mem_erase left
      · obtain ⟨timer, set, rfl⟩ := List.mem_map.mp asleep
        exact absurd (timely.clocked timer set two) (by simp [due?, idle])
  · rw [due_of_begun waits two idle here timed]
    exact timely.bounded first early place one.courier set here

/-- No move lets a courier be woken in line before one that was started before. -/
theorem Timely.ahead_apply (timely : world.Timely site number)
    (ordered : world.Ordered strict site number) (waits : world.Waits) (peopled : world.Peopled)
    (free : world.isOpen move = true) {after : Session}
    (there : world.session? site number = some session)
    (here : (world.apply move).session? site number = some after)
    (unclosed : after.closed = false) (earlier : first < second)
    (one : world.Delivering site number first) (two : world.Delivering site number second)
    (oneAlive : (world.apply move).isOver first = false)
    (twoAlive : (world.apply move).isOver second = false) (inLine : second ∈ after.waiting) :
    InFront (world.apply move).agenda first second ∧
      ∀ early late, (world.apply move).due? first = some early →
        (world.apply move).due? second = some late → early ≤ late := by
  obtain ⟨me, other, owner, again, effect⟩ := effect_apply waits free there
  obtain rfl := Option.some.inj (here.symm.trans again)
  have opened := effect.unclosed unclosed
  have differ := Nat.ne_of_lt earlier
  have same {task : TaskId} (courier : world.isCourier site number task = true)
      (foreign : ¬ move.IsOwn task) : (world.apply move).due? task = world.due? task :=
    due?_apply waits.sound foreign (List.getElem?_eq_getElem (lt_of_isCourier courier))
  by_cases mine : move.IsOwn first
  · exfalso
    obtain rfl := resumed_of_isOwn one.courier free mine
    have ranks := (ordered.ahead session first second there opened earlier one two).toRanks
    obtain ⟨out, joined⟩ | ⟨waiting, -, early⟩ :=
      waits.courier_rests free one.courier there oneAlive
    · obtain rfl := Option.some.inj (here.symm.trans joined)
      have waited : second ∈ session.waiting := (List.mem_append.mp inLine).resolve_right
        fun last => differ (List.mem_singleton.mp last).symm
      exact out (ranks.waiting waited).symm
    · exact timely.not_early waits free one.courier there opened waiting early
  by_cases its : move.IsOwn second
  · obtain rfl := resumed_of_isOwn two.courier free its
    obtain ⟨out, -⟩ | ⟨waiting, -, early⟩ := waits.courier_rests free two.courier there twoAlive
    · obtain ⟨due, timed⟩ := (waits.apply free).exists_due?
        (isCourier_apply waits.sound _ two.courier) here inLine
      obtain ⟨front, order⟩ := timely.ahead_of_await ordered waits peopled there opened one
        two.courier differ out timed
      refine ⟨front, fun early late set given => ?_⟩
      obtain rfl := Option.some.inj (timed.symm.trans given)
      exact order early ((same one.courier mine).symm.trans set)
    · exact absurd early (timely.not_early waits free two.courier there opened waiting)
  -- the move is that of another task, or of nobody
  have waited := effect.waited unclosed (ne_of_isCourier two.courier owner its) inLine
  obtain ⟨front, order⟩ := timely.ahead session first second there opened earlier one two waited
  refine ⟨?_, fun early late set given => order early late
    ((same one.courier mine).symm.trans set) ((same two.courier its).symm.trans given)⟩
  by_cases passes : ∃ moment, move = .pass moment
  · obtain ⟨moment, rfl⟩ := passes
    have rest : world.ready = [] := by
      simp only [isOpen, mayPass, Bool.and_eq_true, List.isEmpty_iff] at free
      exact free.1
    have asleep : first ∈ session.waiting := by
      by_contra away
      exact List.not_mem_nil (rest ▸ ordered.awake waits there opened one away)
    obtain ⟨early, set⟩ := waits.exists_due? one.courier there asleep
    obtain ⟨late, given⟩ := waits.exists_due? two.courier there waited
    exact inFront_agenda_passTo rest (timely.due_eq one.courier set)
      (timely.due_eq two.courier given) (order early late set given) front
  · have stands := not_exists.mp passes
    refine inFront_agenda_apply waits.sound (peopled.apply waits free) mine its stands ?_ front
    exact waits.not_stirred free its stands (timely.not_rouses two.courier) there here unclosed
      waited inLine

/-- Moves let no courier in line be woken before its time, or before those that were started
before it. -/
theorem Timely.apply (timely : world.Timely site number)
    (ordered : world.Ordered strict site number) (waits : world.Waits) (laned : world.Laned)
    (peopled : world.Peopled) (free : world.isOpen move = true) :
    (world.apply move).Timely site number where
  parents := fun _ _ _ there rouses => timely.parents_apply waits.sound peopled free there rouses
  clocked := fun _ set courier => timely.clocked_apply waits.sound peopled free set courier
  bounded := fun _ _ _ courier timed there =>
    timely.bounded_apply waits laned free courier timed there
  late := fun _ _ _ here unclosed courier inLine ready timed =>
    timely.late_apply waits laned peopled free here unclosed courier inLine ready timed
  ahead := by
    intro after first second here unclosed earlier one two inLine
    obtain ⟨due, timed⟩ := (waits.apply free).exists_due? two.courier here inLine
    obtain ⟨found, present⟩ := exists_of_due?_apply waits.sound free timed
    have inside := (List.getElem?_eq_some_iff.mp present).1
    have before {task : TaskId} (there : task < world.tasks.length)
        (delivering : (world.apply move).Delivering site number task) :
        world.Delivering site number task :=
      have here := List.getElem?_eq_getElem there
      ⟨(isCourier_apply_eq waits.sound free here).symm.trans delivering.courier,
        alive_of_apply waits.sound here delivering.alive⟩
    have was := before (Nat.lt_trans earlier inside) one
    have also := before inside two
    obtain ⟨session, there⟩ := laned.session_of_isCourier also.courier
    exact timely.ahead_apply ordered waits peopled free there here unclosed earlier was also
      one.alive two.alive inLine

/-- In a world that has just been opened nobody waits for anything. -/
theorem Opened.timely {start : World} (opened : start.Opened) (site : SiteId)
    (number : SessionId) : start.Timely site number where
  parents := fun _ _ parent _ _ => Bool.eq_false_iff.mpr (opened.not_isCourier site number parent)
  clocked := fun timer _ courier => absurd courier (opened.not_isCourier site number timer.task)
  bounded := fun task _ _ courier => absurd courier (opened.not_isCourier site number task)
  late := fun _ task _ _ _ courier => absurd courier (opened.not_isCourier site number task)
  ahead := fun _ first _ _ _ _ one =>
    absurd one.courier (opened.not_isCourier site number first)

end ClusterGateway.World
