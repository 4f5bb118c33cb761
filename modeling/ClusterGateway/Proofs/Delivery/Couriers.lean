import ClusterGateway.Proofs.Delivery.Origins
import ClusterGateway.Proofs.Delivery.Effects

/-!
# Couriers

A courier is a task that delivers the explicit acknowledgement of a consume request to a session.
It sends at once or gets in line when it runs first, and from then on waits for room until it is
woken (`resume_courier`). Couriers of an open session are in order if of two that have something
to deliver the one that was started later is not served before the other (`Ordered`).
-/

namespace ClusterGateway

variable {me first second : TaskId} {line later : List TaskId}

namespace World

variable {world before after left : World} {found : Task} {site : SiteId} {number : SessionId}
  {move : Move} {session : Session} {strict : Prop}

/-- The task delivers the acknowledgement of a consume request to the session of a number. -/
def isCourier (world : World) (site : SiteId) (number : SessionId) (task : TaskId) : Bool :=
  match world.tasks[task]? with
  | some ⟨_, .deliverAck place _ _ session _, _⟩ => place == site && session == number
  | _ => false

/-- A courier delivers an acknowledgement to the session. -/
theorem isCourier_iff {task : TaskId} : world.isCourier site number task = true ↔
    ∃ found key offset parent, world.tasks[task]? = some found ∧
      found.purpose = .deliverAck site key offset number parent := by
  unfold isCourier
  constructor
  · intro courier
    split at courier
    · rename_i actor place key offset routed parent stage there
      simp only [Bool.and_eq_true, beq_iff_eq] at courier
      obtain ⟨rfl, rfl⟩ := courier
      exact ⟨_, key, offset, parent, there, rfl⟩
    · simp at courier
  · rintro ⟨⟨actor, purpose, stage⟩, key, offset, parent, there, acts⟩
    obtain rfl : purpose = .deliverAck site key offset number parent := acts
    simp [there]

/-- A courier is there. -/
theorem lt_of_isCourier (courier : world.isCourier site number me = true) :
    me < world.tasks.length := by
  obtain ⟨found, -, -, -, there, -⟩ := isCourier_iff.mp courier
  exact (List.getElem?_eq_some_iff.mp there).1

/-- A courier is no call. -/
theorem isCall_of_isCourier (courier : world.isCourier site number me = true) :
    world.isCall me = false := by
  obtain ⟨⟨actor, purpose, stage⟩, key, offset, parent, there, acts⟩ := isCourier_iff.mp courier
  obtain rfl : purpose = .deliverAck site key offset number parent := acts
  simp [isCall, there]

/-- A move that is a courier's own is its step. -/
theorem resumed_of_isOwn (courier : world.isCourier site number me = true)
    (free : world.isOpen move = true) (own : move.IsOwn me) : move = .resume me := by
  obtain resumed | rfl := own
  · exact resumed
  · have call : world.isCall me = true := free
    exact absurd ((isCall_of_isCourier courier).symm.trans call) (by simp)

/-- A task stays a courier. -/
theorem isCourier_apply (sound : world.Sound) (move : Move)
    (courier : world.isCourier site number me = true) :
    (world.apply move).isCourier site number me = true := by
  obtain ⟨found, key, offset, parent, there, acts⟩ := isCourier_iff.mp courier
  obtain ⟨stage, later, -⟩ := kept_apply sound move there
  exact isCourier_iff.mpr ⟨_, key, offset, parent, later, acts⟩

/-- Whoever is a courier was one before, or a call has just handed an acknowledgement on to it. -/
theorem isCourier_of_apply (sound : world.Sound) (free : world.isOpen move = true)
    (courier : (world.apply move).isCourier site number me = true) :
    world.isCourier site number me = true ∨
      ∃ key offset parent, move = .resume parent ∧
        HandsOver world (world.apply move) parent me site key offset number := by
  obtain ⟨found, key, offset, parent, there, acts⟩ := isCourier_iff.mp courier
  cases earlier : world.tasks[me]? with
  | some old =>
    obtain ⟨stage, later, -⟩ := kept_apply sound move earlier
    obtain rfl := Option.some.inj (later.symm.trans there)
    exact .inl (isCourier_iff.mpr ⟨old, key, offset, parent, earlier, acts⟩)
  | none =>
    obtain ⟨resumed, hands⟩ := exists_principal sound free earlier there acts
    exact .inr ⟨key, offset, parent, resumed, hands⟩

/-- A task that was there before is a courier if it was one. -/
theorem isCourier_apply_eq (sound : world.Sound) (free : world.isOpen move = true)
    (there : world.tasks[me]? = some found) :
    (world.apply move).isCourier site number me = world.isCourier site number me := by
  refine Bool.eq_iff_iff.mpr ⟨fun courier => ?_, isCourier_apply sound move⟩
  refine (isCourier_of_apply sound free courier).resolve_right ?_
  rintro ⟨key, offset, parent, -, hands⟩
  exact Nat.lt_irrefl _ (hands.next ▸ (List.getElem?_eq_some_iff.mp there).1)

/-- Whoever hands an acknowledgement on is a call. -/
theorem HandsOver.isCall {key : RoutingKey} {offset : Int64} {parent : TaskId}
    (hands : HandsOver before after parent me site key offset number) :
    before.isCall parent = true := by
  obtain ⟨⟨actor, purpose, stage⟩, group, topic, partition, there, -, -, asks⟩ := hands.fresh
  obtain rfl : purpose = .request site (.consume group topic (.explicit partition offset)) := asks
  simp [World.isCall, there]

/-- The session of a courier is there. -/
theorem Laned.session_of_isCourier (laned : world.Laned)
    (courier : world.isCourier site number me = true) :
    ∃ session, world.session? site number = some session := by
  obtain ⟨found, key, offset, parent, there, acts⟩ := isCourier_iff.mp courier
  have proper := laned.tasks me found there
  rw [Proper, acts] at proper
  exact laned.exists_session proper

/-- A courier that has run and is not over waits for room in its session. -/
theorem Sound.dispatch_of_isCourier (sound : world.Sound)
    (courier : world.isCourier site number me = true) (alive : world.isOver me = false)
    (ran : world.Ran me) : ∃ dispatch, world.dispatch? me = some dispatch ∧
      dispatch.site = site ∧ dispatch.session = number := by
  obtain ⟨⟨actor, purpose, stage⟩, key, offset, parent, there, acts⟩ := isCourier_iff.mp courier
  obtain rfl : purpose = .deliverAck site key offset number parent := acts
  have fits := (sound me _ there).1
  obtain ⟨found, here, aged⟩ := ran
  obtain rfl := Option.some.inj (there.symm.trans here)
  cases stage with
  | fresh => exact absurd rfl aged
  | sending routed due =>
    obtain rfl : routed = number := fits
    exact ⟨_, by simp only [dispatch?, there, Option.bind_some]; rfl, rfl, rfl⟩
  | ended outcome => exact absurd rfl ((isOver_eq_false there).mp alive outcome)
  | _ => exact fits.elim

/-- When the delivery of a task is given up, if it waits for room. -/
def due? (world : World) (task : TaskId) : Option Nat := (world.dispatch? task).bind (·.due)

/-- A delivery is given up when its dispatch is due. -/
theorem due?_eq_some_iff {task : TaskId} {due : Nat} : world.due? task = some due ↔
    ∃ dispatch, world.dispatch? task = some dispatch ∧ dispatch.due = some due :=
  Option.bind_eq_some_iff

/-- What a courier does when it runs: it ends, or it goes on to wait, or it gets in line with a
timer set, which it does when it runs first. -/
inductive CourierStep (me : TaskId) (world : World) : World → Prop
  | ends {left : World} (outcome : Outcome) (tasks : left.tasks = world.tasks) :
    CourierStep me world (left.finish me outcome)
  | waits (ran : world.Ran me) : CourierStep me world { world with ready := world.ready.erase me }
  | queues {after : World} {dispatch : Dispatch} {due : Nat} (idle : world.dispatch? me = none)
    (begun : after.dispatch? me = some dispatch) (timed : dispatch.due = some due)
    (ready : after.ready = world.ready.erase me)
    (timers : after.timers = world.timers ++ [⟨due, me⟩]) : CourierStep me world after

/-- A courier ends, or waits, or gets in line when it runs. -/
theorem courierStep_resume (sound : world.Sound)
    (courier : world.isCourier site number me = true) :
    CourierStep me world (world.resume me) := by
  obtain ⟨⟨actor, purpose, stage⟩, key, offset, parent, there, acts⟩ := isCourier_iff.mp courier
  obtain rfl : purpose = .deliverAck site key offset number parent := acts
  rw [resume_eq there]
  generalize left_eq : ({ world with ready := world.ready.erase me } : World) = left
  have tasks : left.tasks = world.tasks := by rw [← left_eq]
  have changed (change : Session → Session × List TaskId) :
      (left.onSession site number change).tasks = world.tasks := (tasks_onSession ..).trans tasks
  have noted (result : DeliveryEnd) :
      (left.note actor (deliveryEntries key offset result)).tasks = world.tasks := tasks
  cases stage with
  | fresh =>
    simp only [proceed, start]
    split
    · exact .ends .broken tasks
    · rename_i place at_site
      unfold beginDelivery
      obtain ⟨_, -, -, same⟩ | ⟨session, here, -, same⟩ | ⟨-, same⟩ :=
        trySend_cases left me site number offset
      · rw [same]
        exact .ends _ (changed _)
      · rw [same]
        dsimp only
        generalize due_eq : (left.onSession site number fun found => (found.await me, [])).now +
          place.gateway.deliveryTimeout = due
        have waiting : (⟨actor, .deliverAck site key offset number parent,
            .sending number due⟩ : Task).dispatch? = some ⟨site, number, offset, some due⟩ := rfl
        have at_left : left.tasks[me]? =
            some ⟨actor, .deliverAck site key offset number parent, .fresh⟩ := tasks ▸ there
        obtain ⟨ready, joined⟩ := exists_onSession left site number fun found =>
          (found.await me, [])
        refine .queues (by simp [dispatch?, there, Task.dispatch?])
          (dispatch?_queued at_left waiting) rfl ?_ ?_
        · rw [onSession, here]
          exact (congrArg World.ready left_eq).symm
        · rw [joined]
          exact congrArg (·.timers ++ _) left_eq.symm
      · rw [same]
        exact .ends _ (noted .closed)
  | sending routed due =>
    simp only [proceed]
    unfold continueDelivery
    obtain ⟨_, -, -, -, same⟩ | ⟨_, -, -, -, same⟩ | ⟨-, same⟩ :=
      retrySend_cases left me site number offset
    · rw [same]
      exact .ends _ (changed _)
    · rw [same]
      dsimp only
      split
      · exact .ends _ (changed _)
      · rw [← left_eq]
        exact .waits ⟨_, there, by simp⟩
    · rw [same]
      exact .ends _ (noted .closed)
  | ended outcome =>
    rw [← left_eq]
    exact .waits ⟨_, there, by simp⟩
  | _ => exact absurd (sound me _ there).1 id

/-- A courier has run once it is resumed. -/
theorem ran_courier (sound : world.Sound) (courier : world.isCourier site number me = true) :
    (world.resume me).Ran me := by
  have step := courierStep_resume sound courier
  generalize world.resume me = after at step ⊢
  cases step with
  | ends outcome tasks =>
    obtain ⟨found, -, -, -, there, -⟩ := isCourier_iff.mp courier
    exact ran_setStage (tasks ▸ there) (by simp : Stage.ended outcome ≠ .fresh)
  | waits ran => exact ran
  | queues idle begun =>
    obtain ⟨found, there, pending⟩ := exists_of_dispatch? begun
    refine ⟨found, there, fun fresh => ?_⟩
    simp [Task.dispatch?, fresh] at pending

/-- A courier that is not over. -/
structure Delivering (world : World) (site : SiteId) (number : SessionId) (task : TaskId) :
    Prop where
  courier : world.isCourier site number task = true
  alive : world.isOver task = false

/-- A task that is not over after a move was not over before. -/
theorem alive_of_apply (sound : world.Sound) (there : world.tasks[me]? = some found)
    (alive : (world.apply move).isOver me = false) : world.isOver me = false := by
  refine (isOver_eq_false there).mpr fun outcome ended => ?_
  have settled := outcome?_apply sound move (outcome?_eq_some_iff.mpr ⟨found, there, ended⟩)
  obtain ⟨later, here, past⟩ := outcome?_eq_some_iff.mp settled
  exact (isOver_eq_false here).mp alive outcome past

/-- A courier that is over stays so. -/
theorem isOver_apply (sound : world.Sound) (courier : world.isCourier site number me = true)
    (past : world.isOver me = true) : (world.apply move).isOver me = true := by
  obtain ⟨found, -, -, -, there, -⟩ := isCourier_iff.mp courier
  by_cases alive : (world.apply move).isOver me = false
  · exact absurd ((alive_of_apply sound there alive).symm.trans past) (by simp)
  · exact eq_true_of_ne_false alive

/-- A courier that is delivering was so before, or has just been started by a call. -/
theorem Delivering.of_apply (sound : world.Sound) (free : world.isOpen move = true)
    (delivering : (world.apply move).Delivering site number me) :
    world.Delivering site number me ∨ ∃ key offset parent, move = .resume parent ∧
      HandsOver world (world.apply move) parent me site key offset number := by
  refine (isCourier_of_apply sound free delivering.courier).imp_left fun courier => ⟨courier, ?_⟩
  obtain ⟨found, -, -, -, there, -⟩ := isCourier_iff.mp courier
  exact alive_of_apply sound there delivering.alive

/-- A courier that is not over after its step has got in line, or goes on to wait there because its
time is not up. -/
theorem Waits.courier_rests (waits : world.Waits) (free : world.isOpen (.resume me) = true)
    (courier : world.isCourier site number me = true)
    (there : world.session? site number = some session)
    (alive : (world.resume me).isOver me = false) :
    ¬ session.InLine me ∧ (world.resume me).session? site number = some (session.await me) ∨
      me ∈ session.waiting ∧ (world.resume me).session? site number = some session ∧
        ∀ due, world.due? me = some due → world.now < due := by
  obtain ⟨found, key, offset, parent, here, acts⟩ := isCourier_iff.mp courier
  obtain ⟨dispatch, pending, rfl, rfl⟩ := (waits.apply free).sound.dispatch_of_isCourier
    (isCourier_apply waits.sound _ courier) alive (ran_courier waits.sound courier)
  have departs := waits.departs here
  have turn := turn_resume here (waits.sound me found here).1
  have dispatched : world.dispatch? me = found.dispatch? := by
    simp only [dispatch?, here, Option.bind_some]
  have ended (left : World) (actor : Option String) (entries : List LogEntry) (outcome : Outcome) :
      ((left.note actor entries).finish me outcome).dispatch? me ≠ some dispatch := by
    rw [dispatch?_finish]
    simp
  rw [World.apply] at pending
  generalize world.resume me = after at turn pending
  cases turn with
  | quiet strokes alive idle rests => exact absurd (rests.symm.trans pending) (by simp)
  | settled settled =>
    have idle : world.dispatch? me = none := by simp [dispatched, Task.dispatch?, settled]
    exact absurd (idle.symm.trans pending) (by simp)
  | sent => exact absurd pending (ended _ _ _ _)
  | dropped => exact absurd pending (ended _ _ _ _)
  | @queued middle begun waiting stage strokes alive idle begins at_middle full waits =>
    obtain ⟨early, still, -⟩ := strokes.taskFrame.kept me found here
    obtain rfl := Option.some.inj ((dispatch?_queued still waits).symm.trans pending)
    refine .inl ⟨departs.away idle _ _ session there, ?_⟩
    show (((middle.onSession _ _ _).setDeadline me begun.due).sites[begun.site]?).bind _ = _
    rw [(setDeadline_fields _ me begun.due).2.1]
    exact session?_onSession_self middle begun.site (strokes.session?_eq there) _
  | refused => exact absurd pending (ended _ _ _ _)
  | filled => exact absurd pending (ended _ _ _ _)
  | gaveUp => exact absurd pending (ended _ _ _ _)
  | @stays waited waiting same at_place unclosed ungranted early =>
    obtain rfl := Option.some.inj (same.symm.trans (dispatched.symm.trans pending))
    obtain rfl := Option.some.inj (there.symm.trans at_place)
    refine .inr ⟨departs.inLine waited session same there unclosed ungranted, there, ?_⟩
    intro due timed
    obtain ⟨begun, again, timed⟩ := due?_eq_some_iff.mp timed
    obtain rfl := Option.some.inj (again.symm.trans pending)
    exact early due timed

/-- Whoever a move belongs to, if it is not a courier's own, is another task. -/
theorem ne_of_isCourier {task : TaskId} (courier : world.isCourier site number task = true)
    (owner : move.IsOwn me ∨ world.tasks.length ≤ me) (foreign : ¬ move.IsOwn task) :
    task ≠ me := by
  rintro rfl
  rcases owner with own | absent
  · exact foreign own
  · exact absurd (lt_of_isCourier courier) (Nat.not_lt.mpr absent)

/-- In a world that has just been opened there are no couriers. -/
theorem Opened.not_isCourier (opened : world.Opened) (site : SiteId) (number : SessionId)
    (task : TaskId) : world.isCourier site number task ≠ true := by
  simp [isCourier, opened.untouched.1]

/-- Couriers that have not run yet are ready, and of two that are delivering to an open session the
one that was started later does not get ahead. -/
structure Ordered (strict : Prop) (world : World) (site : SiteId) (number : SessionId) : Prop where
  fresh : ∀ (task : TaskId) found, world.tasks[task]? = some found →
    world.isCourier site number task = true → found.stage = .fresh → task ∈ world.ready
  ahead : ∀ session first second, world.session? site number = some session →
    session.closed = false → first < second → world.Delivering site number first →
      world.Delivering site number second → session.Ahead strict world.ready first second

/-- A courier that is delivering and does not wait in line is ready. -/
theorem Ordered.awake (ordered : world.Ordered strict site number) (waits : world.Waits)
    (there : world.session? site number = some session) (unclosed : session.closed = false)
    (delivering : world.Delivering site number me) (idle : me ∉ session.waiting) :
    me ∈ world.ready := by
  obtain ⟨found, key, offset, parent, here, acts⟩ := isCourier_iff.mp delivering.courier
  by_cases fresh : found.stage = .fresh
  · exact ordered.fresh me found here delivering.courier fresh
  · obtain ⟨dispatch, pending, rfl, rfl⟩ :=
      waits.sound.dispatch_of_isCourier delivering.courier delivering.alive ⟨found, here, fresh⟩
    obtain ⟨place, at_place, keeps⟩ := (waits.placed me).place dispatch pending
    obtain rfl := Option.some.inj (there.symm.trans at_place)
    obtain ⟨closed, -⟩ | ⟨-, inLine | ⟨-, woken⟩⟩ := keeps
    · exact absurd (closed.symm.trans unclosed) (by simp)
    · exact absurd inLine idle
    · exact woken

end World

end ClusterGateway
