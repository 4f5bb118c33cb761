import ClusterGateway.Proofs.Delivery.Line
import ClusterGateway.Proofs.World.Tasks

/-!
# What a task does to the sessions when it runs

Three kinds of tasks deliver an acknowledgement: a standalone one, the task that a consume
request hands an explicit one to, and a consume request that acknowledges what it has
fetched. `Turn` lists all that a task may do to the sessions when it runs: nothing at all,
send at once, drop what a closed session does not take, or get in line, and once it is in
line fill the room it was granted, find the session closed, give up, or wait on. Main
statement: `turn_resume`.
-/

namespace ClusterGateway

/-- The dispatch of an acknowledgement: where to, and until when its delivery is attempted,
if not for as long as it takes. -/
structure Dispatch where
  site : SiteId
  session : SessionId
  offset : Int64
  due : Option Nat
deriving DecidableEq

/-- The dispatch that a task waits in line for. -/
def Task.dispatch? (task : Task) : Option Dispatch :=
  match task.stage, task.purpose with
  | .acknowledging message, .request site (.consume _ _ .auto) =>
    some ⟨site, message.session, message.offset, none⟩
  | .sending session due, .request site (.acknowledge _ _ (.explicit _ offset)) =>
    some ⟨site, session, offset, some due⟩
  | .sending session due, .deliverAck site _ offset _ _ => some ⟨site, session, offset, some due⟩
  | _, _ => none

/-- The dispatch that a task waits in line for in a world. -/
def World.dispatch? (world : World) (task : TaskId) : Option Dispatch :=
  (world.tasks[task]?).bind Task.dispatch?

/-- A dispatch that a task of a purpose may begin in a world. -/
def Purpose.Begins (world : World) : Purpose → Dispatch → Prop
  | .request site (.acknowledge group topic (.explicit partition offset)), dispatch =>
    ∃ found, world.sites[site]? = some found ∧ found.gateway.holds .consumer = true ∧
      found.gateway.routes.get? ⟨group, topic, partition⟩ = some dispatch.session ∧
      dispatch = ⟨site, dispatch.session, offset,
        some (world.now + found.gateway.deliveryTimeout)⟩
  | .deliverAck site _ offset session _, dispatch => ∃ found, world.sites[site]? = some found ∧
      dispatch = ⟨site, session, offset, some (world.now + found.gateway.deliveryTimeout)⟩
  | .request site (.consume _ _ .auto), dispatch => dispatch.site = site ∧ dispatch.due = none
  | _, _ => False

/-- A dispatch is given time when it begins, if it is timed. -/
theorem Purpose.Begins.le_due {world : World} {purpose : Purpose} {dispatch : Dispatch} {due : Nat}
    (begins : purpose.Begins world dispatch) (timed : dispatch.due = some due) :
    world.now ≤ due := by
  unfold Purpose.Begins at begins
  split at begins
  · obtain ⟨found, -, -, -, same⟩ := begins
    rw [same] at timed
    exact Option.some.inj timed ▸ Nat.le_add_right _ _
  · obtain ⟨found, -, same⟩ := begins
    rw [same] at timed
    exact Option.some.inj timed ▸ Nat.le_add_right _ _
  · rw [begins.2] at timed
    simp at timed
  · exact begins.elim

/-- How a task of a purpose ends when its dispatch has ended. -/
def Purpose.Concludes : Purpose → Dispatch → World.DeliveryEnd → Outcome → Prop
  | .request site (.acknowledge group topic (.explicit partition offset)), dispatch, result,
      outcome =>
    dispatch.site = site ∧ dispatch.offset = offset ∧
      outcome = .returned (World.acknowledgeResult group topic partition offset result)
  | .deliverAck site _ offset session _, dispatch, _, outcome =>
    dispatch.site = site ∧ dispatch.offset = offset ∧ dispatch.session = session ∧
      outcome = .returned (.ok .done)
  | .request site (.consume _ _ .auto), dispatch, result, outcome =>
    dispatch.site = site ∧ result ≠ .timedOut ∧ ∃ message, message.session = dispatch.session ∧
      message.offset = dispatch.offset ∧ outcome = .returned (.ok (.message message))
  | _, _, _, _ => False

/-- Only tasks that may send end with their dispatch. -/
theorem Purpose.Concludes.sends {purpose : Purpose} {dispatch : Dispatch}
    {result : World.DeliveryEnd} {outcome : Outcome}
    (concludes : purpose.Concludes dispatch result outcome) : purpose.Sends := by
  unfold Purpose.Concludes at concludes
  split at concludes
  · trivial
  · trivial
  · trivial
  · exact concludes.elim

namespace World

/-- Sets a timer where a dispatch has to end at a time. -/
def setDeadline (world : World) (task : TaskId) : Option Nat → World
  | some due => world.setTimer task due
  | none => world

/-- What a task does to the sessions when it runs; `left` is the world in which it has left
the line of ready tasks. -/
inductive Turn (me : TaskId) (found : Task) (left : World) : World → Prop
  | quiet {after : World} (strokes : Strokes me found.purpose False True left after)
    (alive : ∀ outcome, found.stage ≠ .ended outcome) (idle : found.dispatch? = none)
    (rests : after.dispatch? me = none)
    (fruitless : ∀ outcome dispatch, after.outcome? me = some outcome →
      ¬ found.purpose.Concludes dispatch .accepted outcome) : Turn me found left after
  | settled {outcome : Outcome} (ended : found.stage = .ended outcome) : Turn me found left left
  | sent {middle : World} {dispatch : Dispatch} {session : Session} {outcome : Outcome}
    (actor : Option String) (entries : List LogEntry)
    (strokes : Strokes me found.purpose False True left middle)
    (alive : ∀ outcome, found.stage ≠ .ended outcome) (idle : found.dispatch? = none)
    (begins : found.purpose.Begins left dispatch)
    (there : middle.session? dispatch.site dispatch.session = some session)
    (room : session.attempt = .accepted)
    (concludes : found.purpose.Concludes dispatch .accepted outcome) :
    Turn me found left (((middle.onSession dispatch.site dispatch.session fun session =>
      (session.accept ⟨some me, dispatch.offset⟩, [])).note actor entries).finish me outcome)
  | dropped {middle : World} {dispatch : Dispatch} {outcome : Outcome} (actor : Option String)
    (entries : List LogEntry) (strokes : Strokes me found.purpose False True left middle)
    (alive : ∀ outcome, found.stage ≠ .ended outcome) (idle : found.dispatch? = none)
    (begins : found.purpose.Begins left dispatch)
    (shut : ∀ session, middle.session? dispatch.site dispatch.session = some session →
      session.closed = true)
    (concludes : found.purpose.Concludes dispatch .closed outcome) :
    Turn me found left ((middle.note actor entries).finish me outcome)
  | queued {middle : World} {dispatch : Dispatch} {session : Session} {stage : Stage}
    (strokes : Strokes me found.purpose False True left middle)
    (alive : ∀ outcome, found.stage ≠ .ended outcome) (idle : found.dispatch? = none)
    (begins : found.purpose.Begins left dispatch)
    (there : middle.session? dispatch.site dispatch.session = some session)
    (full : session.attempt = .full)
    (waits : ({ found with stage := stage } : Task).dispatch? = some dispatch) :
    Turn me found left (((middle.onSession dispatch.site dispatch.session fun session =>
      (session.await me, [])).setDeadline me dispatch.due).setStage me stage)
  | refused {dispatch : Dispatch} {outcome : Outcome} (actor : Option String)
    (entries : List LogEntry) (pending : found.dispatch? = some dispatch)
    (shut : ∀ session, left.session? dispatch.site dispatch.session = some session →
      session.closed = true)
    (concludes : found.purpose.Concludes dispatch .closed outcome) :
    Turn me found left ((left.note actor entries).finish me outcome)
  | filled {dispatch : Dispatch} {session : Session} {outcome : Outcome} (actor : Option String)
    (entries : List LogEntry) (pending : found.dispatch? = some dispatch)
    (there : left.session? dispatch.site dispatch.session = some session)
    (unclosed : session.closed = false) (granted : me ∈ session.granted)
    (concludes : found.purpose.Concludes dispatch .accepted outcome) :
    Turn me found left (((left.onSession dispatch.site dispatch.session fun session =>
      (session.fill me dispatch.offset, [])).note actor entries).finish me outcome)
  | gaveUp {dispatch : Dispatch} {session : Session} {outcome : Outcome} {due : Nat}
    (actor : Option String) (entries : List LogEntry) (pending : found.dispatch? = some dispatch)
    (there : left.session? dispatch.site dispatch.session = some session)
    (unclosed : session.closed = false) (waits : me ∉ session.granted)
    (timed : dispatch.due = some due) (late : due ≤ left.now)
    (concludes : found.purpose.Concludes dispatch .timedOut outcome) :
    Turn me found left (((left.giveUpSend me dispatch.site dispatch.session).note actor
      entries).finish me outcome)
  | stays {dispatch : Dispatch} {session : Session} (pending : found.dispatch? = some dispatch)
    (there : left.session? dispatch.site dispatch.session = some session)
    (unclosed : session.closed = false) (waits : me ∉ session.granted)
    (early : ∀ due, dispatch.due = some due → left.now < due) : Turn me found left left

variable {world left : World} {me : TaskId} {found : Task} {site : SiteId} {session : SessionId}
  {offset : Int64}

/-- How a first attempt to send ends. -/
theorem trySend_cases (world : World) (me : TaskId) (site : SiteId) (session : SessionId)
    (offset : Int64) :
    (∃ there, world.session? site session = some there ∧ there.attempt = .accepted ∧
      world.trySend me site session offset = (world.onSession site session fun found =>
        (found.accept ⟨some me, offset⟩, []), .accepted)) ∨
    (∃ there, world.session? site session = some there ∧ there.attempt = .full ∧
      world.trySend me site session offset = (world.onSession site session fun found =>
        (found.await me, []), .full)) ∨
    (∀ there, world.session? site session = some there → there.closed = true) ∧
      world.trySend me site session offset = (world, .closed) := by
  unfold trySend
  split
  · rename_i absent
    exact .inr (.inr ⟨fun there found => by simp [absent] at found, rfl⟩)
  · rename_i there found
    split
    · rename_i attempt
      exact .inl ⟨there, found, attempt, rfl⟩
    · rename_i attempt
      exact .inr (.inl ⟨there, found, attempt, rfl⟩)
    · rename_i attempt
      refine .inr (.inr ⟨fun other here => ?_, rfl⟩)
      obtain rfl := Option.some.inj (found.symm.trans here)
      exact Session.of_closed attempt

/-- How a further attempt to send ends. -/
theorem retrySend_cases (world : World) (me : TaskId) (site : SiteId) (session : SessionId)
    (offset : Int64) :
    (∃ there, world.session? site session = some there ∧ there.closed = false ∧
      me ∈ there.granted ∧
      world.retrySend me site session offset = (world.onSession site session fun found =>
        (found.fill me offset, []), .accepted)) ∨
    (∃ there, world.session? site session = some there ∧ there.closed = false ∧
      me ∉ there.granted ∧ world.retrySend me site session offset = (world, .full)) ∨
    (∀ there, world.session? site session = some there → there.closed = true) ∧
      world.retrySend me site session offset = (world, .closed) := by
  unfold retrySend
  split
  · rename_i absent
    exact .inr (.inr ⟨fun there found => by simp [absent] at found, rfl⟩)
  · rename_i there found
    split
    · rename_i closed
      refine .inr (.inr ⟨fun other here => ?_, rfl⟩)
      obtain rfl := Option.some.inj (found.symm.trans here)
      exact closed
    · rename_i open_
      split
      · rename_i granted
        exact .inl ⟨there, found, Bool.eq_false_iff.mpr open_, by simpa using granted, rfl⟩
      · rename_i waits
        exact .inr (.inl ⟨there, found, Bool.eq_false_iff.mpr open_, by simpa using waits, rfl⟩)

/-- A task that has ended waits for nothing. -/
theorem dispatch?_finish (world : World) (me : TaskId) (outcome : Outcome) :
    (world.finish me outcome).dispatch? me = none := by
  unfold dispatch?
  rw [getElem?_finish, if_pos rfl]
  cases world.tasks[me]? with
  | none => rfl
  | some found => rfl

/-- What a task waits for is told by its stage. -/
theorem dispatch?_setStage (world : World) (me : TaskId) {stage : Stage}
    (idle : ∀ found : Task, ({ found with stage := stage } : Task).dispatch? = none) :
    (world.setStage me stage).dispatch? me = none := by
  unfold dispatch?
  rw [getElem?_setStage, if_pos rfl]
  cases world.tasks[me]? with
  | none => rfl
  | some found => exact idle found

/-- Only tasks that may send wait for room. -/
theorem dispatch?_of_not_sends {found : Task} (silent : ¬ found.purpose.Sends) :
    found.dispatch? = none := by
  obtain ⟨actor, purpose, stage⟩ := found
  cases purpose with
  | request site request =>
    cases request with
    | consume => exact absurd trivial silent
    | acknowledge => exact absurd trivial silent
    | _ => cases stage <;> rfl
  | deliverAck => exact absurd trivial silent
  | _ => cases stage <;> rfl

/-- A task that has just ended has the outcome it has ended with. -/
theorem outcome?_finish {world : World} {me : TaskId} {outcome result : Outcome}
    (ended : (world.finish me outcome).outcome? me = some result) : result = outcome := by
  unfold outcome? at ended
  rw [getElem?_finish, if_pos rfl] at ended
  cases there : world.tasks[me]? with
  | none => simp [there] at ended
  | some found => simpa [there, eq_comm] using ended

/-- A task that waits has no outcome. -/
theorem outcome?_setStage (world : World) (me : TaskId) {stage : Stage}
    (waits : ∀ outcome, stage ≠ .ended outcome) : (world.setStage me stage).outcome? me = none := by
  unfold outcome?
  rw [getElem?_setStage, if_pos rfl]
  cases world.tasks[me]? with
  | none => rfl
  | some found =>
    cases stage with
    | ended outcome => exact absurd rfl (waits outcome)
    | _ => rfl

/-- A step without strokes on sessions that ends the task. -/
theorem turn_finish {middle : World} (outcome : Outcome)
    (strokes : Strokes me found.purpose False True left middle)
    (alive : ∀ outcome, found.stage ≠ .ended outcome) (idle : found.dispatch? = none)
    (fruitless : ∀ dispatch, ¬ found.purpose.Concludes dispatch .accepted outcome) :
    Turn me found left (middle.finish me outcome) := by
  refine .quiet (strokes.tail (.finish middle outcome)) alive idle
    (dispatch?_finish middle me outcome) ?_
  intro result dispatch ended
  rw [outcome?_finish ended]
  exact fruitless dispatch

/-- A consume request gets its answer: it sends the acknowledgement of what it has fetched, or
gets in line with it, if it was asked to. -/
theorem turn_receiveMessage {middle : World} (actor : Option String) {group topic : String}
    {ack : Ack} (answer : Answer Message)
    (asks : found.purpose = .request site (.consume group topic ack))
    (strokes : Strokes me found.purpose False True left middle)
    (alive : ∀ outcome, found.stage ≠ .ended outcome) (idle : found.dispatch? = none) :
    Turn me found left (middle.receiveMessage me actor site group topic ack answer) := by
  have failure (error : Error) (dispatch : Dispatch) :
      ¬ found.purpose.Concludes dispatch .accepted (.returned (.error error)) := by
    rw [asks]
    cases ack <;> simp [Purpose.Concludes]
  cases answer with
  | dropped => exact turn_finish _ strokes alive idle (failure _)
  | reply result =>
    cases result with
    | error error => exact turn_finish _ strokes alive idle (failure error)
    | ok message =>
      have routed := strokes.tail (.route middle site group topic ack message asks)
      simp only [receiveMessage]
      split
      · rename_i auto
        subst auto
        have begins : found.purpose.Begins left ⟨site, message.session, message.offset, none⟩ := by
          rw [asks]
          exact ⟨rfl, rfl⟩
        obtain ⟨session, there, attempt, same⟩ | ⟨session, there, attempt, same⟩ | ⟨shut, same⟩ :=
          trySend_cases (middle.onGateway site (·.route group topic message)) me site
            message.session message.offset
        · rw [same]
          refine .sent actor [] routed alive idle begins there attempt ?_
          rw [asks]
          exact ⟨rfl, by simp, message, rfl, rfl, rfl⟩
        · rw [same]
          have waits : ({ found with stage := .acknowledging message } : Task).dispatch? =
              some ⟨site, message.session, message.offset, none⟩ := by
            simp [Task.dispatch?, asks]
          exact .queued routed alive idle begins there attempt waits
        · rw [same]
          refine .dropped actor [autoAckDropped group topic message] routed alive idle begins
            shut ?_
          rw [asks]
          exact ⟨rfl, by simp, message, rfl, rfl, rfl⟩
      · rename_i manual
        refine turn_finish _ routed alive idle fun dispatch => ?_
        rw [asks]
        cases ack with
        | auto => exact absurd rfl manual
        | _ => simp [Purpose.Concludes]

/-- The consumer is asked for a message. -/
theorem turn_beginFetch {middle : World} {place : Site} (actor : Option String)
    {group topic : String} {ack : Ack}
    (asks : found.purpose = .request site (.consume group topic ack))
    (here : middle.sites[site]? = some place)
    (strokes : Strokes me found.purpose False True left middle)
    (alive : ∀ outcome, found.stage ≠ .ended outcome) (idle : found.dispatch? = none) :
    Turn me found left (middle.beginFetch me actor site place group topic ack) := by
  unfold beginFetch
  split
  · have served := strokes.tail (.serve middle site _ place _ asks here (.consume group topic ack))
    generalize place.broker.fetch middle.script group topic = result at served ⊢
    obtain ⟨broker, answer, delay⟩ := result
    dsimp only at served ⊢
    split
    · exact turn_receiveMessage actor answer asks served alive idle
    · refine .quiet ((served.tail (.spawn _ none _ ?_)).tail (.setStage _ _ ?_ nofun)) alive
        idle ?_ ?_
      · rw [asks]
        exact rfl
      · rw [asks]
        exact trivial
      · exact dispatch?_setStage _ me fun _ => rfl
      · intro outcome dispatch ended
        rw [outcome?_setStage _ me (by simp)] at ended
        simp at ended
  · refine turn_finish _ strokes alive idle fun dispatch => ?_
    rw [asks]
    cases ack <;> simp [Purpose.Concludes]

/-- A consume request runs for the first time. -/
theorem turn_beginConsume {place : Site} (actor : Option String) {group topic : String} {ack : Ack}
    (asks : found.purpose = .request site (.consume group topic ack))
    (here : left.sites[site]? = some place)
    (alive : ∀ outcome, found.stage ≠ .ended outcome) (idle : found.dispatch? = none) :
    Turn me found left (left.beginConsume me actor site place group topic ack) := by
  unfold beginConsume
  cases ack with
  | none => exact turn_beginFetch actor asks here (.refl left) alive idle
  | auto => exact turn_beginFetch actor asks here (.refl left) alive idle
  | explicit partition offset =>
    refine turn_beginFetch actor asks ?_ ?_ alive idle
    · exact (sites_beginBackgroundAck ..).symm ▸ here
    · rw [asks]
      exact strokes_beginBackgroundAck left place actor trivial

/-- The delivery of an acknowledgement begins. -/
theorem turn_beginDelivery (actor : Option String) {timeout : Nat}
    (begins : found.purpose.Begins left
      ⟨site, session, offset, some (left.now + timeout)⟩)
    (ends : ∀ (world : World) (result : DeliveryEnd), ∃ entries outcome,
      world.endDelivery me actor found.purpose result =
        (world.note actor entries).finish me outcome ∧
      found.purpose.Concludes ⟨site, session, offset, some (left.now + timeout)⟩ result outcome)
    (waits : ({ found with stage := .sending session (left.now + timeout) } : Task).dispatch? =
      some ⟨site, session, offset, some (left.now + timeout)⟩)
    (alive : ∀ outcome, found.stage ≠ .ended outcome) (idle : found.dispatch? = none) :
    Turn me found left (left.beginDelivery me actor found.purpose site session offset timeout) := by
  unfold beginDelivery
  obtain ⟨there, here, attempt, same⟩ | ⟨there, here, attempt, same⟩ | ⟨shut, same⟩ :=
    trySend_cases left me site session offset
  · rw [same]
    obtain ⟨entries, outcome, ended, concludes⟩ := ends
      (left.onSession site session fun found => (found.accept ⟨some me, offset⟩, [])) .accepted
    dsimp only
    rw [ended]
    exact .sent actor entries (.refl left) alive idle begins here attempt concludes
  · rw [same]
    dsimp only
    rw [now_onSession]
    exact .queued (.refl left) alive idle begins here attempt waits
  · rw [same]
    obtain ⟨entries, outcome, ended, concludes⟩ := ends left .closed
    dsimp only
    rw [ended]
    exact .dropped actor entries (.refl left) alive idle begins shut concludes

/-- A standalone acknowledgement runs for the first time. -/
theorem turn_beginAcknowledge {place : Site} (actor : Option String) {group topic : String}
    {ack : Ack} (asks : found.purpose = .request site (.acknowledge group topic ack))
    (here : left.sites[site]? = some place)
    (alive : ∀ outcome, found.stage ≠ .ended outcome) (idle : found.dispatch? = none) :
    Turn me found left (left.beginAcknowledge me actor site place group topic ack) := by
  have failure (error : Error) (dispatch : Dispatch) :
      ¬ found.purpose.Concludes dispatch .accepted (.returned (.error error)) := by
    rw [asks]
    cases ack <;> simp [Purpose.Concludes, acknowledgeResult]
  unfold beginAcknowledge
  split
  · rename_i holds
    split
    · rename_i partition offset
      split
      · exact turn_finish _ (.refl left) alive idle (failure _)
      · rename_i session routed
        rw [← asks]
        refine turn_beginDelivery actor ?_ ?_ ?_ alive idle
        · rw [asks]
          exact ⟨place, here, holds, routed, rfl⟩
        · intro world result
          rw [asks]
          exact ⟨[], _, rfl, rfl, rfl, rfl⟩
        · simp [Task.dispatch?, asks]
    · exact turn_finish _ (.refl left) alive idle (failure _)
  · exact turn_finish _ (.refl left) alive idle (failure _)

/-- A delivery that is timed goes on. -/
theorem turn_continueDelivery (actor : Option String) {due : Nat}
    (pending : found.dispatch? = some ⟨site, session, offset, some due⟩)
    (ends : ∀ (world : World) (result : DeliveryEnd), ∃ entries outcome,
      world.endDelivery me actor found.purpose result =
        (world.note actor entries).finish me outcome ∧
      found.purpose.Concludes ⟨site, session, offset, some due⟩ result outcome) :
    Turn me found left
      (left.continueDelivery me actor found.purpose site session offset due) := by
  unfold continueDelivery
  obtain ⟨there, here, unclosed, granted, same⟩ | ⟨there, here, unclosed, waits, same⟩ |
    ⟨shut, same⟩ := retrySend_cases left me site session offset
  · rw [same]
    obtain ⟨entries, outcome, ended, concludes⟩ := ends
      (left.onSession site session fun found => (found.fill me offset, [])) .accepted
    dsimp only
    rw [ended]
    exact .filled actor entries pending here unclosed granted concludes
  · rw [same]
    dsimp only
    split
    · rename_i late
      obtain ⟨entries, outcome, ended, concludes⟩ :=
        ends (left.giveUpSend me site session) .timedOut
      rw [ended]
      exact .gaveUp actor entries pending here unclosed waits rfl late concludes
    · rename_i early
      refine .stays pending here unclosed waits ?_
      intro other timed
      obtain rfl := Option.some.inj timed
      exact Nat.lt_of_not_le early
  · rw [same]
    obtain ⟨entries, outcome, ended, concludes⟩ := ends left .closed
    dsimp only
    rw [ended]
    exact .refused actor entries pending shut concludes

/-- A consume request goes on with the acknowledgement of what it has fetched. -/
theorem turn_continueAutoAck (actor : Option String) {group topic : String} {message : Message}
    (here : left.tasks[me]? = some found)
    (asks : found.purpose = .request site (.consume group topic .auto))
    (stage : found.stage = .acknowledging message) :
    Turn me found left (left.continueAutoAck me actor site group topic message) := by
  have pending : found.dispatch? = some ⟨site, message.session, message.offset, none⟩ := by
    simp [Task.dispatch?, asks, stage]
  have concludes (result : DeliveryEnd) (inTime : result ≠ .timedOut) :
      found.purpose.Concludes ⟨site, message.session, message.offset, none⟩ result
        (.returned (.ok (.message message))) := by
    rw [asks]
    exact ⟨rfl, inTime, message, rfl, rfl, rfl⟩
  unfold continueAutoAck
  obtain ⟨there, session, unclosed, granted, same⟩ | ⟨there, session, unclosed, waits, same⟩ |
    ⟨shut, same⟩ := retrySend_cases left me site message.session message.offset
  · rw [same]
    exact .filled actor [] pending session unclosed granted (concludes .accepted (by simp))
  · rw [same]
    have still : left.setStage me (.acknowledging message) = left := by
      rw [← stage]
      exact setStage_eq_self left me here
    show Turn me found left (left.setStage me (.acknowledging message))
    rw [still]
    exact .stays pending session unclosed waits (by simp)
  · rw [same]
    exact .refused actor _ pending shut (concludes .closed (by simp))

/-- A task that sends nothing leaves the sessions alone. -/
theorem turn_of_not_sends (there : world.tasks[me]? = some found)
    (fits : found.stage.Fits found.purpose) (silent : ¬ found.purpose.Sends)
    (alive : ∀ outcome, found.stage ≠ .ended outcome) :
    Turn me found { world with ready := world.ready.erase me } (world.resume me) := by
  have strokes := strokes_resume there fits
  rw [eq_false silent] at strokes
  refine .quiet strokes alive (dispatch?_of_not_sends silent) ?_ ?_
  · obtain ⟨stage, after, -⟩ := strokes.taskFrame.kept me found there
    unfold dispatch?
    rw [after]
    exact dispatch?_of_not_sends silent
  · exact fun outcome dispatch _ concludes => silent concludes.sends

/-- What a task does to the sessions when it is resumed. -/
theorem turn_resume (there : world.tasks[me]? = some found)
    (fits : found.stage.Fits found.purpose) :
    Turn me found { world with ready := world.ready.erase me } (world.resume me) := by
  by_cases settled : ∃ outcome, found.stage = .ended outcome
  · obtain ⟨outcome, ended⟩ := settled
    have same : world.resume me = { world with ready := world.ready.erase me } := by
      rw [resume_eq there]
      simp only [proceed, ended]
    rw [same]
    exact .settled ended
  have alive (outcome : Outcome) : found.stage ≠ .ended outcome := fun ended => settled ⟨_, ended⟩
  by_cases silent : ¬ found.purpose.Sends
  · exact turn_of_not_sends there fits silent alive
  rw [resume_eq there]
  generalize left_eq : ({ world with ready := world.ready.erase me } : World) = left
  have here : left.tasks[me]? = some found := by
    rw [← left_eq]
    exact there
  have sends : found.purpose.Sends := Classical.not_not.mp silent
  obtain ⟨actor, purpose, stage⟩ := found
  -- a task that sends is a consume request, a standalone acknowledgement or one handed on
  cases purpose with
  | deliverAck site key offset session parent =>
    cases stage with
    | fresh =>
      simp only [proceed, start]
      split
      · exact turn_finish _ (.refl left) alive rfl fun dispatch => by simp [Purpose.Concludes]
      · rename_i place at_site
        refine turn_beginDelivery actor ⟨place, at_site, rfl⟩ ?_ rfl alive rfl
        exact fun world result => ⟨_, _, rfl, rfl, rfl, rfl, rfl⟩
    | sending routed due =>
      obtain rfl : routed = session := fits
      refine turn_continueDelivery actor rfl ?_
      exact fun world result => ⟨_, _, rfl, rfl, rfl, rfl, rfl⟩
    | ended outcome => exact absurd rfl (alive outcome)
    | _ => exact fits.elim
  | request site request =>
    cases request with
    | consume group topic ack =>
      cases stage with
      | fresh =>
        simp only [proceed, start]
        split
        · refine turn_finish _ (.refl left) alive rfl fun dispatch => ?_
          cases ack <;> simp [Purpose.Concludes]
        · rename_i place at_site
          exact turn_beginConsume actor rfl at_site alive rfl
      | awaitingMessage answer =>
        cases answer with
        | none =>
          have rests : left.dispatch? me = none := by
            unfold World.dispatch?
            rw [here]
            rfl
          have goes_on : left.outcome? me = none := by
            unfold outcome?
            rw [here]
          exact .quiet (.refl left) alive rfl rests fun outcome dispatch ended =>
            absurd (goes_on.symm.trans ended) (by simp)
        | some answer => exact turn_receiveMessage actor answer rfl (.refl left) alive rfl
      | acknowledging message =>
        obtain rfl : ack = .auto := fits
        exact turn_continueAutoAck actor here rfl rfl
      | ended outcome => exact absurd rfl (alive outcome)
      | _ => exact fits.elim
    | acknowledge group topic ack =>
      cases stage with
      | fresh =>
        simp only [proceed, start]
        split
        · refine turn_finish _ (.refl left) alive rfl fun dispatch => ?_
          cases ack <;> simp [Purpose.Concludes]
        · rename_i place at_site
          exact turn_beginAcknowledge actor rfl at_site alive rfl
      | sending session due =>
        obtain ⟨partition, offset, rfl⟩ := fits
        refine turn_continueDelivery actor rfl ?_
        exact fun world result => ⟨[], _, rfl, rfl, rfl, rfl⟩
      | ended outcome => exact absurd rfl (alive outcome)
      | _ => exact fits.elim
    | _ => exact sends.elim
  | _ => exact sends.elim

/-- What cancelling a task does to the sessions: one that waits for room gives up, any other
touches none. -/
theorem cancel_cases (there : world.tasks[me]? = some found)
    (fits : found.stage.Fits found.purpose) :
    (∃ outcome, found.stage = .ended outcome) ∧ world.cancel me = world ∨
    (∀ outcome, found.stage ≠ .ended outcome) ∧ found.dispatch? = none ∧
      (∃ ready, world.cancel me =
        { ({ world with ready := world.ready.erase me } : World).finish me .cancelled with
          ready := ready } ∧ ∀ other, other ∈ world.ready.erase me → other ∈ ready) ∨
    ∃ dispatch, found.dispatch? = some dispatch ∧ world.cancel me =
      (({ world with ready := world.ready.erase me } : World).finish me .cancelled).giveUpSend me
        dispatch.site dispatch.session := by
  have woken (ended : World) (parent : TaskId) : ∃ ready,
      ended.wake parent = { ended with ready := ready } ∧ ∀ other ∈ ended.ready, other ∈ ready := by
    obtain ⟨ready, same⟩ := exists_wake ended parent
    refine ⟨ready, same, fun other there => ?_⟩
    have still := mem_ready_wake ended parent there
    rw [same] at still
    exact still
  obtain ⟨actor, purpose, stage⟩ := found
  unfold cancel
  rw [there]
  dsimp only at fits ⊢
  cases stage with
  | ended outcome => exact .inl ⟨⟨outcome, rfl⟩, rfl⟩
  | acknowledging message =>
    cases purpose with
    | request site request =>
      cases request with
      | consume group topic ack =>
        obtain rfl : ack = .auto := fits
        exact .inr (.inr ⟨_, rfl, rfl⟩)
      | _ => exact fits.elim
    | _ => exact fits.elim
  | sending session due =>
    cases purpose with
    | request site request =>
      cases request with
      | acknowledge group topic ack =>
        obtain ⟨partition, offset, rfl⟩ := fits
        exact .inr (.inr ⟨_, rfl, rfl⟩)
      | _ => exact fits.elim
    | deliverAck site key offset routed parent =>
      exact .inr (.inr ⟨_, rfl, rfl⟩)
    | _ => exact fits.elim
  | _ =>
    refine .inr (.inl ⟨fun outcome => by simp, rfl, ?_⟩)
    cases purpose with
    | stopComponent site component parent =>
      first
        | exact woken _ parent
        | exact ⟨_, rfl, fun _ => id⟩
    | _ => exact ⟨_, rfl, fun _ => id⟩

end World

end ClusterGateway
