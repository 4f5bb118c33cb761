import ClusterGateway.Proofs.Delivery.Ownership

/-!
# Standalone acknowledgements

A standalone acknowledgement is refused at once without a consumer, unless it names a
message, and where no session is recorded for it. Otherwise the session that is recorded
when it begins decides: it accepts the offset, is found closed, or the time is over. At the
very moment at which the time is over what the session does first counts
(`acknowledge_at_deadline`). Main statement: `acknowledge_outcome`.
-/

namespace ClusterGateway.World

/-- The session of a dispatch decides, in a world in which the task runs, how its delivery
ends: the session admits the task, is closed, or does neither when the time is over. -/
def Settles (world : World) (task : TaskId) (dispatch : Dispatch) : DeliveryEnd → Prop
  | .accepted => world.Admits task dispatch.site dispatch.session
  | .closed => ∃ session, world.session? dispatch.site dispatch.session = some session ∧
      session.closed = true
  | .timedOut => (∃ session, world.session? dispatch.site dispatch.session = some session ∧
      session.closed = false) ∧ ¬ world.Admits task dispatch.site dispatch.session ∧
        dispatch.due = some world.now

/-- A call has failed with an error, and no session has accepted anything from it. -/
structure Fails (world : World) (task : TaskId) (error : Error) : Prop where
  ended : world.outcome? task = some (.returned (.error error))
  unsent : ∀ site number, world.sentBy task site number = []

/-- A call waits for room until `deadline`, and no session has accepted anything from it. Time
can pass only while it stands in the line of its session, the session is open, and the
deadline is not over. -/
structure Awaits (world : World) (task : TaskId) (dispatch : Dispatch) (deadline : Nat) :
    Prop where
  pending : world.dispatch? task = some dispatch
  inTime : world.now ≤ deadline
  unsent : ∀ site number, world.sentBy task site number = []
  idle : ∀ moment, world.mayPass moment = true → moment ≤ deadline ∧ ∃ session,
    world.session? dispatch.site dispatch.session = some session ∧ session.closed = false ∧
      task ∈ session.waiting

/-- A call was decided in a world in which it ran, not after `deadline`, and has ended there and
then as it was decided. If it was accepted then its session has accepted exactly one offset
from it, in that step; and no other session has ever accepted anything from it. -/
structure Decided (world last : World) (task : TaskId) (dispatch : Dispatch) (deadline : Nat)
    (result : DeliveryEnd) (outcome : Outcome) : Prop where
  inTime : world.now ≤ deadline
  settles : world.Settles task dispatch result
  unended : world.outcome? task = none
  ends : (world.resume task).outcome? task = some outcome
  ended : last.outcome? task = some outcome
  accepts : ∀ site number, (world.resume task).accepted site number =
    world.accepted site number ++
      if result = .accepted ∧ dispatch.site = site ∧ dispatch.session = number then
        [⟨some task, dispatch.offset⟩]
      else []
  sent : ∀ site number, last.sentBy task site number =
    if result = .accepted ∧ dispatch.site = site ∧ dispatch.session = number then
      [⟨some task, dispatch.offset⟩]
    else []

variable {start before world last : World} {task : TaskId} {found : Task} {site : SiteId}
  {place : Site} {group topic : String} {partition : Int32} {offset : Int64}
  {number : SessionId} {dispatch : Dispatch} {moves : List Move}

/-- The session that a call waits for decides as things stand when the task runs. -/
theorem settles_of_decides (waits : world.Waits) (pending : world.dispatch? task = some dispatch)
    {session : Session} {result : DeliveryEnd}
    (there : world.session? dispatch.site dispatch.session = some session)
    (decides : session.Decides task (dispatch.due = some world.now) result) :
    world.Settles task dispatch result := by
  cases result with
  | accepted => exact admits_of_granted there decides.1 decides.2
  | closed => exact ⟨session, there, decides⟩
  | timedOut =>
    obtain ⟨unclosed, ungranted, late⟩ := decides
    refine ⟨⟨session, there, unclosed⟩, ?_, late⟩
    obtain ⟨inside, same, keeps⟩ := (waits.placed task).place dispatch pending
    obtain rfl := Option.some.inj (there.symm.trans same)
    exact not_admits_of_waiting there (keeps.waiting unclosed ungranted) ungranted

/-- Results of a standalone acknowledgement that are the same. -/
theorem acknowledgeResult_accepted {result : DeliveryEnd}
    (same : acknowledgeResult group topic partition offset result =
      acknowledgeResult group topic partition offset .accepted) : result = .accepted := by
  cases result with
  | accepted => rfl
  | closed => simp [acknowledgeResult] at same
  | timedOut => simp [acknowledgeResult] at same

/-- What the step in which a call ends adds to what sessions have accepted. -/
theorem decided_of_step (waits : world.Waits) (laned : world.Laned) (unsent : world.Unsent)
    (free : world.isOpen (.resume task) = true) (there : world.tasks[task]? = some found)
    (asks : found.purpose = .request site (.acknowledge group topic (.explicit partition offset)))
    (alive : ∀ outcome, found.stage ≠ .ended outcome) {deadline : Nat}
    (inTime : world.now ≤ deadline) {due : Option Nat}
    (owned : world.Owns site ⟨group, topic, partition⟩ number) {result : DeliveryEnd}
    (settles : world.Settles task ⟨site, number, offset, due⟩ result)
    (ended : (world.resume task).outcome? task =
      some (.returned (acknowledgeResult group topic partition offset result)))
    (origin : ∀ other, Delivers task other world (world.resume task) →
      other = ⟨site, number, offset, due⟩)
    (reaches : (world.resume task).Reaches last) :
    Decided world last task ⟨site, number, offset, due⟩ deadline result
      (.returned (acknowledgeResult group topic partition offset result)) := by
  have after : (world.resume task).Waits := waits.apply free
  have accepts (place : SiteId) (other : SessionId) : (world.resume task).accepted place other =
      world.accepted place other ++ if result = .accepted ∧ site = place ∧ number = other then
        [⟨some task, offset⟩] else [] := by
    by_cases accepted : result = .accepted
    · subst accepted
      have concludes : found.purpose.Concludes ⟨site, number, offset, due⟩ .accepted
          (.returned (acknowledgeResult group topic partition offset .accepted)) := by
        rw [asks]
        exact ⟨rfl, rfl, rfl⟩
      obtain ⟨other, delivers, -⟩ := laned.delivers waits free there
        (outcome?_of_alive there alive) ended concludes
        ((waits.wider (.resume task)).owns owned) settles
      obtain rfl := origin other delivers
      simpa only [true_and] using delivers.accepts place _
    · simp only [accepted, false_and, if_false, List.append_nil]
      obtain ⟨me, dispatch, resumed, delivers⟩ | ⟨same, -⟩ := accepted_apply waits (.resume task)
      · obtain rfl : task = me := Move.resume.inj resumed
        obtain ⟨running, outcome, here, concludes, told⟩ := delivers.concludes
        obtain rfl := Option.some.inj (there.symm.trans here)
        rw [asks] at concludes
        obtain ⟨-, -, rfl⟩ := concludes
        have same := Option.some.inj (ended.symm.trans told)
        exact absurd (acknowledgeResult_accepted (Outcome.returned.inj same)) accepted
      · exact same place other
  refine ⟨inTime, settles, outcome?_of_alive there alive, ended,
    after.sound.outcome?_reaches reaches ended, accepts, ?_⟩
  intro place other
  have before : world.sentBy task place other = [] :=
    unsent task place other (outcome?_of_alive there alive)
  rw [after.sentBy_reaches reaches ended place other]
  unfold sentBy at before ⊢
  rw [accepts, List.filter_append, before, List.nil_append]
  split
  · simp
  · rfl

/-- A call that waits is decided by its session as things stand when it runs. -/
theorem decided_of_pending (waits : world.Waits) (laned : world.Laned) (unsent : world.Unsent)
    (free : world.isOpen (.resume task) = true) {deadline : Nat}
    (pending : world.dispatch? task = some ⟨site, number, offset, some deadline⟩)
    (there : world.tasks[task]? = some found)
    (asks : found.purpose = .request site (.acknowledge group topic (.explicit partition offset)))
    (owned : world.Owns site ⟨group, topic, partition⟩ number) {session : Session}
    (here : world.session? site number = some session) {result : DeliveryEnd}
    (decides : session.Decides task (some deadline = some world.now) result)
    (ended : (world.resume task).outcome? task =
      some (.returned (acknowledgeResult group topic partition offset result)))
    (reaches : (world.resume task).Reaches last) :
    Decided world last task ⟨site, number, offset, some deadline⟩ deadline result
      (.returned (acknowledgeResult group topic partition offset result)) := by
  have inTime := ((waits.placed task).timed _ deadline pending rfl).1
  have settles := settles_of_decides waits pending here decides
  have alive (outcome : Outcome) : found.stage ≠ .ended outcome := by
    obtain ⟨running, mine, sending⟩ := exists_of_dispatch? pending
    obtain rfl := Option.some.inj (there.symm.trans mine)
    exact alive_of_dispatch? sending outcome
  refine decided_of_step waits laned unsent free there asks alive inTime owned settles ended ?_
    reaches
  intro other delivers
  obtain same | ⟨idle, -⟩ := delivers.origin
  · exact (Option.some.inj (pending.symm.trans same)).symm
  · exact absurd (idle.symm.trans pending) (by simp)

/-- A call that waits and is cancelled has sent nothing. -/
theorem unsent_of_cancel (waits : world.Waits) (unsent : world.Unsent)
    (free : world.isOpen (.cancel task) = true) (pending : world.dispatch? task = some dispatch)
    (ended : (world.apply (.cancel task)).outcome? task = some .cancelled)
    (reaches : (world.apply (.cancel task)).Reaches last) (site : SiteId) (number : SessionId) :
    last.sentBy task site number = [] := by
  rw [(waits.apply free).sentBy_reaches reaches ended site number]
  obtain ⟨me, other, resumed, -⟩ | ⟨same, -⟩ := accepted_apply waits (.cancel task)
  · simp at resumed
  · unfold sentBy
    rw [same]
    obtain ⟨running, mine, sending⟩ := exists_of_dispatch? pending
    exact unsent task site number (outcome?_of_alive mine (alive_of_dispatch? sending))

/-- A call that is refused when it begins has sent nothing. -/
theorem fails_of_refused (waits : before.Waits) (unsent : before.Unsent)
    (free : before.isOpen (.resume task) = true) (there : before.tasks[task]? = some found)
    (alive : ∀ outcome, found.stage ≠ .ended outcome) {error : Error}
    (refused : before.resume task =
      ({ before with ready := before.ready.erase task } : World).conclude task (.error error))
    (reaches : (before.resume task).Reaches last) : last.Fails task error := by
  have after : (before.resume task).Waits := waits.apply free
  have ended : (before.resume task).outcome? task = some (.returned (.error error)) := by
    rw [refused]
    exact outcome?_conclude there none [] _
  refine ⟨after.sound.outcome?_reaches reaches ended, fun site number => ?_⟩
  rw [after.sentBy_reaches reaches ended site number, refused]
  exact unsent task site number (outcome?_of_alive there alive)

/-- A call that has found its session full waits in its line. -/
theorem awaits_of_pending (waits : last.Waits) (unsent : last.Unsent) {deadline : Nat}
    (pending : last.dispatch? task = some dispatch) (timed : dispatch.due = some deadline) :
    last.Awaits task dispatch deadline := by
  obtain ⟨inTime, set⟩ := (waits.placed task).timed dispatch deadline pending timed
  refine ⟨pending, inTime, fun site number => ?_, ?_⟩
  · obtain ⟨found, there, waiting⟩ := exists_of_dispatch? pending
    exact unsent task site number (outcome?_of_alive there (alive_of_dispatch? waiting))
  · intro moment passes
    simp only [mayPass, Bool.and_eq_true, List.isEmpty_iff, List.all_eq_true,
      decide_eq_true_eq] at passes
    obtain ⟨idle, early⟩ := passes
    rw [idle] at set
    refine ⟨?_, ?_⟩
    · obtain timer | ⟨-, woken⟩ := set
      · exact early _ timer
      · exact absurd woken List.not_mem_nil
    · obtain ⟨session, there, keeps⟩ := (waits.placed task).place dispatch pending
      rw [idle] at keeps
      obtain ⟨unclosed, inLine⟩ := keeps.asleep List.not_mem_nil
      exact ⟨session, there, unclosed, inLine⟩

/-- The first step of a standalone acknowledgement. -/
theorem resume_acknowledge {ack : Ack} (there : before.tasks[task]? = some found)
    (fresh : found.stage = .fresh)
    (asks : found.purpose = .request site (.acknowledge group topic ack))
    (here : before.sites[site]? = some place) : before.resume task =
      ({ before with ready := before.ready.erase task } : World).beginAcknowledge task
        found.actor site place group topic ack := by
  have at_site : ({ before with ready := before.ready.erase task } : World).sites[site]? =
    some place := here
  rw [resume_eq there]
  simp only [proceed, fresh, asks, World.start, at_site]

/-- How a call whose session is recorded begins: it gets in line, or is decided at once. -/
theorem begins_acknowledge (waits : before.Waits) (laned : before.Laned)
    (there : before.tasks[task]? = some found) (fresh : found.stage = .fresh)
    (asks : found.purpose = .request site (.acknowledge group topic (.explicit partition offset)))
    (here : before.sites[site]? = some place) (holds : place.gateway.holds .consumer = true)
    (routed : place.gateway.routes.get? ⟨group, topic, partition⟩ = some number)
    (dispatch_eq : dispatch =
      ⟨site, number, offset, some (before.now + place.gateway.deliveryTimeout)⟩) :
    (before.resume task).dispatch? task = some dispatch ∨ ∃ result,
      before.Settles task dispatch result ∧ (before.resume task).outcome? task =
        some (.returned (acknowledgeResult group topic partition offset result)) := by
  subst dispatch_eq
  obtain ⟨session, exist⟩ := laned.exists_session
    ⟨place, here, laned.routes site place _ number here routed⟩
  have idle : before.dispatch? task = none := by
    simp [dispatch?, there, Task.dispatch?, fresh]
  have out : ¬ session.InLine task := (waits.placed task).away idle exist
  generalize left_eq : ({ before with ready := before.ready.erase task } : World) = left
  have same : before.resume task = left.beginDelivery task found.actor found.purpose site number
      offset place.gateway.deliveryTimeout := by
    rw [resume_acknowledge there fresh asks here, left_eq]
    simp only [asks, beginAcknowledge, holds, if_true, routed]
  have mine : left.tasks[task]? = some found := by rw [← left_eq]; exact there
  have at_session : left.session? site number = some session := by rw [← left_eq]; exact exist
  have now : left.now = before.now := by rw [← left_eq]
  rw [same, asks, beginDelivery]
  obtain ⟨found_session, at_place, attempt, tried⟩ | ⟨found_session, at_place, attempt, tried⟩ |
    ⟨shut, tried⟩ := trySend_cases left task site number offset
  · obtain rfl := Option.some.inj (at_session.symm.trans at_place)
    obtain ⟨unclosed, room, -⟩ := (waits.healthy site number session exist).of_accepted attempt
    right
    refine ⟨.accepted, ?_, ?_⟩
    · show before.Admits task site number
      simp only [Admits, exist]
      exact ⟨unclosed, .inr ⟨out, room⟩⟩
    · rw [tried]
      exact outcome?_conclude (there_onSession _ _ _ mine) none [] _
  · left
    rw [tried]
    dsimp only
    rw [now_onSession, ← now]
    have waiting : ({ found with
        stage := .sending number (left.now + place.gateway.deliveryTimeout) } : Task).dispatch? =
          some ⟨site, number, offset, some (left.now + place.gateway.deliveryTimeout)⟩ := by
      simp [Task.dispatch?, asks]
    exact dispatch?_queued mine waiting
  · right
    refine ⟨.closed, ⟨session, exist, shut session at_session⟩, ?_⟩
    rw [tried]
    exact outcome?_conclude mine none [] _

/-- A call whose session is recorded when it begins waits, has been decided by that session, or
was cancelled. -/
theorem course_of_routed (opened : start.Opened) (reaches : start.Reaches before)
    (free : before.isOpen (.resume task) = true) (there : before.tasks[task]? = some found)
    (fresh : found.stage = .fresh)
    (asks : found.purpose = .request site (.acknowledge group topic (.explicit partition offset)))
    (here : before.sites[site]? = some place) (holds : place.gateway.holds .consumer = true)
    (routed : place.gateway.routes.get? ⟨group, topic, partition⟩ = some number)
    (dispatch_eq : dispatch =
      ⟨site, number, offset, some (before.now + place.gateway.deliveryTimeout)⟩)
    (played : (before.resume task).play? moves = some last) :
    last.Awaits task dispatch (before.now + place.gateway.deliveryTimeout) ∨
    (∃ early late world result, Move.resume task :: moves = early ++ .resume task :: late ∧
      before.play? early = some world ∧
      Decided world last task dispatch (before.now + place.gateway.deliveryTimeout) result
        (.returned (acknowledgeResult group topic partition offset result))) ∨
    Move.cancel task ∈ moves ∧ last.outcome? task = some .cancelled ∧
      ∀ site number, last.sentBy task site number = [] := by
  have waits : before.Waits := opened.waits.reaches reaches
  have laned : before.Laned := opened.laned.reaches opened.waits reaches
  have owned : before.Owns site ⟨group, topic, partition⟩ number :=
    ⟨place, here, laned.routes site place _ number here routed⟩
  have idle : before.dispatch? task = none := by
    simp [dispatch?, there, Task.dispatch?, fresh]
  have alive (outcome : Outcome) : found.stage ≠ .ended outcome := by simp [fresh]
  have onward : before.Reaches (before.resume task) := Reaches.move free
  have resumed : (before.resume task).Waits := waits.apply free
  obtain pending | ⟨result, settles, ended⟩ :=
    begins_acknowledge waits laned there fresh asks here holds routed dispatch_eq
  · obtain still | ⟨world, move, outcome, during⟩ := course resumed pending played
    · have unsent := opened.unsent ((reaches.trans onward).trans ⟨moves, played⟩)
      have later : last.Waits := resumed.reaches ⟨moves, played⟩
      exact .inl (awaits_of_pending later unsent still (by rw [dispatch_eq]))
    · right
      obtain ⟨⟨early, late, rfl, first, after⟩, openly, waiting, ends, ended, settled⟩ := during
      have later : (before.resume task).Reaches world := ⟨early, first⟩
      have waits' : world.Waits := resumed.reaches later
      have unsent : world.Unsent := opened.unsent ((reaches.trans onward).trans later)
      cases ends with
      | cancelled =>
        exact .inr ⟨by simp, settled, unsent_of_cancel waits' unsent openly waiting ended
          ⟨late, after⟩⟩
      | @decided running session result outcome mine at_place decides concludes =>
        left
        obtain ⟨stage, kept⟩ := waits.sound.purpose_reaches (onward.trans later) there
        obtain rfl := Option.some.inj (kept.symm.trans mine)
        rw [asks] at concludes
        obtain ⟨-, -, rfl⟩ := concludes
        refine ⟨.resume task :: early, late, world, result, rfl, ?_, ?_⟩
        · simp only [play?, free, if_true]
          exact first
        · subst dispatch_eq
          exact decided_of_pending waits' (laned.reaches waits (onward.trans later)) unsent openly
            waiting mine asks (waits.owns_reaches (onward.trans later) owned) at_place decides ended
            ⟨late, after⟩
  · refine .inr (.inl ⟨[], moves, before, result, rfl, rfl, ?_⟩)
    subst dispatch_eq
    refine decided_of_step waits laned (opened.unsent reaches) free there asks alive
      (Nat.le_add_right _ _) owned settles ended ?_ ⟨moves, played⟩
    intro other delivers
    obtain waiting | ⟨-, running, same, begins⟩ := delivers.origin
    · exact absurd (idle.symm.trans waiting) (by simp)
    · obtain rfl := Option.some.inj (there.symm.trans same)
      rw [asks] at begins
      obtain ⟨at_site, at_place, -, recorded, begun⟩ := begins
      obtain rfl := Option.some.inj (here.symm.trans at_place)
      rw [begun, Option.some.inj (routed.symm.trans recorded)]

/-- A call that has returned without an error has been accepted, once, by the session that was
recorded when it began. -/
theorem sentBy_of_ok (opened : start.Opened) (reaches : start.Reaches before)
    (free : before.isOpen (.resume task) = true) (there : before.tasks[task]? = some found)
    (fresh : found.stage = .fresh)
    (asks : found.purpose = .request site (.acknowledge group topic (.explicit partition offset)))
    (here : before.sites[site]? = some place)
    (routed : place.gateway.routes.get? ⟨group, topic, partition⟩ = some number)
    (played : (before.resume task).play? moves = some last)
    (ok : last.outcome? task = some (.returned (.ok .done))) :
    last.sentBy task site number = [⟨some task, offset⟩] := by
  cases holds : place.gateway.holds .consumer with
  | false =>
    have alive (outcome : Outcome) : found.stage ≠ .ended outcome := by simp [fresh]
    have fails : last.Fails task .unavailable := by
      refine fails_of_refused (opened.waits.reaches reaches) (opened.unsent reaches) free there
        alive ?_ ⟨moves, played⟩
      rw [resume_acknowledge there fresh asks here]
      simp [beginAcknowledge, holds]
    exact absurd (fails.ended.symm.trans ok) (by simp)
  | true =>
    obtain awaits | ⟨early, late, world, result, -, -, decided⟩ | ⟨-, cancelled, -⟩ :=
      course_of_routed opened reaches free there fresh asks here holds routed rfl played
    · exact absurd ((dispatch?_of_outcome? ok).symm.trans awaits.pending) (by simp)
    · have same := Outcome.returned.inj (Option.some.inj (decided.ended.symm.trans ok))
      obtain rfl : result = .accepted := acknowledgeResult_accepted same
      simpa using decided.sent site number
    · exact absurd (cancelled.symm.trans ok) (by simp)

/-- A standalone acknowledgement is refused without a consumer, then unless it names a message,
then without a session recorded for its key. With one it waits, at most until the timeout of
the gateway is over and in line for that session as time passes; or that session has decided
it, in a step of the call, not after the timeout: the call has succeeded when it was accepted,
it has failed as without a session when that was closed, and with a timeout when neither was so
just as the time was over; or the caller has cancelled it. What was refused, closed, timed out
or cancelled has not sent anything. -/
theorem acknowledge_outcome (opened : start.Opened) (reaches : start.Reaches before)
    (free : before.isOpen (.resume task) = true) (there : before.tasks[task]? = some found)
    (fresh : found.stage = .fresh) {ack : Ack}
    (asks : found.purpose = .request site (.acknowledge group topic ack))
    (here : before.sites[site]? = some place)
    (played : (before.resume task).play? moves = some last) :
    (place.gateway.holds .consumer = false → last.Fails task .unavailable) ∧
    (place.gateway.holds .consumer = true →
      ((∀ partition offset, ack ≠ .explicit partition offset) → last.Fails task
        (.invalidArgument (ack.text ++ " cannot be delivered on its own"))) ∧
      ∀ partition offset, ack = .explicit partition offset →
        (place.gateway.routes.get? ⟨group, topic, partition⟩ = none →
          last.Fails task (.sessionMissing group topic partition)) ∧
        ∀ number deadline dispatch,
          place.gateway.routes.get? ⟨group, topic, partition⟩ = some number →
          deadline = before.now + place.gateway.deliveryTimeout →
          dispatch = ⟨site, number, offset, some deadline⟩ →
            last.Awaits task dispatch deadline ∨
            (∃ early late world, Move.resume task :: moves = early ++ .resume task :: late ∧
              before.play? early = some world ∧
              (Decided world last task dispatch deadline .accepted (.returned (.ok .done)) ∨
                Decided world last task dispatch deadline .closed
                  (.returned (.error (.sessionMissing group topic partition))) ∨
                Decided world last task dispatch deadline .timedOut
                  (.returned (.error (.ackTimeout group topic partition offset))))) ∨
            Move.cancel task ∈ moves ∧ last.outcome? task = some .cancelled ∧
              ∀ site number, last.sentBy task site number = []) := by
  have waits : before.Waits := opened.waits.reaches reaches
  have unsent : before.Unsent := opened.unsent reaches
  have alive (outcome : Outcome) : found.stage ≠ .ended outcome := by simp [fresh]
  have begins := resume_acknowledge there fresh asks here
  refine ⟨fun without => ?_, fun holds => ⟨fun vague => ?_, ?_⟩⟩
  · refine fails_of_refused waits unsent free there alive ?_ ⟨moves, played⟩
    rw [begins]
    simp [beginAcknowledge, without]
  · refine fails_of_refused waits unsent free there alive ?_ ⟨moves, played⟩
    rw [begins]
    cases ack with
    | explicit partition offset => exact absurd rfl (vague partition offset)
    | _ => simp only [beginAcknowledge, holds, if_true]
  · rintro partition offset rfl
    refine ⟨fun unrouted => ?_, ?_⟩
    · refine fails_of_refused waits unsent free there alive ?_ ⟨moves, played⟩
      rw [begins]
      simp only [beginAcknowledge, holds, if_true, unrouted]
    · rintro number deadline dispatch routed rfl dispatch_eq
      obtain awaits | ⟨early, late, world, result, split, plays, decided⟩ | cancelled :=
        course_of_routed opened reaches free there fresh asks here holds routed dispatch_eq played
      · exact .inl awaits
      · refine .inr (.inl ⟨early, late, world, split, plays, ?_⟩)
        cases result with
        | accepted => exact .inl decided
        | closed => exact .inr (.inl decided)
        | timedOut => exact .inr (.inr decided)
      · exact .inr (.inr cancelled)

/-- A message is fetched and acknowledged, and somebody acknowledges it a second time. -/
def acknowledgedTwice : List Move :=
  [.enqueue 0 "g" "t" [⟨.message none 0 0 2 none [97], 0⟩],
    .request 0 (.consume "g" "t" .auto), .resume 0,
    .request 0 (.acknowledge "g" "t" (.explicit 0 0))]

/-- The second acknowledgement is about to run at the time 0, with a timeout of a second and a
session that is recorded, and full. -/
theorem begins_acknowledgedTwice : ∃ before place,
    narrowGateway.play? acknowledgedTwice = some before ∧
    before.sites[0]? = some place ∧ before.now = 0 ∧ before.ready = [1] ∧
    before.tasks[1]? = some ⟨none, .request 0 (.acknowledge "g" "t" (.explicit 0 0)), .fresh⟩ ∧
    place.gateway.holds .consumer = true ∧ place.gateway.deliveryTimeout = 1000 ∧
    place.gateway.routes.get? ⟨"g", "t", 0⟩ = some 0 := by
  have runs : (narrowGateway.play? acknowledgedTwice).bind (fun before =>
      before.sites[0]?.map fun place => (before.now, before.ready, before.tasks[1]?,
        place.gateway.holds .consumer, place.gateway.deliveryTimeout,
        place.gateway.routes.get? ⟨"g", "t", 0⟩)) =
      some (0, [1], some ⟨none, .request 0 (.acknowledge "g" "t" (.explicit 0 0)), .fresh⟩, true,
        1000, some 0) := rfl
  obtain ⟨before, played, same⟩ := Option.bind_eq_some_iff.mp runs
  obtain ⟨place, here, told⟩ := Option.map_eq_some_iff.mp same
  simp only [Prod.mk.injEq] at told
  exact ⟨before, place, played, here, told⟩

/-- Nobody reads for a second: the second acknowledgement fails then with a timeout. -/
theorem acknowledge_outcome_unread : ∃ (before : World) (place : Site) (last : World),
    narrowGateway.play? acknowledgedTwice = some before ∧ before.now = 0 ∧
    before.sites[0]? = some place ∧ place.gateway.routes.get? ⟨"g", "t", 0⟩ = some 0 ∧
    (before.resume 1).play? [.pass 1000, .resume 1] = some last ∧
    ∃ early late world, [.resume 1, .pass 1000, .resume 1] = early ++ Move.resume 1 :: late ∧
      before.play? early = some world ∧ world.now = 1000 ∧
      Decided world last 1 ⟨0, 0, 0, some 1000⟩ 1000 .timedOut
        (.returned (.error (.ackTimeout "g" "t" 0 0))) := by
  obtain ⟨before, place, played, here, clock, ready, there, holds, timeout, routed⟩ :=
    begins_acknowledgedTwice
  have ends : (narrowGateway.play? (acknowledgedTwice ++
      [.resume 1, .pass 1000, .resume 1])).bind (·.tasks[1]?) =
        some ⟨none, .request 0 (.acknowledge "g" "t" (.explicit 0 0)),
          .ended (.returned (.error (.ackTimeout "g" "t" 0 0)))⟩ := rfl
  rw [play?_append, played, Option.bind_some] at ends
  obtain ⟨last, plays, found⟩ := Option.bind_eq_some_iff.mp ends
  have overdue : last.outcome? 1 = some (.returned (.error (.ackTimeout "g" "t" 0 0))) :=
    outcome?_eq_some_iff.mpr ⟨_, found, rfl⟩
  have free : before.isOpen (.resume 1) = true := by simp [isOpen, ready]
  have rest : (before.resume 1).play? [.pass 1000, .resume 1] = some last := by
    rwa [play?, if_pos free] at plays
  refine ⟨before, place, last, played, clock, here, routed, rest, ?_⟩
  have outcome :=
    (acknowledge_outcome opened_narrowGateway ⟨_, played⟩ free there rfl rfl here rest).2 holds
  obtain awaits | ⟨early, late, world, split, first, ends⟩ | ⟨-, cancelled, -⟩ :=
    (outcome.2 0 0 rfl).2 0 1000 ⟨0, 0, 0, some 1000⟩ routed (by rw [clock, timeout]) rfl
  · exact absurd ((dispatch?_of_outcome? overdue).symm.trans awaits.pending) (by simp)
  · refine ⟨early, late, world, split, first, ?_⟩
    obtain accepted | closed | timedOut := ends
    · exact absurd (accepted.ended.symm.trans overdue) (by simp)
    · exact absurd (closed.ended.symm.trans overdue) (by simp)
    · exact ⟨(Option.some.inj timedOut.settles.2.2).symm, timedOut⟩
  · exact absurd (cancelled.symm.trans overdue) (by simp)

/-- At the very moment at which the timeout is over the second acknowledgement need not fail with
a timeout: it is accepted if the session is read before the call runs, it fails as without a
session if that is closed before, and it has no result if its caller has given it up. -/
theorem acknowledge_at_deadline : ∃ (before : World) (place : Site),
    narrowGateway.play? acknowledgedTwice = some before ∧ before.now = 0 ∧
    before.tasks[1]? = some ⟨none, .request 0 (.acknowledge "g" "t" (.explicit 0 0)), .fresh⟩ ∧
    before.sites[0]? = some place ∧ place.gateway.holds .consumer = true ∧
    place.gateway.deliveryTimeout = 1000 ∧
    place.gateway.routes.get? ⟨"g", "t", 0⟩ = some 0 ∧
    (∃ last, before.play? [.resume 1, .pass 1000, .read 0 0 1, .resume 1] = some last ∧
      last.now = 1000 ∧ last.outcome? 1 = some (.returned (.ok .done)) ∧
      last.sentBy 1 0 0 = [⟨some 1, 0⟩]) ∧
    (∃ last, before.play? [.resume 1, .pass 1000, .close 0 0, .resume 1] = some last ∧
      last.now = 1000 ∧ last.outcome? 1 = some (.returned (.error (.sessionMissing "g" "t" 0)))) ∧
    ∃ last, before.play? [.resume 1, .cancel 1, .pass 1000] = some last ∧
      last.now = 1000 ∧ last.outcome? 1 = some .cancelled := by
  obtain ⟨before, place, played, here, clock, -, there, holds, timeout, routed⟩ :=
    begins_acknowledgedTwice
  have goes (moves : List Move) (stage : Stage) (sent : List Acknowledged)
      (ends : (narrowGateway.play? (acknowledgedTwice ++ moves)).map (fun last =>
        (last.now, last.tasks[1]?, last.sentBy 1 0 0)) = some (1000,
          some ⟨none, .request 0 (.acknowledge "g" "t" (.explicit 0 0)), stage⟩, sent)) :
      ∃ last, before.play? moves = some last ∧ last.now = 1000 ∧
        last.tasks[1]? = some ⟨none, .request 0 (.acknowledge "g" "t" (.explicit 0 0)), stage⟩ ∧
        last.sentBy 1 0 0 = sent := by
    rw [play?_append, played, Option.bind_some] at ends
    obtain ⟨last, plays, same⟩ := Option.map_eq_some_iff.mp ends
    simp only [Prod.mk.injEq] at same
    exact ⟨last, plays, same⟩
  refine ⟨before, place, played, clock, there, here, holds, timeout, routed, ?_, ?_, ?_⟩
  · obtain ⟨last, plays, now, found, sent⟩ := goes [.resume 1, .pass 1000, .read 0 0 1, .resume 1]
      (.ended (.returned (.ok .done))) [⟨some 1, 0⟩] rfl
    exact ⟨last, plays, now, outcome?_eq_some_iff.mpr ⟨_, found, rfl⟩, sent⟩
  · obtain ⟨last, plays, now, found, -⟩ := goes [.resume 1, .pass 1000, .close 0 0, .resume 1]
      (.ended (.returned (.error (.sessionMissing "g" "t" 0)))) [] rfl
    exact ⟨last, plays, now, outcome?_eq_some_iff.mpr ⟨_, found, rfl⟩⟩
  · obtain ⟨last, plays, now, found, -⟩ := goes [.resume 1, .cancel 1, .pass 1000]
      (.ended .cancelled) [] rfl
    exact ⟨last, plays, now, outcome?_eq_some_iff.mpr ⟨_, found, rfl⟩⟩

end ClusterGateway.World
