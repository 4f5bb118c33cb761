import ClusterGateway.Proofs.Delivery.Waiting

/-!
# What sessions accept

A session accepts an offset only in the step in which the task that sends it ends. `Admits`
says whether a session would take an offset from a task as things stand; where a task ends
with its delivery, the session has accepted it exactly if it admitted the task
(`accepted_resume`). No other move adds to what sessions have accepted (`accepted_apply`).
-/

namespace ClusterGateway.World

/-- Everything that a session has ever accepted, the oldest first. -/
def accepted (world : World) (site : SiteId) (number : SessionId) : List Acknowledged :=
  match world.session? site number with
  | some session => session.accepted
  | none => []

/-- The session of a number takes an offset from a task: it is open, and the task was granted
room there, or there is room for a task that is not in line. A session that is not there yet
is new when the task gets to it. -/
def Admits (world : World) (task : TaskId) (site : SiteId) (number : SessionId) : Prop :=
  match world.session? site number with
  | some session => session.closed = false ∧
      (task ∈ session.granted ∨ ¬ session.InLine task ∧ session.room ≠ 0)
  | none => world.script.sessionBuffer ≠ 0

variable {world before after : World} {me task : TaskId} {found : Task} {site : SiteId}
  {number : SessionId} {session : Session} {dispatch : Dispatch}

/-- A session that is there. -/
theorem accepted_of_session? (there : world.session? site number = some session) :
    world.accepted site number = session.accepted := by
  simp only [accepted, there]

/-- Sessions that are the same have accepted the same. -/
theorem accepted_congr (same : after.session? site number = before.session? site number) :
    after.accepted site number = before.accepted site number := by
  simp only [accepted, same]

/-- A task that ends after a note to the log accepts nothing. -/
theorem accepted_conclude (world : World) (actor : Option String) (entries : List LogEntry)
    (me : TaskId) (outcome : Outcome) (site : SiteId) (number : SessionId) :
    ((world.note actor entries).finish me outcome).accepted site number =
      world.accepted site number := rfl

/-- A change that accepts nothing. -/
theorem accepted_onSession (change : Session → Session × List TaskId)
    (same : ∀ session, (change session).1.accepted = session.accepted) (place : SiteId)
    (other : SessionId) :
    (world.onSession site number change).accepted place other = world.accepted place other := by
  by_cases here : site = place ∧ number = other
  · obtain ⟨rfl, rfl⟩ := here
    cases there : world.session? site number with
    | none =>
      have same : world.onSession site number change = world := by simp only [onSession, there]
      rw [same]
    | some session =>
      rw [accepted_of_session? (session?_onSession_self world site there change),
        accepted_of_session? there, same]
  · exact accepted_congr (session?_onSession_of_ne world site change here)

/-- A change that accepts one offset. -/
theorem accepted_onSession_append (change : Session → Session × List TaskId)
    {item : Acknowledged} (there : world.session? site number = some session)
    (takes : (change session).1.accepted = session.accepted ++ [item]) (place : SiteId)
    (other : SessionId) :
    (world.onSession site number change).accepted place other =
      world.accepted place other ++ if site = place ∧ number = other then [item] else [] := by
  by_cases here : site = place ∧ number = other
  · obtain ⟨rfl, rfl⟩ := here
    rw [accepted_of_session? (session?_onSession_self world site there change),
      accepted_of_session? there, takes, if_pos ⟨rfl, rfl⟩]
  · rw [if_neg here, List.append_nil]
    exact accepted_congr (session?_onSession_of_ne world site change here)

/-- A step that leaves the sessions alone accepts nothing. -/
theorem accepted_strokes {purpose : Purpose} {hands : Prop}
    (strokes : Strokes me purpose False hands before after) (site : SiteId)
    (number : SessionId) : after.accepted site number = before.accepted site number := by
  obtain same | ⟨absent, new⟩ := strokes.session?_cases site number
  · exact accepted_congr same
  · rw [accepted_of_session? new]
    simp only [accepted, absent]
    rfl

/-- A session admits a task that it has granted room. -/
theorem admits_of_granted (there : world.session? site number = some session)
    (unclosed : session.closed = false) (granted : task ∈ session.granted) :
    world.Admits task site number := by
  simp only [Admits, there]
  exact ⟨unclosed, .inl granted⟩

/-- A closed session admits nobody. -/
theorem not_admits_of_closed (there : world.session? site number = some session)
    (closed : session.closed = true) : ¬ world.Admits task site number := by
  simp only [Admits, there]
  rintro ⟨unclosed, -⟩
  exact absurd (unclosed.symm.trans closed) (by simp)

/-- A session does not admit a task that goes on to wait in its line. -/
theorem not_admits_of_waiting (there : world.session? site number = some session)
    (waits : task ∈ session.waiting) (ungranted : task ∉ session.granted) :
    ¬ world.Admits task site number := by
  simp only [Admits, there]
  rintro ⟨-, granted | ⟨out, -⟩⟩
  · exact ungranted granted
  · exact out (.inl waits)

/-- A session that takes a first attempt after a step that sends nothing admits the task. -/
theorem admits_of_attempt {purpose : Purpose} {hands : Prop} (away : before.Away me)
    (strokes : Strokes me purpose False hands before after)
    (there : after.session? site number = some session) (healthy : session.Sound)
    (attempt : session.attempt = .accepted) : before.Admits me site number := by
  obtain ⟨unclosed, room, -⟩ := healthy.of_accepted attempt
  obtain same | ⟨absent, new⟩ := strokes.session?_cases site number
  · rw [same] at there
    simp only [Admits, there]
    exact ⟨unclosed, .inr ⟨away site number session there, room⟩⟩
  · obtain rfl := Option.some.inj (new.symm.trans there)
    simp only [Admits, absent]
    simpa [Session.new, Session.room, Session.buffer] using room

/-- A session that is closed after a step that sends nothing does not admit the task. -/
theorem not_admits_of_shut {purpose : Purpose} {hands : Prop}
    (strokes : Strokes me purpose False hands before after)
    (there : after.session? site number = some session) (closed : session.closed = true) :
    ¬ before.Admits me site number := by
  obtain same | ⟨absent, new⟩ := strokes.session?_cases site number
  · exact not_admits_of_closed (same.symm.trans there) closed
  · obtain rfl := Option.some.inj (new.symm.trans there)
    simp [Session.new] at closed

/-- Two dispatches of a task that ends in the same way once the first has failed and once the
second was accepted concern the same session. -/
theorem place_of_concludes {purpose : Purpose} {first second : Dispatch} {result : DeliveryEnd}
    {outcome : Outcome} (failed : purpose.Concludes first result outcome)
    (concludes : purpose.Concludes second .accepted outcome) (differ : result ≠ .accepted) :
    first.site = second.site ∧ first.session = second.session := by
  unfold Purpose.Concludes at failed concludes
  split at failed
  · obtain ⟨-, -, rfl⟩ := failed
    obtain ⟨-, -, same⟩ := concludes
    cases result with
    | accepted => exact absurd rfl differ
    | closed => simp [acknowledgeResult] at same
    | timedOut => simp [acknowledgeResult] at same
  · obtain ⟨here, -, routed, -⟩ := failed
    obtain ⟨there, -, same, -⟩ := concludes
    exact ⟨here.trans there.symm, routed.trans same.symm⟩
  · obtain ⟨here, -, message, carried, -, rfl⟩ := failed
    obtain ⟨there, -, other, same, -, told⟩ := concludes
    cases told
    exact ⟨here.trans there.symm, carried.symm.trans same⟩
  · exact failed.elim

/-- The step of a task delivers what it waits for or begins with: a session that admits it
accepts its offset, and the task ends. -/
structure Delivers (me : TaskId) (dispatch : Dispatch) (before after : World) : Prop where
  alive : before.isOver me = false
  origin : before.dispatch? me = some dispatch ∨ before.dispatch? me = none ∧
    ∃ found, before.tasks[me]? = some found ∧ found.purpose.Begins before dispatch
  admits : before.Admits me dispatch.site dispatch.session
  inTime : ∀ due, dispatch.due = some due → before.now ≤ due
  concludes : ∃ found outcome, before.tasks[me]? = some found ∧
    found.purpose.Concludes dispatch .accepted outcome ∧ after.outcome? me = some outcome
  accepts : ∀ site number, after.accepted site number = before.accepted site number ++
    if dispatch.site = site ∧ dispatch.session = number then [⟨some me, dispatch.offset⟩] else []

/-- The step of a task accepts nothing: if the task ends as it does with its delivery, then its
session does not admit it, or is not there. -/
structure Withholds (me : TaskId) (before after : World) : Prop where
  missed : ∀ found outcome dispatch, before.tasks[me]? = some found → before.isOver me = false →
    after.outcome? me = some outcome → found.purpose.Concludes dispatch .accepted outcome →
    (after.session? dispatch.site dispatch.session).isSome = true →
      ¬ before.Admits me dispatch.site dispatch.session
  same : ∀ site number, after.accepted site number = before.accepted site number

/-- A task that is there is over exactly if it has ended. -/
theorem isOver_eq_false (there : world.tasks[task]? = some found) :
    world.isOver task = false ↔ ∀ outcome, found.stage ≠ .ended outcome := by
  unfold isOver
  rw [there]
  dsimp only
  split
  · rename_i outcome ended
    simp [ended]
  · rename_i alive
    simpa using alive

/-- A task that ends after a note to the log has the outcome it ends with. -/
theorem outcome?_conclude (there : world.tasks[task]? = some found) (actor : Option String)
    (entries : List LogEntry) (outcome : Outcome) :
    ((world.note actor entries).finish task outcome).outcome? task = some outcome := by
  have noted : (world.note actor entries).tasks[task]? = some found := there
  unfold outcome?
  rw [getElem?_finish, if_pos rfl, noted]
  rfl

/-- A changed session leaves the tasks alone. -/
theorem there_onSession (site : SiteId) (number : SessionId)
    (change : Session → Session × List TaskId) (there : world.tasks[task]? = some found) :
    (world.onSession site number change).tasks[task]? = some found := by
  rw [tasks_onSession]
  exact there

/-- A task that stays where it waits has no outcome. -/
theorem outcome?_of_alive (there : world.tasks[task]? = some found)
    (alive : ∀ outcome, found.stage ≠ .ended outcome) : world.outcome? task = none := by
  obtain ⟨actor, purpose, stage⟩ := found
  unfold outcome?
  rw [there]
  cases stage with
  | ended outcome => exact absurd rfl (alive outcome)
  | _ => rfl

/-- A task that waits for room has not ended. -/
theorem alive_of_dispatch? (pending : found.dispatch? = some dispatch) (outcome : Outcome) :
    found.stage ≠ .ended outcome := by
  intro ended
  simp [Task.dispatch?, ended] at pending

/-- A task that has not ended has missed nothing. -/
theorem Withholds.of_unended {left : World} (goes_on : after.outcome? me = none)
    (same : ∀ site number, after.accepted site number = left.accepted site number) :
    Withholds me left after := by
  refine ⟨fun _ outcome _ _ _ ended => ?_, same⟩
  exact absurd (goes_on.symm.trans ended) (by simp)

/-- A task whose delivery has failed has missed a session that does not admit it. -/
theorem Withholds.of_failed {left : World} {result : DeliveryEnd} {outcome : Outcome}
    {pending : Dispatch} (there : left.tasks[me]? = some found)
    (ended : after.outcome? me = some outcome)
    (concludes : found.purpose.Concludes pending result outcome) (differ : result ≠ .accepted)
    (missed : (after.session? pending.site pending.session).isSome = true →
      ¬ left.Admits me pending.site pending.session)
    (same : ∀ site number, after.accepted site number = left.accepted site number) :
    Withholds me left after := by
  refine ⟨fun other told dispatch here _ settled accepts exist => ?_, same⟩
  obtain rfl := Option.some.inj (there.symm.trans here)
  obtain rfl := Option.some.inj (ended.symm.trans settled)
  obtain ⟨site, number⟩ := place_of_concludes concludes accepts differ
  rw [← site, ← number] at exist ⊢
  exact missed exist

/-- A turn delivers, or accepts nothing. -/
theorem Turn.delivers {left : World} (turn : Turn me found left after)
    (departs : Departs me found left) :
    (∃ dispatch, Delivers me dispatch left after) ∨ Withholds me left after := by
  have there := departs.there
  have dispatched : left.dispatch? me = found.dispatch? := by
    simp only [dispatch?, there, Option.bind_some]
  cases turn with
  | quiet strokes alive idle rests fruitless =>
    refine .inr ⟨fun other outcome dispatch here _ ended accepts => ?_, accepted_strokes strokes⟩
    obtain rfl := Option.some.inj (there.symm.trans here)
    exact absurd accepts (fruitless outcome dispatch ended)
  | settled ended =>
    refine .inr ⟨fun other _ _ here alive => ?_, fun _ _ => rfl⟩
    obtain rfl := Option.some.inj (there.symm.trans here)
    exact absurd ended ((isOver_eq_false there).mp alive _)
  | @sent middle pending session outcome actor entries strokes alive idle begins here room
      concludes =>
    have sound := (departs.steady.spares strokes.spares).healthy _ _ session here
    have admits := admits_of_attempt (departs.away idle) strokes here sound room
    obtain ⟨stage, still, -⟩ := strokes.taskFrame.kept me found there
    refine .inl ⟨pending, (isOver_eq_false there).mpr alive,
      .inr ⟨dispatched.trans idle, found, there, begins⟩, admits, fun due => begins.le_due,
      ⟨found, outcome, there, concludes, ?_⟩, ?_⟩
    · exact outcome?_conclude (there_onSession _ _ _ still) actor entries outcome
    · intro site number
      rw [accepted_conclude, ← accepted_strokes strokes site number]
      exact accepted_onSession_append
        (fun session => (session.accept ⟨some me, pending.offset⟩, [])) here rfl site number
  | @dropped middle pending outcome actor entries strokes alive idle begins shut concludes =>
    obtain ⟨stage, still, -⟩ := strokes.taskFrame.kept me found there
    have same := accepted_strokes strokes
    refine .inr (.of_failed there (outcome?_conclude still actor entries outcome) concludes
      (by simp) ?_ same)
    intro exist
    obtain ⟨session, here⟩ := Option.isSome_iff_exists.mp exist
    exact not_admits_of_shut strokes here (shut session here)
  | @queued middle pending session stage strokes alive idle begins here full waiting =>
    refine .inr (.of_unended (outcome?_setStage _ me (alive_of_dispatch? waiting)) ?_)
    intro site number
    rw [← accepted_strokes strokes site number]
    have queued : (middle.onSession pending.site pending.session fun session =>
        (session.await me, [])).accepted site number = middle.accepted site number :=
      accepted_onSession _ (fun _ => rfl) site number
    rw [← queued]
    refine accepted_congr ?_
    show (((middle.onSession _ _ _).setDeadline me pending.due).sites[site]?).bind _ = _
    rw [(setDeadline_fields _ me pending.due).2.1]
    rfl
  | @refused pending outcome actor entries waiting shut concludes =>
    refine .inr (.of_failed there (outcome?_conclude there actor entries outcome) concludes
      (by simp) ?_ ?_)
    · intro exist
      obtain ⟨session, here⟩ := Option.isSome_iff_exists.mp exist
      exact not_admits_of_closed here (shut session here)
    · exact fun _ _ => rfl
  | @filled pending session outcome actor entries waiting here unclosed granted concludes =>
    refine .inl ⟨pending, (isOver_eq_false there).mpr (alive_of_dispatch? waiting),
      .inl (dispatched.trans waiting), admits_of_granted here unclosed granted, ?_,
      ⟨found, outcome, there, concludes, ?_⟩, ?_⟩
    · exact fun due timed => (departs.timed pending due waiting timed).1
    · exact outcome?_conclude (there_onSession _ _ _ there) actor entries outcome
    · intro site number
      rw [accepted_conclude]
      exact accepted_onSession_append (fun session => (session.fill me pending.offset, [])) here rfl
        site number
  | @gaveUp pending session outcome due actor entries waiting here unclosed ungranted timed late
      concludes =>
    refine .inr (.of_failed there ?_ concludes (by simp) ?_ ?_)
    · exact outcome?_conclude (there_onSession _ _ _ there) actor entries outcome
    · intro _
      have inLine := departs.inLine pending session waiting here unclosed ungranted
      exact not_admits_of_waiting here inLine ungranted
    · intro site number
      rw [accepted_conclude]
      exact accepted_onSession (·.withdraw me) (fun _ => rfl) site number
  | stays waiting here unclosed ungranted early =>
    exact .inr (.of_unended (outcome?_of_alive there (alive_of_dispatch? waiting)) fun _ _ => rfl)

/-- What an open move adds to what sessions have accepted: something if it is the step of a
task that delivers, and nothing otherwise. -/
theorem accepted_apply (waits : world.Waits) (move : Move) :
    (∃ me dispatch, move = .resume me ∧ Delivers me dispatch world (world.apply move)) ∨
      (∀ site number, (world.apply move).accepted site number = world.accepted site number) ∧
        ∀ me, move = .resume me → Withholds me world (world.apply move) := by
  have quiet {after : World}
      (same : ∀ site number, after.accepted site number = world.accepted site number)
      (foreign : ∀ me, move ≠ .resume me) :
      (∀ site number, after.accepted site number = world.accepted site number) ∧
        ∀ me, move = .resume me → Withholds me world after :=
    ⟨same, fun me resumed => absurd resumed (foreign me)⟩
  cases move with
  | resume me =>
    cases there : world.tasks[me]? with
    | none =>
      rw [apply, resume_absent there]
      refine .inr ⟨fun _ _ => rfl, fun other resumed => ?_⟩
      obtain rfl : me = other := Move.resume.inj resumed
      exact ⟨fun found _ _ here => absurd (there.symm.trans here) (by simp), fun _ _ => rfl⟩
    | some found =>
      have turn := turn_resume there (waits.sound me found there).1
      obtain ⟨dispatch, delivers⟩ | withholds := turn.delivers (waits.departs there)
      · exact .inl ⟨me, dispatch, rfl, delivers.alive, delivers.origin, delivers.admits,
          delivers.inTime, delivers.concludes, delivers.accepts⟩
      · refine .inr ⟨withholds.same, fun other resumed => ?_⟩
        obtain rfl : me = other := Move.resume.inj resumed
        exact ⟨withholds.missed, withholds.same⟩
  | pass moment =>
    refine .inr (quiet (fun site number => ?_) fun _ => by simp)
    obtain ⟨ready, same⟩ := exists_passTo world moment
    rw [apply, same]
    rfl
  | request site request => exact .inr (quiet (fun _ _ => rfl) fun _ => by simp)
  | shutdown sites logged => exact .inr (quiet (fun _ _ => rfl) fun _ => by simp)
  | cancel me =>
    refine .inr (quiet (fun site number => ?_) fun _ => by simp)
    cases there : world.tasks[me]? with
    | none => simp [apply, cancel, there]
    | some found =>
      obtain ⟨-, same⟩ | ⟨-, -, ready, same, -⟩ | ⟨dispatch, -, same⟩ :=
        cancel_cases there (waits.sound me found there).1
      · rw [apply, same]
      · rw [apply, same]
        rfl
      · rw [apply, same, giveUpSend]
        exact accepted_onSession (·.withdraw me) (fun _ => rfl) site number
  | enqueue site group topic items =>
    refine .inr (quiet (fun place number => ?_) fun _ => by simp)
    refine accepted_congr (session?_onBroker_of_same world site (fun _ => ?_) place number)
    rfl
  | read site number limit =>
    refine .inr (quiet (fun place other => ?_) fun _ => by simp)
    exact accepted_onSession (fun session => (session.take limit).2) (fun _ => rfl) place other
  | close site number =>
    refine .inr (quiet (fun place other => ?_) fun _ => by simp)
    exact accepted_onSession Session.close (fun _ => rfl) place other
  | renew site key =>
    refine .inr (quiet (fun place number => ?_) fun _ => by simp)
    refine accepted_congr (session?_onBroker_of_same world site (fun _ => ?_) place number)
    rfl

/-- What a session has accepted from a task. -/
def sentBy (world : World) (task : TaskId) (site : SiteId) (number : SessionId) :
    List Acknowledged :=
  (world.accepted site number).filter fun item => item.sender == some task

/-- No session has accepted anything from a task that has not ended. -/
def Unsent (world : World) : Prop :=
  ∀ task site number, world.outcome? task = none → world.sentBy task site number = []

/-- A task that has delivered has ended. -/
theorem Delivers.outcome? (delivers : Delivers me dispatch before after) :
    ∃ outcome, after.outcome? me = some outcome := by
  obtain ⟨found, outcome, -, -, ended⟩ := delivers.concludes
  exact ⟨outcome, ended⟩

/-- A task that delivers has not had an outcome before. -/
theorem Delivers.unended (delivers : Delivers me dispatch before after) :
    before.outcome? me = none := by
  obtain ⟨found, outcome, there, -, -⟩ := delivers.concludes
  exact outcome?_of_alive there ((isOver_eq_false there).mp delivers.alive)

/-- A delivery adds nothing to what others have sent. -/
theorem Delivers.sentBy (delivers : Delivers me dispatch before after) {other : TaskId}
    (differ : other ≠ me) (site : SiteId) (number : SessionId) :
    after.sentBy other site number = before.sentBy other site number := by
  unfold World.sentBy
  rw [delivers.accepts, List.filter_append]
  split
  · have foreign : ¬ me = other := Ne.symm differ
    simp [foreign]
  · simp

/-- A task that has ended sends nothing more. -/
theorem sentBy_apply (waits : world.Waits) (move : Move) {outcome : Outcome}
    (settled : world.outcome? task = some outcome) (site : SiteId) (number : SessionId) :
    (world.apply move).sentBy task site number = world.sentBy task site number := by
  obtain ⟨me, dispatch, -, delivers⟩ | ⟨same, -⟩ := accepted_apply waits move
  · refine delivers.sentBy ?_ site number
    rintro rfl
    exact absurd (delivers.unended.symm.trans settled) (by simp)
  · simp only [sentBy, same]

/-- A task that has ended sends nothing more along a run. -/
theorem Waits.sentBy_reaches {last : World} (waits : world.Waits) (reaches : world.Reaches last)
    {outcome : Outcome} (settled : world.outcome? task = some outcome) (site : SiteId)
    (number : SessionId) : last.sentBy task site number = world.sentBy task site number := by
  have both : last.outcome? task = some outcome ∧
      last.sentBy task site number = world.sentBy task site number := by
    refine waits.keeps (P := fun later => later.outcome? task = some outcome ∧
      later.sentBy task site number = world.sentBy task site number) ?_ ⟨settled, rfl⟩ reaches
    rintro later move waits - ⟨settled, same⟩
    exact ⟨outcome?_apply waits.sound move settled,
      (sentBy_apply waits move settled site number).trans same⟩
  exact both.2

/-- Open moves let only tasks send that end. -/
theorem Unsent.apply (unsent : world.Unsent) (waits : world.Waits) (move : Move) :
    (world.apply move).Unsent := by
  intro task site number unended
  have before : world.outcome? task = none := by
    cases settled : world.outcome? task with
    | none => rfl
    | some outcome =>
      exact absurd ((outcome?_apply waits.sound move settled).symm.trans unended) (by simp)
  obtain ⟨me, dispatch, -, delivers⟩ | ⟨same, -⟩ := accepted_apply waits move
  · rw [delivers.sentBy ?_ site number]
    · exact unsent task site number before
    · rintro rfl
      obtain ⟨outcome, settled⟩ := delivers.outcome?
      exact absurd (settled.symm.trans unended) (by simp)
  · simp only [sentBy, same]
    exact unsent task site number before

/-- In a world that has just been opened nothing has been accepted. -/
theorem Opened.accepted_eq_nil (opened : world.Opened) (site : SiteId) (number : SessionId) :
    world.accepted site number = [] := by
  simp only [accepted, opened.session?_eq_none]

/-- In every world that can be reached, only tasks that have ended have sent. -/
theorem Opened.unsent {last : World} (opened : world.Opened) (reaches : world.Reaches last) :
    last.Unsent := by
  refine opened.waits.keeps (P := Unsent) ?_ ?_ reaches
  · exact fun world move waits _ unsent => unsent.apply waits move
  · intro task site number _
    simp [sentBy, opened.accepted_eq_nil]

end ClusterGateway.World
