import ClusterGateway.Proofs.Serving.Calls
import ClusterGateway.Proofs.World.Waking

/-!
# Fetching a message

What a consume request returns, when, and which session is recorded for it is settled in its
first step, in which the consumer is asked. From then on nothing changes the answer or the
time at which it comes, unless the caller cancels the request. An explicit acknowledgement
goes to a task of its own and has no part in it: two worlds that differ only in what the
request carries are compared through what the consumer answers in either of them. Main
statements: `Expects.apply`, `unfolds_consume`, `fetch_unaffected`.
-/

namespace ClusterGateway

/-- What the consumer answers a request, and when; no answer comes where there is no consumer. -/
structure Fetched where
  answer : Option (Answer Message)
  due : Nat
deriving Repr

/-- What a consume request returns that does not acknowledge the message it fetches. -/
def Fetched.result (fetched : Fetched) : Except Error Reply :=
  match fetched.answer with
  | some (.reply result) => result.map .message
  | some .dropped => .error (.internal "consumer dropped consume request")
  | none => .error .unavailable

/-- The routes of a gateway after it has recorded the session of a message that was fetched. -/
def Fetched.record (fetched : Fetched) (group topic : String) (table : RoutingTable SessionId) :
    RoutingTable SessionId :=
  match fetched.answer with
  | some (.reply (.ok message)) => table.insert ⟨group, topic, message.partition⟩ message.session
  | _ => table

namespace World

/-- The answer of the consumer of a gateway to a request that is made now. -/
def fetched (world : World) (place : Site) (group topic : String) : Fetched :=
  if place.gateway.holds .consumer then
    let (_, answer, delay) := place.broker.fetch world.script group topic
    ⟨some answer, world.now + delay⟩
  else ⟨none, world.now⟩

/-- The routes of a gateway. -/
def routes? (world : World) (site : SiteId) : Option (RoutingTable SessionId) :=
  (world.sites[site]?).map (·.gateway.routes)

/-- The same world, but for the acknowledgement that a consume request carries. -/
def carrying (world : World) (task : TaskId) (site : SiteId) (group topic : String) (ack : Ack) :
    World :=
  { world with tasks := world.tasks.modify task fun found =>
      { found with purpose := .request site (.consume group topic ack) } }

/-- A consume request ends in a step of its own, at the moment at which its answer is due, with
what comes of that answer, and the routes of its gateway are changed accordingly. -/
structure Answered (before : World) (task : TaskId) (site : SiteId) (group topic : String)
    (fetched : Fetched) : Prop where
  instant : before.now = fetched.due
  unended : before.outcome? task = none
  returns : (before.resume task).outcome? task = some (.returned fetched.result)
  routes : ∀ other, (before.resume task).routes? other =
    (before.routes? other).map fun table =>
      if other = site then fetched.record group topic table else table

/-- A few steps of tasks end a task with a result. -/
def SettlesIn (world : World) (steps : Nat) (task : TaskId) (result : Except Error Reply) : Prop :=
  ∃ (path : List TaskId) (later : World), path.length ≤ steps ∧
    world.play? (path.map Move.resume) = some later ∧
      later.outcome? task = some (.returned result)

/-- What has become of a consume request in a run: it waits, time does not pass beyond the moment
at which its answer is due, and at that moment two steps are enough to end it; it was
cancelled; or it has ended with that answer, at that moment. -/
inductive Unfolds (start last : World) (moves : List Move) (task : TaskId) (site : SiteId)
    (group topic : String) (fetched : Fetched) : Prop
  | pending (unended : last.outcome? task = none) (early : last.now ≤ fetched.due)
    (bounded : ∀ moment, last.mayPass moment = true →
      last.now < fetched.due ∧ moment ≤ fetched.due)
    (settles : last.now = fetched.due → last.SettlesIn 2 task fetched.result)
  | cancelled (called : Move.cancel task ∈ moves) (ended : last.outcome? task = some .cancelled)
  | answered {before : World} (makes : start.Makes moves (.resume task) before)
    (answered : Answered before task site group topic fetched)
    (ended : last.outcome? task = some (.returned fetched.result))

/-- A consume request that waits for the consumer: the task that brings it the answer, and what
the answer is and when it is due. -/
structure Fetch where
  task : TaskId
  helper : TaskId
  site : SiteId
  group : String
  topic : String
  answer : Answer Message
  delay : Nat
  due : Nat

/-- What a request has asked the consumer for. -/
def Fetch.fetched (fetch : Fetch) : Fetched := ⟨some fetch.answer, fetch.due⟩

/-- How far an answer has come: the task that brings it has not begun, sleeps until the answer is
due, or has told it. -/
inductive Underway (fetch : Fetch) (world : World) : Option (Answer Message) → Prop
  | called {helper : Task} (stands : world.Fresh fetch.helper helper)
    (clock : world.now + fetch.delay = fetch.due) : Underway fetch world none
  | asleep {helper : Task} (there : world.tasks[fetch.helper]? = some helper)
    (sleeps : helper.stage = .sleeping fetch.due)
    (wakes : world.now < fetch.due ∧ ⟨fetch.due, fetch.helper⟩ ∈ world.timers ∨
      world.now = fetch.due ∧ fetch.helper ∈ world.ready) : Underway fetch world none
  | told (instant : world.now = fetch.due) (ready : fetch.task ∈ world.ready) :
    Underway fetch world (some fetch.answer)

/-- A request stands where it waits for the consumer, and may have been told an answer. -/
def Attends (fetch : Fetch) (world : World) (told : Option (Answer Message)) : Prop :=
  ∃ actor ack, ack ≠ .auto ∧ world.tasks[fetch.task]? = some
    ⟨actor, .request fetch.site (.consume fetch.group fetch.topic ack), .awaitingMessage told⟩

/-- A consume request waits for an answer, which one task and no other brings it. -/
structure Expects (world : World) (fetch : Fetch) : Prop where
  late : fetch.delay ≠ 0
  waits : ∃ told, Attends fetch world told ∧ Underway fetch world told
  helps : ∃ actor stage, world.tasks[fetch.helper]? =
    some ⟨actor, .deliverAnswer fetch.task (.message fetch.answer) fetch.delay, stage⟩
  only : ∀ (child : TaskId) (helper : Task) answer delay, world.tasks[child]? = some helper →
    helper.purpose = .deliverAnswer fetch.task answer delay → child = fetch.helper

/-- No task brings a request an answer. -/
def Unanswered (world : World) (task : TaskId) : Prop :=
  ∀ (child : TaskId) (helper : Task) answer delay, world.tasks[child]? = some helper →
    helper.purpose ≠ .deliverAnswer task answer delay

variable {start world before first second last : World} {fetch : Fetch} {me task : TaskId}
  {found : Task} {site : SiteId} {place : Site} {group topic : String} {ack : Ack}
  {move : Move} {moves : List Move}

/-- Routes are what they were where the sites are. -/
theorem routes?_congr (same : first.sites = second.sites) (other : SiteId) :
    first.routes? other = second.routes? other := by
  rw [routes?, routes?, same]

/-- The routes of gateways after one of them was changed. -/
theorem routes?_onGateway (world : World) (site : SiteId) (change : Gateway → Gateway)
    (other : SiteId) : (world.onGateway site change).routes? other =
      if site = other then (world.sites[other]?).map fun found => (change found.gateway).routes
      else world.routes? other := by
  rw [routes?, onGateway, getElem?_onSite]
  split
  · rw [Option.map_map]
    rfl
  · rfl

/-- A cluster that is changed leaves the routes of its gateway alone. -/
theorem routes?_onBroker (world : World) (site : SiteId) (change : Broker → Broker)
    (other : SiteId) : (world.onBroker site change).routes? other = world.routes? other := by
  rw [routes?, onBroker, getElem?_onSite]
  split
  · rw [Option.map_map]
    rfl
  · rfl

/-- A consume request that does not acknowledge the message it fetches ends with the answer. -/
theorem receiveMessage_spec (there : world.tasks[me]? = some found) (actor : Option String)
    (site : SiteId) (group topic : String) (manual : ack ≠ .auto) {fetched : Fetched}
    {answer : Answer Message} (brings : fetched.answer = some answer) :
    (world.receiveMessage me actor site group topic ack answer).outcome? me =
        some (.returned fetched.result) ∧
      ∀ other, (world.receiveMessage me actor site group topic ack answer).routes? other =
        (world.routes? other).map fun table =>
          if other = site then fetched.record group topic table else table := by
  obtain ⟨told, due⟩ := fetched
  obtain rfl : told = some answer := brings
  have unchanged (other : SiteId) : world.routes? other = (world.routes? other).map (fun table =>
      if other = site then table else table) := by simp
  cases answer with
  | dropped => exact ⟨outcome?_conclude there none [] _, unchanged⟩
  | reply result =>
    cases result with
    | error error => exact ⟨outcome?_conclude there none [] _, unchanged⟩
    | ok message =>
      simp only [receiveMessage, if_neg manual]
      have mine : (world.onGateway site (·.route group topic message)).tasks[me]? =
        some found := there
      refine ⟨outcome?_conclude mine none [] _, fun other => ?_⟩
      have same : (conclude (world.onGateway site (·.route group topic message)) me
          (.ok (.message message))).routes? other =
            (world.onGateway site (·.route group topic message)).routes? other := rfl
      rw [same, routes?_onGateway]
      by_cases here : site = other
      · subst here
        rw [if_pos rfl, routes?, Option.map_map]
        simp [Function.comp_def, Gateway.route, Fetched.record]
      · rw [if_neg here]
        simp [Ne.symm here]

/-- What a request leaves of the gateways that gets its answer depends on the gateways only,
whatever it carries. -/
theorem sites_receiveMessage_congr (same : first.sites = second.sites) (actor : Option String)
    {other : Ack} (manual : ack ≠ .auto) (free : other ≠ .auto) (answer : Answer Message) :
    (first.receiveMessage me actor site group topic ack answer).sites =
      (second.receiveMessage me actor site group topic other answer).sites := by
  cases answer with
  | dropped => exact same
  | reply result =>
    cases result with
    | error error => exact same
    | ok message =>
      simp only [receiveMessage, if_neg manual, if_neg free]
      show first.sites.modify site _ = second.sites.modify site _
      rw [same]

/-- What a request leaves of the gateways that asks the consumer depends on the gateways only,
whatever it carries. -/
theorem sites_beginFetch_congr (same : first.sites = second.sites)
    (script : first.script = second.script) (actor : Option String) (place : Site) {other : Ack}
    (manual : ack ≠ .auto) (free : other ≠ .auto) :
    (first.beginFetch me actor site place group topic ack).sites =
      (second.beginFetch me actor site place group topic other).sites := by
  unfold beginFetch
  rw [script]
  split
  · generalize place.broker.fetch second.script group topic = result
    obtain ⟨broker, answer, delay⟩ := result
    dsimp only
    have served : (first.onBroker site fun _ => broker).sites =
        (second.onBroker site fun _ => broker).sites := by
      rw [onBroker, onSite, onBroker, onSite, same]
    split
    · exact sites_receiveMessage_congr served actor manual free answer
    · exact served
  · exact same

/-- A request without a helper is brought no answer. -/
theorem Unaided.unanswered (unaided : world.Unaided task) : world.Unanswered task := by
  intro child helper answer delay there brings
  exact unaided child helper there (by rw [brings]; rfl)

/-- Handing an acknowledgement on starts nothing that brings an answer. -/
theorem Unanswered.beginBackgroundAck (unanswered : world.Unanswered task) (me : TaskId)
    (site : SiteId) (place : Site) (actor : Option String) (key : RoutingKey) (offset : Int64) :
    (world.beginBackgroundAck me site place actor key offset).Unanswered task := by
  intro child helper answer delay there
  cases earlier : world.tasks[child]? with
  | some old =>
    have still : (world.beginBackgroundAck me site place actor key offset).tasks[child]? =
      some old := there_beginBackgroundAck earlier actor key offset
    obtain rfl := Option.some.inj (still.symm.trans there)
    exact unanswered child old answer delay earlier
  | none =>
    obtain absent | ⟨number, owner, -, -, started⟩ :=
      child_beginBackgroundAck me site place key offset earlier actor
    · exact absurd (absent.symm.trans there) (by simp)
    · obtain rfl := Option.some.inj (started.symm.trans there)
      simp

/-- The first step of a consume request whose acknowledgement, if it has one, is explicit: the
acknowledgement is handed on, which changes no gateway and starts nothing that brings an
answer; then the consumer is asked. -/
theorem resume_consume (stands : world.Fresh me found)
    (asks : found.purpose = .request site (.consume group topic ack)) (manual : ack ≠ .auto)
    (here : world.sites[site]? = some place) (unaided : world.Unaided me) :
    ∃ noted : World, noted.sites = world.sites ∧ noted.script = world.script ∧
      noted.now = world.now ∧ noted.tasks[me]? = some found ∧ noted.Unanswered me ∧
      world.resume me = noted.beginFetch me found.actor site place group topic ack := by
  have at_site : ({ world with ready := world.ready.erase me } : World).sites[site]? =
    some place := here
  have mine : ({ world with ready := world.ready.erase me } : World).tasks[me]? = some found :=
    stands.there
  have alone : ({ world with ready := world.ready.erase me } : World).Unanswered me :=
    unaided.unanswered
  rw [resume_eq stands.there]
  simp only [proceed, stands.unrun, asks, World.start, at_site, beginConsume]
  generalize left_eq : ({ world with ready := world.ready.erase me } : World) = left
    at at_site mine alone
  obtain ⟨sites, script, now⟩ : left.sites = world.sites ∧ left.script = world.script ∧
      left.now = world.now := by
    rw [← left_eq]
    exact ⟨rfl, rfl, rfl⟩
  cases ack with
  | auto => exact absurd rfl manual
  | none => exact ⟨left, sites, script, now, mine, alone, rfl⟩
  | explicit partition offset =>
    refine ⟨left.beginBackgroundAck me site place found.actor ⟨group, topic, partition⟩ offset,
      (sites_beginBackgroundAck left place found.actor _ offset).trans sites, ?_, ?_,
      there_beginBackgroundAck mine found.actor _ offset,
      alone.beginBackgroundAck me site place found.actor _ offset, rfl⟩
    · unfold World.beginBackgroundAck
      split <;> exact script
    · unfold World.beginBackgroundAck
      split <;> exact now

/-- A consume request that is to get its answer later waits for it. -/
theorem expects_spawn (there : world.tasks[me]? = some found)
    (asks : found.purpose = .request site (.consume group topic ack)) (manual : ack ≠ .auto)
    (alone : world.Unanswered me) (answer : Answer Message) {delay : Nat} (late : delay ≠ 0) :
    (((world.spawn none (.deliverAnswer me (.message answer) delay)).1).setStage me
      (.awaitingMessage none)).Expects
        ⟨me, world.tasks.length, site, group, topic, answer, delay, world.now + delay⟩ := by
  have differ : me ≠ world.tasks.length := Nat.ne_of_lt (List.getElem?_eq_some_iff.mp there).1
  have fresh := fresh_spawn world none (.deliverAnswer me (.message answer) delay)
  have brings : (((world.spawn none (.deliverAnswer me (.message answer) delay)).1).setStage me
      (.awaitingMessage none)).tasks[world.tasks.length]? =
        some ⟨none, .deliverAnswer me (.message answer) delay, .fresh⟩ := by
    rw [getElem?_setStage, if_neg differ]
    exact fresh.there
  refine ⟨late, ⟨none, ⟨found.actor, ack, manual, ?_⟩, .called ⟨brings, rfl, fresh.ready⟩ rfl⟩,
    ⟨none, .fresh, brings⟩, ?_⟩
  · rw [getElem?_setStage, if_pos rfl, getElem?_spawn_of_some world there, ← asks]
    rfl
  · intro child helper told after here asked
    rw [getElem?_setStage] at here
    by_cases mine : me = child
    · subst mine
      rw [if_pos rfl, getElem?_spawn_of_some world there] at here
      obtain rfl := Option.some.inj here
      simp [asks] at asked
    · rw [if_neg mine] at here
      cases earlier : world.tasks[child]? with
      | some old =>
        obtain rfl := Option.some.inj ((getElem?_spawn_of_some world earlier).symm.trans here)
        exact absurd asked (alone child old told after earlier)
      | none => exact (getElem?_spawn_of_none world earlier here).1

/-- A task that stands before its first step has not ended. -/
theorem Fresh.unended (stands : world.Fresh task found) : world.outcome? task = none :=
  outcome?_of_alive stands.there fun outcome => by simp [stands.unrun]

/-- A consume request that finds the consumer gone is refused in its first step. -/
theorem answered_of_gone (stands : world.Fresh me found)
    (asks : found.purpose = .request site (.consume group topic ack)) (manual : ack ≠ .auto)
    (here : world.sites[site]? = some place) (unaided : world.Unaided me)
    (gone : place.gateway.holds .consumer = false) :
    Answered world me site group topic ⟨none, world.now⟩ := by
  obtain ⟨noted, sites, -, -, mine, -, begins⟩ := resume_consume stands asks manual here unaided
  simp only [beginFetch, gone, Bool.false_eq_true, if_false] at begins
  have returns : (world.resume me).outcome? me = some (.returned (.error .unavailable)) := by
    rw [begins]
    exact outcome?_conclude mine none [] _
  have same (other : SiteId) : (world.resume me).routes? other = world.routes? other := by
    rw [begins]
    exact routes?_congr sites other
  exact ⟨rfl, stands.unended, returns, fun other => by simp [same, Fetched.record]⟩

/-- In its first step a consume request is answered at once, or it begins to wait for an answer
that is due later. -/
theorem answered_or_expects (stands : world.Fresh me found)
    (asks : found.purpose = .request site (.consume group topic ack)) (manual : ack ≠ .auto)
    (here : world.sites[site]? = some place) (unaided : world.Unaided me) :
    Answered world me site group topic (world.fetched place group topic) ∨
      ∃ fetch : Fetch, (world.resume me).Expects fetch ∧ fetch.task = me ∧ fetch.site = site ∧
        fetch.group = group ∧ fetch.topic = topic ∧
        fetch.fetched = world.fetched place group topic := by
  cases holds : place.gateway.holds .consumer with
  | false =>
    simp only [World.fetched, holds, Bool.false_eq_true, if_false]
    exact .inl (answered_of_gone stands asks manual here unaided holds)
  | true =>
    obtain ⟨noted, sites, script, now, mine, alone, begins⟩ :=
      resume_consume stands asks manual here unaided
    simp only [beginFetch, holds, if_true, script] at begins
    simp only [World.fetched, holds, if_true]
    generalize place.broker.fetch world.script group topic = result at begins ⊢
    obtain ⟨broker, answer, delay⟩ := result
    dsimp only at begins ⊢
    have served : (noted.onBroker site fun _ => broker).tasks[me]? = some found := mine
    by_cases instant : delay = 0
    · left
      subst instant
      rw [if_pos rfl] at begins
      have brings : (Fetched.mk (some answer) world.now).answer = some answer := rfl
      obtain ⟨returns, routes⟩ :=
        receiveMessage_spec served found.actor site group topic manual brings
      refine ⟨rfl, stands.unended, ?_, fun other => ?_⟩
      · rw [begins]
        exact returns
      · rw [begins, routes, routes?_onBroker, routes?_congr sites]
        rfl
    · right
      rw [if_neg instant] at begins
      refine ⟨⟨me, noted.tasks.length, site, group, topic, answer, delay, world.now + delay⟩, ?_,
        rfl, rfl, rfl, rfl, rfl⟩
      rw [begins, ← now]
      exact expects_spawn served asks manual alone answer instant

/-- A request goes on waiting in a move that is no step of its own if it stands waiting after
it: the answer that is brought to it stays what it is, and no other task is started that brings
it one. -/
theorem Expects.of_apply (expects : world.Expects fetch) (sound : world.Sound) (move : Move)
    (free : world.isOpen move = true) (foreign : ¬ move.IsOwn fetch.task)
    (told : Option (Answer Message)) (waits : Attends fetch (world.apply move) told)
    (underway : Underway fetch (world.apply move) told) : (world.apply move).Expects fetch where
  late := expects.late
  waits := ⟨told, waits, underway⟩
  helps := by
    obtain ⟨actor, stage, there⟩ := expects.helps
    obtain ⟨later, after, -⟩ := kept_apply sound move there
    exact ⟨actor, later, after⟩
  only := by
    intro child helper answer delay there brings
    obtain born | ⟨old, earlier, same⟩ := born_or_kept sound free there
    · exact absurd (.inl (born.helps sound (by rw [brings]; rfl)).1) foreign
    · exact expects.only child old answer delay earlier (same.trans brings)

/-- Only the task that brings a waiting request its answer tells it one, and that one. -/
theorem Expects.told_by (expects : world.Expects fetch) {stage : Stage}
    (tells : world.Tells move fetch.task stage) :
    move = .resume fetch.helper ∧ stage = .awaitingMessage (some fetch.answer) := by
  obtain ⟨teller, running, rfl, there, answer, delay, brings, rfl⟩ := tells
  obtain rfl := expects.only teller running answer delay there brings
  obtain ⟨actor, stage, same⟩ := expects.helps
  obtain rfl := Option.some.inj (same.symm.trans there)
  obtain ⟨rfl, -⟩ : DelayedAnswer.message fetch.answer = answer ∧ fetch.delay = delay := by
    simpa using brings
  exact ⟨rfl, rfl⟩

/-- The task that brings an answer is not the one that waits for it. -/
theorem Expects.differ (expects : world.Expects fetch) : fetch.helper ≠ fetch.task := by
  intro same
  obtain ⟨actor, stage, brings⟩ := expects.helps
  obtain ⟨told, ⟨owner, ack, -, waits⟩, -⟩ := expects.waits
  rw [same] at brings
  simpa using brings.symm.trans waits

/-- A step of the task that brings an answer is none of the one that waits for it. -/
theorem Expects.not_isOwn (expects : world.Expects fetch) :
    ¬ (Move.resume fetch.helper).IsOwn fetch.task := by
  simp [Move.IsOwn, expects.differ]

/-- A request that waits for an answer has not ended. -/
theorem Expects.unended (expects : world.Expects fetch) : world.outcome? fetch.task = none := by
  obtain ⟨told, ⟨actor, ack, -, waits⟩, -⟩ := expects.waits
  exact outcome?_of_alive waits fun outcome => by simp

/-- Time does not pass beyond the moment at which an answer is due for which a request waits. -/
theorem Expects.bounded (expects : world.Expects fetch) : world.now ≤ fetch.due ∧
    ∀ moment, world.mayPass moment = true → world.now < fetch.due ∧ moment ≤ fetch.due := by
  have stands {task : TaskId} (ready : task ∈ world.ready) (within : world.now ≤ fetch.due) :
      world.now ≤ fetch.due ∧
        ∀ moment, world.mayPass moment = true → world.now < fetch.due ∧ moment ≤ fetch.due :=
    ⟨within, fun moment passes => absurd passes (not_mayPass_of_ready ready moment)⟩
  obtain ⟨told, -, underway⟩ := expects.waits
  cases underway with
  | called fresh clock => exact stands fresh.ready (by omega)
  | told instant ready => exact stands ready (Nat.le_of_eq instant)
  | asleep there sleeps wakes =>
    obtain ⟨early, set⟩ | ⟨instant, ready⟩ := wakes
    · refine ⟨Nat.le_of_lt early, fun moment passes => ⟨early, ?_⟩⟩
      simp only [mayPass, Bool.and_eq_true, List.all_eq_true, decide_eq_true_eq] at passes
      exact passes.2 _ set
    · exact stands ready (Nat.le_of_eq instant)

/-- A request goes on waiting in all moves that are not its own, nor those of the task that brings
it the answer. -/
theorem Expects.foreign (expects : world.Expects fetch) (sound : world.Sound)
    (free : world.isOpen move = true) (mine : ¬ move.IsOwn fetch.task)
    (other : ¬ move.IsOwn fetch.helper) : (world.apply move).Expects fetch := by
  obtain ⟨told, ⟨actor, ack, manual, waits⟩, underway⟩ := expects.waits
  refine expects.of_apply sound move free mine told ⟨actor, ack, manual, ?_⟩ ?_
  · obtain ⟨stage, after, rfl | ⟨-, tells⟩ | ⟨own, -⟩⟩ := kept_apply sound move waits
    · exact after
    · exact absurd (.inl (expects.told_by tells).1) other
    · exact absurd own mine
  · cases underway with
    | called fresh clock =>
      exact .called (fresh.apply sound other)
        (by rw [now_apply_of_ready sound free fresh.ready]; exact clock)
    | @asleep helper there sleeps wakes =>
      obtain ⟨stage, after, rfl | ⟨alike, -⟩ | ⟨own, -⟩⟩ := kept_apply sound move there
      · refine .asleep after sleeps ?_
        obtain ⟨early, set⟩ | ⟨instant, ready⟩ := wakes
        · exact mem_timers_apply sound free other early set
        · exact .inr ⟨(now_apply_of_ready sound free ready).trans instant,
            mem_ready_apply sound other ready⟩
      · rw [sleeps] at alike
        exact alike.elim
      · exact absurd own other
    | told instant ready =>
      exact .told ((now_apply_of_ready sound free ready).trans instant)
        (mem_ready_apply sound mine ready)

/-- A request that is resumed before its answer has come goes on waiting. -/
theorem Expects.idle (expects : world.Expects fetch) (waits : Attends fetch world none)
    (underway : Underway fetch world none) : (world.resume fetch.task).Expects fetch := by
  have same : world.resume fetch.task = { world with ready := world.ready.erase fetch.task } := by
    obtain ⟨actor, ack, -, there⟩ := waits
    rw [resume_eq there]
    rfl
  have spared (ready : fetch.helper ∈ world.ready) :
      fetch.helper ∈ world.ready.erase fetch.task := (List.mem_erase_of_ne expects.differ).mpr ready
  rw [same]
  refine ⟨expects.late, ⟨none, waits, ?_⟩, expects.helps, expects.only⟩
  cases underway with
  | called fresh clock => exact .called ⟨fresh.there, fresh.unrun, spared fresh.ready⟩ clock
  | asleep there sleeps wakes =>
    exact .asleep there sleeps (wakes.imp_right fun ⟨instant, ready⟩ => ⟨instant, spared ready⟩)

/-- The task that brings an answer sleeps after its first step. -/
theorem Expects.sleeps (expects : world.Expects fetch) (sound : world.Sound)
    (free : world.isOpen (.resume fetch.helper) = true) (waits : Attends fetch world none)
    {helper : Task} (fresh : world.Fresh fetch.helper helper)
    (clock : world.now + fetch.delay = fetch.due) :
    (world.resume fetch.helper).Expects fetch := by
  have late := expects.late
  obtain ⟨actor, ack, manual, stays⟩ := waits
  obtain ⟨owner, stage, brings⟩ := expects.helps
  obtain rfl := Option.some.inj (brings.symm.trans fresh.there)
  obtain rfl : stage = .fresh := fresh.unrun
  have same : world.resume fetch.helper =
      (({ world with ready := world.ready.erase fetch.helper } : World).setTimer fetch.helper
        fetch.due).setStage fetch.helper (.sleeping fetch.due) := by
    rw [resume_eq brings, ← clock]
    rfl
  refine expects.of_apply sound (.resume fetch.helper) free expects.not_isOwn none
    ⟨actor, ack, manual, ?_⟩ ?_
  · rw [World.apply, same, getElem?_setStage, if_neg expects.differ]
    exact stays
  · rw [World.apply, same]
    have later : ((({ world with ready := world.ready.erase fetch.helper } : World).setTimer
        fetch.helper fetch.due).setStage fetch.helper (.sleeping fetch.due)).tasks[fetch.helper]? =
          some ⟨owner, .deliverAnswer fetch.task (.message fetch.answer) fetch.delay,
            .sleeping fetch.due⟩ := by
      rw [getElem?_setStage, if_pos rfl]
      show Option.map _ world.tasks[fetch.helper]? = _
      rw [brings]
      rfl
    refine .asleep later rfl (.inl ⟨?_, ?_⟩)
    · show world.now < fetch.due
      omega
    · exact List.mem_append_right _ (List.mem_singleton.mpr rfl)

/-- The task that brings an answer goes on sleeping if it is woken before the answer is due. -/
theorem Expects.sleeps_on (expects : world.Expects fetch) (waits : Attends fetch world none)
    {helper : Task} (there : world.tasks[fetch.helper]? = some helper)
    (sleeps : helper.stage = .sleeping fetch.due) (early : world.now < fetch.due)
    (set : ⟨fetch.due, fetch.helper⟩ ∈ world.timers) :
    (world.resume fetch.helper).Expects fetch := by
  obtain ⟨owner, stage, brings⟩ := expects.helps
  obtain rfl := Option.some.inj (brings.symm.trans there)
  obtain rfl : stage = .sleeping fetch.due := sleeps
  have idle : world.resume fetch.helper =
      { world with ready := world.ready.erase fetch.helper } := by
    rw [resume_eq there]
    exact if_neg (Nat.not_le.mpr early)
  rw [idle]
  exact ⟨expects.late, ⟨none, waits, .asleep there rfl (.inl ⟨early, set⟩)⟩, expects.helps,
    expects.only⟩

/-- The task that brings an answer tells it at the moment at which it is due. -/
theorem Expects.tells (expects : world.Expects fetch) (waits : Attends fetch world none)
    {helper : Task} (there : world.tasks[fetch.helper]? = some helper)
    (sleeps : helper.stage = .sleeping fetch.due) (instant : world.now = fetch.due) :
    Attends fetch (world.resume fetch.helper) (some fetch.answer) ∧
      fetch.task ∈ (world.resume fetch.helper).ready := by
  obtain ⟨actor, ack, manual, stays⟩ := waits
  obtain ⟨owner, stage, brings⟩ := expects.helps
  obtain rfl := Option.some.inj (brings.symm.trans there)
  obtain rfl : stage = .sleeping fetch.due := sleeps
  generalize ended_eq : (({ world with ready := world.ready.erase fetch.helper } : World).finish
    fetch.helper (.returned (.ok .done))) = ended
  have still : ended.tasks[fetch.task]? = some ⟨actor, .request fetch.site
      (.consume fetch.group fetch.topic ack), .awaitingMessage none⟩ := by
    rw [← ended_eq, getElem?_finish, if_neg expects.differ]
    exact stays
  have tells : world.resume fetch.helper = (ended.setStage fetch.task
      (.awaitingMessage (some fetch.answer))).wake fetch.task := by
    rw [resume_eq there]
    simp only [proceed, awaken]
    rw [if_pos (Nat.le_of_eq instant.symm), ended_eq]
    simp only [tellAnswer, still]
  rw [tells]
  refine ⟨⟨actor, ack, manual, ?_⟩, mem_ready_wake_self _ fetch.task⟩
  obtain ⟨ready, woken⟩ := exists_wake (ended.setStage fetch.task
    (.awaitingMessage (some fetch.answer))) fetch.task
  rw [woken]
  show (ended.setStage fetch.task _).tasks[fetch.task]? = _
  rw [getElem?_setStage, if_pos rfl, still]
  rfl

/-- A step of the task that brings the answer leaves the request waiting. -/
theorem Expects.helper (expects : world.Expects fetch) (sound : world.Sound)
    (free : world.isOpen (.resume fetch.helper) = true) :
    (world.resume fetch.helper).Expects fetch := by
  have clock {task : TaskId} (ready : task ∈ world.ready) (instant : world.now = fetch.due) :
      (world.apply (.resume fetch.helper)).now = fetch.due :=
    (now_apply_of_ready sound free ready).trans instant
  obtain ⟨told, waits, underway⟩ := expects.waits
  cases underway with
  | called fresh clock => exact expects.sleeps sound free waits fresh clock
  | asleep there sleeps wakes =>
    obtain ⟨early, set⟩ | ⟨instant, ready⟩ := wakes
    · exact expects.sleeps_on waits there sleeps early set
    · obtain ⟨after, woken⟩ := expects.tells waits there sleeps instant
      exact expects.of_apply sound (.resume fetch.helper) free expects.not_isOwn _ after
        (.told (clock ready instant) woken)
  | told instant ready =>
    obtain ⟨actor, ack, manual, stays⟩ := waits
    refine expects.of_apply sound (.resume fetch.helper) free expects.not_isOwn _
      ⟨actor, ack, manual, ?_⟩ (.told (clock ready instant)
        (mem_ready_apply sound expects.not_isOwn ready))
    obtain ⟨stage, after, rfl | ⟨-, tells⟩ | ⟨own, -⟩⟩ :=
      kept_apply sound (.resume fetch.helper) stays
    · exact after
    · -- were it to tell an answer again, it would be the same
      obtain rfl := (expects.told_by tells).2
      exact after
    · exact absurd own expects.not_isOwn

/-- A request that has been told its answer ends with it in its next step. -/
theorem Expects.answered (expects : world.Expects fetch)
    (waits : Attends fetch world (some fetch.answer)) (instant : world.now = fetch.due) :
    Answered world fetch.task fetch.site fetch.group fetch.topic fetch.fetched := by
  obtain ⟨actor, ack, manual, there⟩ := waits
  have same : world.resume fetch.task =
      ({ world with ready := world.ready.erase fetch.task } : World).receiveMessage fetch.task
        actor fetch.site fetch.group fetch.topic ack fetch.answer := by
    rw [resume_eq there]
    rfl
  have mine : ({ world with ready := world.ready.erase fetch.task } : World).tasks[fetch.task]? =
    some _ := there
  have brings : fetch.fetched.answer = some fetch.answer := rfl
  obtain ⟨returns, routes⟩ :=
    receiveMessage_spec mine actor fetch.site fetch.group fetch.topic manual brings
  refine ⟨instant, expects.unended, ?_, fun other => ?_⟩
  · rw [same]
    exact returns
  · rw [same]
    exact routes other

/-- When an answer is due, two steps are enough to end the request that waits for it: it is told
the answer, and returns it. -/
theorem Expects.settlesIn (expects : world.Expects fetch) (sound : world.Sound)
    (instant : world.now = fetch.due) : world.SettlesIn 2 fetch.task fetch.fetched.result := by
  have runs {before : World} {task : TaskId} (ready : task ∈ before.ready) :
      before.isOpen (.resume task) = true := by simpa [isOpen] using ready
  have late := expects.late
  obtain ⟨told, waits, underway⟩ := expects.waits
  cases underway with
  | called fresh clock => omega
  | asleep there sleeps wakes =>
    obtain ⟨early, -⟩ | ⟨-, ready⟩ := wakes
    · omega
    have free := runs ready
    obtain ⟨after, woken⟩ := expects.tells waits there sleeps instant
    have clock : (world.resume fetch.helper).now = fetch.due :=
      (now_apply_of_ready sound free ready).trans instant
    have answered := (expects.helper sound free).answered after clock
    refine ⟨[fetch.helper, fetch.task], _, Nat.le_refl 2, ?_, answered.returns⟩
    simp [play?, World.apply, free, runs woken]
  | told _ ready =>
    refine ⟨[fetch.task], _, Nat.le_succ 1, ?_, (expects.answered waits instant).returns⟩
    simp [play?, World.apply, runs ready]

/-- After a move a request still waits, or the caller has cancelled it, or it has made a step of
its own and ended with its answer. -/
theorem Expects.apply (expects : world.Expects fetch) (sound : world.Sound)
    (free : world.isOpen move = true) : (world.apply move).Expects fetch ∨
      (move = .cancel fetch.task ∧ (world.apply move).outcome? fetch.task = some .cancelled) ∨
      (move = .resume fetch.task ∧
        Answered world fetch.task fetch.site fetch.group fetch.topic fetch.fetched) := by
  by_cases mine : move.IsOwn fetch.task
  · obtain ⟨told, waits, underway⟩ := expects.waits
    obtain rfl | rfl := mine
    · cases told with
      | none => exact .inl (expects.idle waits underway)
      | some answer =>
        cases underway with
        | told instant ready => exact .inr (.inr ⟨rfl, expects.answered waits instant⟩)
    · obtain ⟨actor, ack, -, there⟩ := waits
      exact .inr (.inl ⟨rfl, outcome?_cancel sound there (by simp) rfl⟩)
  · -- nobody can cancel the task that brings the answer, since it is no call
    left
    by_cases other : move.IsOwn fetch.helper
    · obtain rfl | rfl := other
      · exact expects.helper sound free
      · obtain ⟨actor, stage, brings⟩ := expects.helps
        simp [isOpen, isCall, brings] at free
    · exact expects.foreign sound free mine other

/-- What has become of a request that waits for an answer. -/
theorem Expects.unfolds (expects : world.Expects fetch) (sound : world.Sound)
    (played : world.play? moves = some last) : last.Expects fetch ∨
      (Move.cancel fetch.task ∈ moves ∧ last.outcome? fetch.task = some .cancelled) ∨
      ∃ before, world.Makes moves (.resume fetch.task) before ∧
        Answered before fetch.task fetch.site fetch.group fetch.topic fetch.fetched ∧
        last.outcome? fetch.task = some (.returned fetch.fetched.result) := by
  induction moves, last, played using run_induction with
  | nil =>
    exact .inl expects
  | concat moves middle move before free ih =>
    have kept : middle.Sound := sound.reaches ⟨moves, before⟩
    obtain still | ⟨called, ended⟩ | ⟨instant, makes, answered, ended⟩ := ih
    · obtain later | ⟨rfl, ended⟩ | ⟨rfl, answered⟩ := still.apply kept free
      · exact .inl later
      · exact .inr (.inl ⟨by simp, ended⟩)
      · exact .inr (.inr ⟨middle, makes_last _ before, answered, answered.returns⟩)
    · exact .inr (.inl ⟨List.mem_append_left _ called, outcome?_apply kept move ended⟩)
    · exact .inr (.inr ⟨instant, makes.concat move, answered, outcome?_apply kept move ended⟩)

/-- What becomes of a consume request, from its first step on, is what the consumer answers when
it is asked. -/
theorem unfolds_consume (sound : world.Sound) (stands : world.Fresh task found)
    (asks : found.purpose = .request site (.consume group topic ack)) (manual : ack ≠ .auto)
    (here : world.sites[site]? = some place) (unaided : world.Unaided task)
    (played : world.play? (.resume task :: moves) = some last) :
    Unfolds world last (.resume task :: moves) task site group topic
      (world.fetched place group topic) := by
  simp only [play?, Option.ite_none_right_eq_some] at played
  obtain ⟨free, onward⟩ := played
  have kept : (world.apply (.resume task)).Sound := sound.apply free
  obtain answered | ⟨fetch, expects, rfl, rfl, rfl, rfl, same⟩ :=
    answered_or_expects stands asks manual here unaided
  · exact .answered ⟨[], moves, rfl, rfl⟩ answered
      (kept.outcome?_reaches ⟨moves, onward⟩ answered.returns)
  · rw [← same]
    obtain still | ⟨called, ended⟩ | ⟨before, ⟨early, late, split, first⟩, answered, ended⟩ :=
      Expects.unfolds expects kept onward
    · exact .pending still.unended still.bounded.1 still.bounded.2
        (still.settlesIn (kept.reaches ⟨moves, onward⟩))
    · exact .cancelled (List.mem_cons_of_mem _ called) ended
    · refine .answered ⟨.resume fetch.task :: early, late, by rw [split]; rfl, ?_⟩ answered ended
      rw [play?, if_pos free]
      exact first

/-- A world in which a request carries another acknowledgement. -/
theorem getElem?_carrying (world : World) (task : TaskId) (site : SiteId) (group topic : String)
    (ack : Ack) (other : TaskId) : (world.carrying task site group topic ack).tasks[other]? =
      if task = other then (world.tasks[other]?).map fun found =>
        { found with purpose := .request site (.consume group topic ack) }
      else world.tasks[other]? := by
  simp only [carrying, List.getElem?_modify]
  split <;> simp

/-- A request that stands before its first step does so whatever it carries. -/
theorem Fresh.carrying (stands : world.Fresh task found) (site : SiteId) (group topic : String)
    (ack : Ack) : (world.carrying task site group topic ack).Fresh task
      { found with purpose := .request site (.consume group topic ack) } where
  there := by
    rw [getElem?_carrying, if_pos rfl, stands.there]
    rfl
  unrun := stands.unrun
  ready := stands.ready

/-- A world is sound whatever a request carries that stands before its first step. -/
theorem Sound.carrying (sound : world.Sound) (stands : world.Fresh task found) (site : SiteId)
    (group topic : String) (ack : Ack) : (world.carrying task site group topic ack).Sound := by
  intro other later there
  rw [getElem?_carrying] at there
  split at there
  · rename_i same
    subst same
    rw [stands.there] at there
    obtain rfl := Option.some.inj there
    refine ⟨?_, List.nodup_nil⟩
    rw [stands.unrun]
    trivial
  · exact sound other later there

/-- A request has no helper whatever it carries. -/
theorem Unaided.carrying (unaided : world.Unaided task) (site : SiteId) (group topic : String)
    (ack : Ack) : (world.carrying task site group topic ack).Unaided task := by
  intro child helper there
  rw [getElem?_carrying] at there
  split at there
  · obtain ⟨earlier, -, rfl⟩ := Option.map_eq_some_iff.mp there
    simp [Purpose.helps?]
  · exact unaided child helper there

/-- To make a request with another acknowledgement is to carry it. -/
theorem carrying_request (world : World) (site : SiteId) (group topic : String) (ack other : Ack) :
    (world.apply (.request site (.consume group topic ack))).carrying world.tasks.length site
      group topic other = world.apply (.request site (.consume group topic other)) := by
  simp [carrying, World.apply, spawn, List.modify_eq_take_cons_drop]

/-- A run that ends with a request leads to a world in which it is about to begin; the same run
with another acknowledgement leads to that world but for the acknowledgement. -/
theorem play?_request
    (played : start.play? (moves ++ [.request site (.consume group topic ack)]) = some world)
    (other : Ack) : ∃ task, task + 1 = world.tasks.length ∧
      world.Fresh task ⟨none, .request site (.consume group topic ack), .fresh⟩ ∧
      start.play? (moves ++ [.request site (.consume group topic other)]) =
        some (world.carrying task site group topic other) := by
  obtain ⟨before, first, -, rfl⟩ := play?_concat played
  refine ⟨before.tasks.length, by simp [World.apply, spawn], fresh_spawn .., ?_⟩
  rw [play?_append, first, carrying_request]
  rfl

/-- In every world that can be reached, a consume request that is about to begin asks the consumer
for the same, is given the same answer at the same time and has the same routes recorded,
whichever acknowledgement it carries, if it is not to acknowledge the message it fetches. So it
does whatever moves follow, in the world as it is and in the one that differs from it in that
acknowledgement only. -/
theorem fetch_unaffected (opened : start.Opened) (reaches : start.Reaches world)
    {actor : Option String}
    (stands : world.Fresh task ⟨actor, .request site (.consume group topic ack), .fresh⟩)
    (here : world.sites[site]? = some place) {other : Ack} (manual : ack ≠ .auto)
    (free : other ≠ .auto) :
    ((world.carrying task site group topic other).resume task).sites =
        (world.resume task).sites ∧
      (∀ moves last, world.play? (.resume task :: moves) = some last →
        Unfolds world last (.resume task :: moves) task site group topic
          (world.fetched place group topic)) ∧
      ∀ moves last,
        (world.carrying task site group topic other).play? (.resume task :: moves) = some last →
        Unfolds (world.carrying task site group topic other) last (.resume task :: moves) task site
          group topic (world.fetched place group topic) := by
  have sound : world.Sound := opened.sound.reaches reaches
  have unaided : world.Unaided task := opened.unaided reaches stands.there rfl
  have still := stands.carrying site group topic other
  have alone := unaided.carrying site group topic other
  have at_site : (world.carrying task site group topic other).sites[site]? = some place := here
  refine ⟨?_, fun moves last played => unfolds_consume sound stands rfl manual here unaided played,
    fun moves last played => unfolds_consume (sound.carrying stands site group topic other) still
      rfl free at_site alone played⟩
  obtain ⟨noted, sites, script, -, -, -, begins⟩ := resume_consume stands rfl manual here unaided
  obtain ⟨noted', sites', script', -, -, -, begins'⟩ :=
    resume_consume still rfl free at_site alone
  rw [begins, begins']
  exact sites_beginFetch_congr (sites'.trans sites.symm) (script'.trans script.symm) actor place
    free manual

/-- Two messages are there, of which the second takes a while to come; the first is fetched and
acknowledged. -/
def firstFetch : List Move :=
  [.enqueue 0 "g" "t" [⟨.message none 0 0 2 none [97], 0⟩, ⟨.message none 0 1 2 none [98], 5⟩],
    .request 0 (.consume "g" "t" .auto), .resume 0]

/-- The second message comes at the same time if its request carries an acknowledgement, for which
the session has no room. -/
theorem fetch_unaffected_fullSession : ∃ plain carrying place last stuck,
    narrowGateway.play? (firstFetch ++ [.request 0 (.consume "g" "t" .none)]) = some plain ∧
    narrowGateway.play? (firstFetch ++ [.request 0 (.consume "g" "t" (.explicit 0 0))]) =
      some carrying ∧
    plain.play? [.resume 1, .resume 2, .pass 5, .resume 2, .resume 1] = some last ∧
    Unfolds plain last [.resume 1, .resume 2, .pass 5, .resume 2, .resume 1] 1 0 "g" "t"
      (plain.fetched place "g" "t") ∧
    carrying.play? [.resume 1, .resume 2, .resume 3, .pass 5, .resume 3, .resume 1] = some stuck ∧
    Unfolds carrying stuck [.resume 1, .resume 2, .resume 3, .pass 5, .resume 3, .resume 1]
      1 0 "g" "t" (plain.fetched place "g" "t") ∧
    (plain.fetched place "g" "t").due = 5 ∧ stuck.dispatch? 2 = some ⟨0, 0, 0, some 1000⟩ := by
  have begins : (narrowGateway.play? (firstFetch ++ [.request 0 (.consume "g" "t" .none)])).bind
      (fun plain => (plain.sites[0]?).bind fun place =>
        (plain.play? [.resume 1, .resume 2, .pass 5, .resume 2, .resume 1]).bind fun _ =>
        ((plain.carrying 1 0 "g" "t" (.explicit 0 0)).play?
          [.resume 1, .resume 2, .resume 3, .pass 5, .resume 3, .resume 1]).map fun stuck =>
        (plain.tasks.length, (plain.fetched place "g" "t").due, stuck.dispatch? 2)) =
      some (2, 5, some ⟨0, 0, 0, some 1000⟩) := rfl
  obtain ⟨plain, played, plain_eq⟩ := Option.bind_eq_some_iff.mp begins
  obtain ⟨place, here, place_eq⟩ := Option.bind_eq_some_iff.mp plain_eq
  obtain ⟨last, goes_on, last_eq⟩ := Option.bind_eq_some_iff.mp place_eq
  obtain ⟨stuck, waits, same⟩ := Option.map_eq_some_iff.mp last_eq
  simp only [Prod.mk.injEq] at same
  obtain ⟨count, due, pending⟩ := same
  obtain ⟨task, next, stands, carried⟩ := play?_request played (.explicit 0 0)
  obtain rfl : task = 1 := by omega
  obtain ⟨-, unfolds, alike⟩ := fetch_unaffected opened_narrowGateway ⟨_, played⟩ stands here
    (show Ack.none ≠ .auto by simp) (show Ack.explicit 0 0 ≠ .auto by simp)
  exact ⟨plain, _, place, last, stuck, played, carried, goes_on, unfolds _ last goes_on, waits,
    alike _ stuck waits, due, pending⟩

end World

end ClusterGateway
