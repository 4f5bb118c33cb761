import ClusterGateway.Proofs.Delivery.Ownership

/-!
# Handing acknowledgements on

A consume request hands its explicit acknowledgement on when it runs for the first time, to
a task of its own, and to the session that is recorded for the partition just then. Main
statements: `exists_enters`, where such a task comes from, and `Opened.kin`, no two of them
act for the same request.
-/

namespace ClusterGateway

/-- The consume request on whose behalf a task delivers an acknowledgement. -/
def Purpose.principal? : Purpose → Option TaskId
  | .deliverAck _ _ _ _ parent => some parent
  | _ => none

/-- No task is started as part of a request to act for another. -/
theorem Purpose.Bears.principal? {parent : TaskId} {purpose child : Purpose}
    (bears : purpose.Bears parent child) : child.principal? = none := by
  unfold Purpose.Bears at bears
  split at bears <;> first | exact bears.elim | rfl

namespace World

variable {world before after : World} {me child task : TaskId} {found : Task} {site : SiteId}
  {key : RoutingKey} {offset : Int64} {number : SessionId} {move : Move}

/-- In a world a task is there that has run. -/
def Ran (world : World) (task : TaskId) : Prop :=
  ∃ found, world.tasks[task]? = some found ∧ found.stage ≠ .fresh

/-- In a world a session is recorded for a key. -/
def Routes (world : World) (site : SiteId) (key : RoutingKey) (number : SessionId) : Prop :=
  ∃ place, world.sites[site]? = some place ∧ place.gateway.routes.get? key = some number

/-- A task that waits somewhere has run. -/
theorem ran_setStage {stage : Stage} (there : world.tasks[me]? = some found)
    (ran : stage ≠ .fresh) : (world.setStage me stage).Ran me := by
  refine ⟨{ found with stage := stage }, ?_, ran⟩
  rw [getElem?_setStage, if_pos rfl, there]
  rfl

/-- A task that has ended has run. -/
theorem ran_conclude (there : world.tasks[me]? = some found) (result : Except Error Reply) :
    (world.conclude me result).Ran me := by
  refine ⟨{ found with stage := .ended (.returned result) }, ?_, nofun⟩
  rw [conclude, getElem?_finish, if_pos rfl, there]
  rfl

/-- A consume request that has got its answer has run. -/
theorem ran_receiveMessage (there : world.tasks[me]? = some found) (actor : Option String)
    (group topic : String) (ack : Ack) (answer : Answer Message) :
    (world.receiveMessage me actor site group topic ack answer).Ran me := by
  cases answer with
  | dropped => exact ran_conclude there _
  | reply result =>
    cases result with
    | error error => exact ran_conclude there _
    | ok message =>
      have routed : (world.onGateway site (·.route group topic message)).tasks[me]? =
        some found := there
      simp only [receiveMessage]
      split
      · generalize world.onGateway site (·.route group topic message) = middle at routed ⊢
        have sent : (middle.trySend me site message.session message.offset).1.tasks[me]? =
            some found := by
          obtain ⟨_, -, -, same⟩ | ⟨_, -, -, same⟩ | ⟨-, same⟩ :=
            trySend_cases middle me site message.session message.offset
          · rw [same]
            exact there_onSession site message.session _ routed
          · rw [same]
            exact there_onSession site message.session _ routed
          · rw [same]
            exact routed
        generalize middle.trySend me site message.session message.offset = tried at sent ⊢
        obtain ⟨after, attempt⟩ := tried
        cases attempt with
        | accepted => exact ran_conclude sent _
        | full => exact ran_setStage sent (by simp)
        | closed =>
          have noted : (after.note actor [autoAckDropped group topic message]).tasks[me]? =
            some found := sent
          exact ran_conclude noted _
      · exact ran_conclude routed _

/-- A consume request that has asked for a message has run. -/
theorem ran_beginFetch {place : Site} (there : world.tasks[me]? = some found)
    (actor : Option String) (group topic : String) (ack : Ack) :
    (world.beginFetch me actor site place group topic ack).Ran me := by
  unfold beginFetch
  split
  · generalize place.broker.fetch world.script group topic = result
    obtain ⟨broker, answer, delay⟩ := result
    dsimp only
    have served : (world.onBroker site fun _ => broker).tasks[me]? = some found := there
    split
    · exact ran_receiveMessage served actor group topic ack answer
    · exact ran_setStage (getElem?_spawn_of_some _ served) nofun
  · exact ran_conclude there _

/-- A task that has run stays so. -/
theorem Ran.apply (sound : world.Sound) (ran : world.Ran task) (move : Move) :
    (world.apply move).Ran task := by
  obtain ⟨found, there, aged⟩ := ran
  obtain ⟨stage, later, moved⟩ := kept_apply sound move there
  refine ⟨_, later, ?_⟩
  obtain rfl | ⟨alike, -⟩ | ⟨-, -, own⟩ := moved
  · exact aged
  · exact alike.ran
  · exact own

/-- A task that acts for a consume request was started in the first step of that request, for
the session that was recorded then, as the only one that may be. -/
structure HandsOver (before after : World) (principal child : TaskId) (site : SiteId)
    (key : RoutingKey) (offset : Int64) (number : SessionId) : Prop where
  fresh : ∃ running group topic partition, before.tasks[principal]? = some running ∧
    running.stage = .fresh ∧ key = ⟨group, topic, partition⟩ ∧
      running.purpose = .request site (.consume group topic (.explicit partition offset))
  routes : before.Routes site key number
  next : child = before.tasks.length
  ran : after.Ran principal

/-- The first step of a consume request with an explicit acknowledgement: the acknowledgement
is handed on before a message is fetched. -/
theorem resume_entrusting {group topic : String} {partition : Int32}
    (mine : world.tasks[me]? = some found) (fresh : found.stage = .fresh)
    (asks : found.purpose = .request site (.consume group topic (.explicit partition offset))) :
    world.resume me =
        ({ world with ready := world.ready.erase me } : World).finish me .broken ∨
      ∃ place, world.sites[site]? = some place ∧ world.resume me =
        (({ world with ready := world.ready.erase me } : World).beginBackgroundAck me site place
          found.actor ⟨group, topic, partition⟩ offset).beginFetch me found.actor site place group
            topic (.explicit partition offset) := by
  rw [resume_eq mine]
  cases here : world.sites[site]? with
  | none =>
    left
    simp only [proceed, fresh, asks, start, here]
  | some place =>
    right
    refine ⟨place, rfl, ?_⟩
    simp only [proceed, fresh, asks, start, here, beginConsume]

/-- Handing an acknowledgement on starts one task at most. -/
theorem child_beginBackgroundAck (me : TaskId) (site : SiteId) (place : Site) (key : RoutingKey)
    (offset : Int64) (absent : world.tasks[child]? = none) (actor : Option String) :
    (world.beginBackgroundAck me site place actor key offset).tasks[child]? = none ∨
      ∃ number owner, place.gateway.routes.get? key = some number ∧
        child = world.tasks.length ∧
        (world.beginBackgroundAck me site place actor key offset).tasks[child]? =
          some ⟨owner, .deliverAck site key offset number me, .fresh⟩ := by
  unfold beginBackgroundAck
  split
  · exact .inl absent
  · rename_i number routed
    cases there : (world.spawn (some (place.gateway.task.child "ack").text)
        (.deliverAck site key offset number me)).1.tasks[child]? with
    | none => exact .inl rfl
    | some found =>
      obtain ⟨next, rfl⟩ := getElem?_spawn_of_none world absent there
      exact .inr ⟨number, _, routed, next, rfl⟩

/-- A consume request that runs for the first time starts at most one task that acts for it. -/
theorem handsOver_resume {group topic : String} {partition : Int32} {principal : TaskId}
    {running : Task} {place : SiteId} {sent : Int64} (mine : world.tasks[me]? = some running)
    (fresh : running.stage = .fresh)
    (purpose : running.purpose = .request place (.consume group topic (.explicit partition sent)))
    (absent : world.tasks[child]? = none) (there : (world.resume me).tasks[child]? = some found)
    (asks : found.purpose = .deliverAck site key offset number principal) :
    me = principal ∧ HandsOver world (world.resume me) principal child site key offset number := by
  have foreign : child ≠ me := by
    rintro rfl
    exact absurd (absent.symm.trans mine) (by simp)
  generalize left_eq : ({ world with ready := world.ready.erase me } : World) = left
  have at_left : left.tasks[me]? = some running := by rw [← left_eq]; exact mine
  have not_left : left.tasks[child]? = none := by rw [← left_eq]; exact absent
  obtain broken | ⟨found_site, here, same⟩ := resume_entrusting mine fresh purpose
  · rw [broken, left_eq, getElem?_finish, if_neg (Ne.symm foreign), not_left] at there
    simp at there
  rw [left_eq] at same
  have at_site : left.sites[place]? = some found_site := by rw [← left_eq]; exact here
  rw [same] at there ⊢
  generalize middle_eq : left.beginBackgroundAck me place found_site running.actor
    ⟨group, topic, partition⟩ sent = middle at there ⊢
  have still : middle.tasks[me]? = some running := by
    rw [← middle_eq]
    exact there_beginBackgroundAck at_left running.actor _ sent
  have served : middle.sites = left.sites := by
    rw [← middle_eq]
    exact sites_beginBackgroundAck left found_site running.actor _ sent
  have handed := child_beginBackgroundAck me place found_site ⟨group, topic, partition⟩ sent
    not_left running.actor
  rw [middle_eq] at handed
  rw [← served] at at_site
  have strokes : Strokes me (.request place (.consume group topic (.explicit partition sent)))
      True False middle (middle.beginFetch me running.actor place found_site group topic
        (.explicit partition sent)) :=
    strokes_beginFetch running.actor group topic _ at_site
  obtain missing | ⟨recorded, owner, routed, next, started⟩ := handed
  · obtain ⟨-, bears | ⟨never, -⟩⟩ := strokes.taskFrame.born child found missing there foreign
    · have nobody := bears.principal?
      rw [asks] at nobody
      exact absurd nobody (by simp [Purpose.principal?])
    · exact never.elim
  · obtain ⟨stage, later, -⟩ := strokes.taskFrame.kept child _ started
    obtain rfl := Option.some.inj (later.symm.trans there)
    cases asks
    refine ⟨rfl, ⟨running, group, topic, partition, mine, fresh, rfl, purpose⟩,
      ⟨found_site, here, routed⟩, ?_, ran_beginFetch still running.actor group topic _⟩
    rw [next, ← left_eq]

/-- Where a task that acts for a consume request comes from. -/
theorem exists_principal (sound : world.Sound) (free : world.isOpen move = true)
    (absent : world.tasks[child]? = none)
    (there : (world.apply move).tasks[child]? = some found) {principal : TaskId}
    (asks : found.purpose = .deliverAck site key offset number principal) :
    move = .resume principal ∧
      HandsOver world (world.apply move) principal child site key offset number := by
  obtain ⟨-, born⟩ := born_apply sound free absent there
  rw [asks] at born
  cases born with
  | @borne me running _ mine bears =>
    have nobody := bears.principal?
    simp [Purpose.principal?] at nobody
  | @handed me running _ mine hands =>
    by_cases first : running.stage = .fresh ∧ running.purpose.Entrusts
    · obtain ⟨fresh, entrusts⟩ := first
      unfold Purpose.Entrusts at entrusts
      split at entrusts
      · rename_i place group topic partition sent purpose
        obtain ⟨rfl, handsOver⟩ := handsOver_resume mine fresh purpose absent there asks
        exact ⟨rfl, handsOver⟩
      · exact entrusts.elim
    · have strokes := strokes_resume_alone mine (sound me running mine).1 first
      have foreign : child ≠ me := by
        rintro rfl
        exact absurd (absent.symm.trans mine) (by simp)
      obtain ⟨-, bears | ⟨never, -⟩⟩ := strokes.taskFrame.born child found absent there foreign
      · have nobody := bears.principal?
        rw [asks] at nobody
        exact absurd nobody (by simp [Purpose.principal?])
      · exact never.elim

/-- A request has run once another task acts for it, and no two tasks act for the same. -/
structure Kin (world : World) : Prop where
  ran : ∀ (child : TaskId) found principal, world.tasks[child]? = some found →
    found.purpose.principal? = some principal → world.Ran principal
  only : ∀ (child other : TaskId) found later principal, world.tasks[child]? = some found →
    world.tasks[other]? = some later → found.purpose.principal? = some principal →
      later.purpose.principal? = some principal → child = other

/-- A task that acts for another delivers an acknowledgement. -/
theorem deliverAck_of_principal? {purpose : Purpose} {principal : TaskId}
    (acts : purpose.principal? = some principal) :
    ∃ site key offset number, purpose = .deliverAck site key offset number principal := by
  cases purpose with
  | deliverAck site key offset number parent =>
    obtain rfl := Option.some.inj acts
    exact ⟨site, key, offset, number, rfl⟩
  | _ => simp [Purpose.principal?] at acts

/-- Before an open move a task was there, or it is the next one. If it acts for a request and
was not there, then that request had not run. -/
theorem Kin.cases (sound : world.Sound) (free : world.isOpen move = true) {principal : TaskId}
    (there : (world.apply move).tasks[child]? = some found)
    (acts : found.purpose.principal? = some principal) :
    (∃ earlier, world.tasks[child]? = some earlier ∧
      earlier.purpose.principal? = some principal) ∨
    child = world.tasks.length ∧ ¬ world.Ran principal ∧ (world.apply move).Ran principal := by
  cases before : world.tasks[child]? with
  | some earlier =>
    obtain ⟨stage, later, -⟩ := kept_apply sound move before
    obtain rfl := Option.some.inj (later.symm.trans there)
    exact .inl ⟨earlier, rfl, acts⟩
  | none =>
    obtain ⟨site, key, offset, number, asks⟩ := deliverAck_of_principal? acts
    obtain ⟨-, handsOver⟩ := exists_principal sound free before there asks
    refine .inr ⟨handsOver.next, ?_, handsOver.ran⟩
    rintro ⟨running, here, aged⟩
    obtain ⟨first, -, -, -, mine, fresh, -⟩ := handsOver.fresh
    obtain rfl := Option.some.inj (mine.symm.trans here)
    exact aged fresh

/-- Open moves let no two tasks act for the same request. -/
theorem Kin.apply (kin : world.Kin) (sound : world.Sound) (free : world.isOpen move = true) :
    (world.apply move).Kin where
  ran := by
    intro child found principal there acts
    obtain ⟨earlier, before, acted⟩ | ⟨-, -, ran⟩ := Kin.cases sound free there acts
    · exact (kin.ran child earlier principal before acted).apply sound move
    · exact ran
  only := by
    intro child other found later principal there here acts too
    obtain ⟨first, before, acted⟩ | ⟨next, unrun, -⟩ := Kin.cases sound free there acts
    · obtain ⟨second, also, acted'⟩ | ⟨-, unrun, -⟩ := Kin.cases sound free here too
      · exact kin.only child other first second principal before also acted acted'
      · exact absurd (kin.ran child first principal before acted) unrun
    · obtain ⟨second, also, acted⟩ | ⟨last, -⟩ := Kin.cases sound free here too
      · exact absurd (kin.ran other second principal also acted) unrun
      · exact next.trans last.symm

/-- In every world that can be reached, no two tasks act for the same request. -/
theorem Opened.kin {start last : World} (opened : start.Opened) (reaches : start.Reaches last) :
    last.Kin := by
  refine opened.sound.keeps (P := Kin) ?_ ⟨?_, ?_⟩ reaches
  · exact fun world move sound free kin => kin.apply sound free
  · intro child found principal there
    simp [opened.untouched.1] at there
  · intro child other found later principal there
    simp [opened.untouched.1] at there

/-- In a run a task of a purpose runs for the first time. -/
structure Enters (start : World) (moves : List Move) (task : TaskId) (purpose : Purpose)
    (world : World) : Prop where
  makes : start.Makes moves (.resume task) world
  there : ∃ actor, world.tasks[task]? = some ⟨actor, purpose, .fresh⟩

/-- A first step is part of a longer run, too. -/
theorem Enters.concat {start : World} {moves : List Move} {purpose : Purpose}
    (enters : Enters start moves task purpose world) (move : Move) :
    Enters start (moves ++ [move]) task purpose world :=
  ⟨enters.makes.concat move, enters.there⟩

/-- A task that acts for a request was started in the first step of that request. -/
theorem exists_handsOver {start last : World} {moves : List Move} (opened : start.Opened)
    (played : start.play? moves = some last) {principal : TaskId}
    (there : last.tasks[child]? = some found)
    (asks : found.purpose = .deliverAck site key offset number principal) :
    ∃ before, start.Makes moves (.resume principal) before ∧
      HandsOver before (before.resume principal) principal child site key offset number := by
  induction moves, last, played using run_induction generalizing found with
  | nil =>
    simp [opened.untouched.1] at there
  | concat moves world move first free ih =>
    have sound : world.Sound := opened.sound.reaches ⟨moves, first⟩
    cases before : world.tasks[child]? with
    | some earlier =>
      obtain ⟨stage, later, -⟩ := kept_apply sound move before
      obtain rfl := Option.some.inj (later.symm.trans there)
      obtain ⟨begun, makes, handsOver⟩ := ih before asks
      exact ⟨begun, makes.concat move, handsOver⟩
    | none =>
      obtain ⟨rfl, handsOver⟩ := exists_principal sound free before there asks
      exact ⟨world, makes_last _ first, handsOver⟩

/-- A task that acts for a request delivers, in every world that can be reached, what that
request was to acknowledge, to the session that was recorded when it ran first. -/
theorem exists_enters {start last : World} {moves : List Move} (opened : start.Opened)
    (played : start.play? moves = some last) {principal : TaskId}
    (there : last.tasks[child]? = some found)
    (asks : found.purpose = .deliverAck site key offset number principal) :
    ∃ group topic partition before, key = ⟨group, topic, partition⟩ ∧
      Enters start moves principal
        (.request site (.consume group topic (.explicit partition offset))) before ∧
      before.Routes site key number := by
  obtain ⟨before, makes, handsOver⟩ := exists_handsOver opened played there asks
  obtain ⟨⟨actor, purpose, stage⟩, group, topic, partition, here, rfl, same, rfl⟩ := handsOver.fresh
  exact ⟨group, topic, partition, before, same, ⟨makes, actor, here⟩, handsOver.routes⟩

end World

end ClusterGateway
