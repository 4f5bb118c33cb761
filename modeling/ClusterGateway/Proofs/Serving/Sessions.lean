import ClusterGateway.Proofs.Serving.Answers
import ClusterGateway.Proofs.Serving.Fetching
import ClusterGateway.Proofs.World.Sites
import Mathlib.Data.Finset.Card

/-!
# Recorded sessions

The session that a gateway has recorded for a group, a topic and a partition is that of the
message which a consume request has obtained last for them. Whether the request acknowledges
the message, and how long that takes, has no part in it. The table is compared with the
history of a run: the list of the messages that its moves have brought to consume requests.
Main statements: `records_apply`, `message?_resume`, `sessions_of_obtained`.
-/

namespace ClusterGateway

/-- A consume request has obtained a message. -/
structure Obtained where
  task : TaskId
  site : SiteId
  group : String
  topic : String
  message : Message
deriving Repr, DecidableEq

/-- What the session of an obtained message is recorded for. -/
def Obtained.key (obtained : Obtained) : RoutingKey :=
  ⟨obtained.group, obtained.topic, obtained.message.partition⟩

/-- The message of an answer that has one. -/
def Answer.message? : Answer Message → Option Message
  | .reply (.ok message) => some message
  | _ => none

/-- The message that a request has: it acknowledges it, or it has returned it. -/
def Stage.message? : Stage → Option Message
  | .acknowledging message => some message
  | .ended (.returned (.ok (.message message))) => some message
  | _ => none

/-- A request that waits for an answer has no message. -/
theorem Stage.AwaitsAlike.message?_eq_none {first second : Stage}
    (alike : first.AwaitsAlike second) : first.message? = none ∧ second.message? = none := by
  unfold AwaitsAlike at alike
  split at alike
  · exact ⟨rfl, rfl⟩
  · exact ⟨rfl, rfl⟩
  · exact alike.elim

/-- The answer that the consumer of a gateway gives at once. -/
def Site.instantAnswer? (place : Site) (script : BrokerScript) (group topic : String) :
    Option (Answer Message) :=
  if place.gateway.holds .consumer then
    let (_, answer, delay) := place.broker.fetch script group topic
    if delay = 0 then some answer else none
  else none

namespace World

/-- The answer with which a consume request goes on when it is resumed: one that has come for it,
or one that the consumer gives at once. -/
def finds? (world : World) (found : Task) : Option (Answer Message) :=
  match found.purpose, found.stage with
  | .request site (.consume group topic _), .fresh =>
    (world.sites[site]?).bind (·.instantAnswer? world.script group topic)
  | .request _ (.consume _ _ _), .awaitingMessage told => told
  | _, _ => none

/-- What a consume request obtains when it is resumed. -/
def obtains? (world : World) (task : TaskId) : Option Obtained :=
  (world.tasks[task]?).bind fun found =>
    match found.purpose with
    | .request site (.consume group topic _) =>
      ((world.finds? found).bind Answer.message?).map (⟨task, site, group, topic, ·⟩)
    | _ => none

/-- The message that a move brings to a consume request, if it brings one. -/
def obtains (world : World) : Move → List Obtained
  | .resume task => (world.obtains? task).toList
  | _ => []

/-- The messages that consume requests at a gateway have obtained in a run, the oldest first. -/
def obtained (start : World) (moves : List Move) (site : SiteId) : List Obtained :=
  (start.chronicle obtains moves).filter fun entry => entry.site = site

/-- The message that a request has. -/
def message? (world : World) (task : TaskId) : Option Message :=
  (world.tasks[task]?).bind (·.stage.message?)

/-- The sessions of some messages are recorded where they were fetched, one after the other. -/
def Records (before after : World) (entries : List Obtained) : Prop :=
  ∀ site, after.routes? site = (before.routes? site).map fun table =>
    (entries.filter fun entry => entry.site = site).foldl
      (fun table entry => table.insert entry.key entry.message.session) table

variable {start world before middle after last : World} {me task : TaskId} {found : Task}
  {site : SiteId} {place : Site} {group topic : String} {ack : Ack} {message : Message}
  {move : Move} {moves : List Move} {entries later : List Obtained} {entry : Obtained}

/-- Where the routes are the same, nothing was recorded. -/
theorem Records.of_routes (same : ∀ site, after.routes? site = before.routes? site) :
    before.Records after [] := by
  intro site
  rw [same site]
  exact Option.map_id'.symm

/-- Where the gateways are the same, nothing was recorded. -/
theorem Records.of_sites (same : after.sites = before.sites) : before.Records after [] :=
  .of_routes fun site => routes?_congr same site

/-- What was recorded one after the other. -/
theorem Records.trans (first : before.Records middle entries)
    (second : middle.Records after later) : before.Records after (entries ++ later) := by
  intro site
  rw [second site, first site, Option.map_map, List.filter_append]
  simp only [List.foldl_append]
  rfl

/-- What was recorded before counts when nothing is recorded after it. -/
theorem Records.idle (first : before.Records middle entries)
    (second : middle.Records after []) : before.Records after entries := by
  have both := first.trans second
  rwa [List.append_nil] at both

/-- A session that changes leaves the routes alone. -/
theorem records_onSession (world : World) (site : SiteId) (session : SessionId)
    (change : Session → Session × List TaskId) :
    world.Records (world.onSession site session change) [] := by
  obtain ⟨ready, same⟩ := exists_onSession world site session change
  rw [same]
  exact .of_routes fun other =>
    routes?_onBroker world site (·.onSession session fun found => (change found).1) other

/-- An attempt to send leaves the routes alone. -/
theorem records_trySend (world : World) (session : SessionId) (offset : Int64) :
    world.Records (world.trySend me site session offset).1 [] := by
  obtain ⟨_, -, -, same⟩ | ⟨_, -, -, same⟩ | ⟨-, same⟩ :=
    trySend_cases world me site session offset
  · rw [same]
    exact records_onSession world site session _
  · rw [same]
    exact records_onSession world site session _
  · rw [same]
    exact .of_sites rfl

/-- A further attempt to send leaves the routes alone. -/
theorem records_retrySend (world : World) (session : SessionId) (offset : Int64) :
    world.Records (world.retrySend me site session offset).1 [] := by
  obtain ⟨_, -, -, -, same⟩ | ⟨_, -, -, -, same⟩ | ⟨-, same⟩ :=
    retrySend_cases world me site session offset
  · rw [same]
    exact records_onSession world site session _
  · rw [same]
    exact .of_sites rfl
  · rw [same]
    exact .of_sites rfl

/-- What follows an attempt to acknowledge a fetched message leaves the routes alone. -/
theorem records_settleAutoAck (world : World) (actor : Option String) (group topic : String)
    (message : Message) (attempt : SendAttempt) :
    world.Records (world.settleAutoAck me actor group topic message attempt) [] := by
  cases attempt <;> exact .of_sites rfl

/-- The session of a message is recorded at the gateway it was fetched from. -/
theorem records_route (world : World) (task : TaskId) (site : SiteId) (group topic : String)
    (message : Message) : world.Records (world.onGateway site (·.route group topic message))
      [⟨task, site, group, topic, message⟩] := by
  intro other
  rw [routes?_onGateway]
  by_cases here : site = other
  · subst here
    rw [if_pos rfl, routes?, Option.map_map]
    simp [Function.comp_def, Gateway.route, Obtained.key]
  · simp [here]

/-- A consume request that gets its answer records the session of the message in it, whether it
acknowledges that message or not. -/
theorem records_receiveMessage (world : World) (actor : Option String) (site : SiteId)
    (group topic : String) (ack : Ack) (answer : Answer Message) :
    world.Records (world.receiveMessage me actor site group topic ack answer)
      (answer.message?.map (⟨me, site, group, topic, ·⟩)).toList := by
  cases answer with
  | dropped => exact .of_sites rfl
  | reply result =>
    cases result with
    | error error => exact .of_sites rfl
    | ok message =>
      have routed := records_route world me site group topic message
      simp only [receiveMessage]
      split
      · exact (routed.idle (records_trySend _ _ _)).idle (records_settleAutoAck _ _ _ _ _ _)
      · exact routed.idle (.of_sites rfl)

/-- A consume request that asks the consumer records the session of a message that it gets at
once. -/
theorem records_beginFetch (world : World) (me : TaskId) (actor : Option String) (site : SiteId)
    (place : Site) (group topic : String) (ack : Ack) :
    world.Records (world.beginFetch me actor site place group topic ack)
      (((place.instantAnswer? world.script group topic).bind Answer.message?).map
        (⟨me, site, group, topic, ·⟩)).toList := by
  unfold beginFetch Site.instantAnswer?
  split
  · generalize place.broker.fetch world.script group topic = result
    obtain ⟨broker, answer, delay⟩ := result
    have served : world.Records (world.onBroker site fun _ => broker) [] :=
      .of_routes fun other => routes?_onBroker world site _ other
    dsimp only
    split
    · exact served.trans (records_receiveMessage _ actor site group topic ack answer)
    · exact served.idle (.of_sites rfl)
  · exact .of_sites rfl

/-- A consume request that begins records the session of a message that it gets at once. -/
theorem records_beginConsume (world : World) (me : TaskId) (actor : Option String)
    (site : SiteId) (place : Site) (group topic : String) (ack : Ack) :
    world.Records (world.beginConsume me actor site place group topic ack)
      (((place.instantAnswer? world.script group topic).bind Answer.message?).map
        (⟨me, site, group, topic, ·⟩)).toList := by
  cases ack with
  | explicit partition offset =>
    have handed : world.Records
        (world.beginBackgroundAck me site place actor ⟨group, topic, partition⟩ offset) [] :=
      .of_sites (sites_beginBackgroundAck world place actor _ offset)
    have fetched := records_beginFetch
      (world.beginBackgroundAck me site place actor ⟨group, topic, partition⟩ offset) me actor site
      place group topic (.explicit partition offset)
    rw [script_beginBackgroundAck] at fetched
    exact handed.trans fetched
  | _ => exact records_beginFetch world me actor site place group topic _

/-- A consume request that goes on records the session of the message that it obtains. -/
theorem records_proceed_consume (world : World) (me : TaskId) (actor : Option String)
    (site : SiteId) (group topic : String) (ack : Ack) (stage : Stage)
    (fits : stage.Fits (.request site (.consume group topic ack))) :
    world.Records (world.proceed me ⟨actor, .request site (.consume group topic ack), stage⟩)
      (((world.finds? ⟨actor, .request site (.consume group topic ack), stage⟩).bind
        Answer.message?).map (⟨me, site, group, topic, ·⟩)).toList := by
  cases stage with
  | fresh =>
    simp only [proceed, World.start, finds?]
    cases world.sites[site]? with
    | none => exact .of_sites rfl
    | some place => exact records_beginConsume world me actor site place group topic ack
  | awaitingMessage told =>
    cases told with
    | none => exact .of_sites rfl
    | some answer => exact records_receiveMessage world actor site group topic ack answer
  | acknowledging message =>
    exact (records_retrySend world _ _).trans (records_settleAutoAck _ _ _ _ _ _)
  | ended outcome => exact .of_sites rfl
  | _ => exact fits.elim

/-- A move records the session of the message that it brings to a consume request, and no other
move changes the routes of a gateway. -/
theorem records_apply (sound : world.Sound) (move : Move) :
    world.Records (world.apply move) (world.obtains move) := by
  -- all moves but the steps of consume requests are plain: they leave every table alone
  have plain (other : ∀ (task : TaskId) (running : Task) site group topic ack,
      move = .resume task → world.tasks[task]? = some running →
        running.purpose ≠ .request site (.consume group topic ack))
      (silent : world.obtains move = []) :
      world.Records (world.apply move) (world.obtains move) := by
    rw [silent]
    refine .of_routes fun site => ?_
    cases there : world.sites[site]? with
    | none =>
      have outside : (world.apply move).sites[site]? = none := by
        rw [List.getElem?_eq_none_iff, (apply_fields sound move).2]
        exact List.getElem?_eq_none_iff.mp there
      rw [routes?, routes?, there, outside]
    | some place =>
      obtain ⟨later, here, remains⟩ := exists_remains sound there move
      have same := remains.routes fun task running group topic ack =>
        other task running site group topic ack
      rw [routes?, routes?, there, here, Option.map_some, Option.map_some, same]
  cases move with
  | resume task =>
    cases there : world.tasks[task]? with
    | none =>
      refine plain (fun _ _ _ _ _ _ same here => ?_) (by simp [obtains, obtains?, there])
      obtain rfl := Move.resume.inj same
      rw [there] at here
      simp at here
    | some running =>
      by_cases consumes : ∃ site group topic ack,
          running.purpose = .request site (.consume group topic ack)
      · obtain ⟨actor, purpose, stage⟩ := running
        obtain ⟨site, group, topic, ack, rfl⟩ := consumes
        rw [apply, resume_eq there]
        simp only [obtains, obtains?, there, Option.bind_some]
        exact records_proceed_consume { world with ready := world.ready.erase task } task actor
          site group topic ack stage (sound task _ there).1
      · refine plain (fun _ _ site group topic ack same here asks => ?_) ?_
        · obtain rfl := Move.resume.inj same
          obtain rfl := Option.some.inj (there.symm.trans here)
          exact consumes ⟨site, group, topic, ack, asks⟩
        · simp only [obtains, obtains?, there, Option.bind_some]
          split
          · rename_i site group topic ack asks
            exact absurd ⟨site, group, topic, ack, asks⟩ consumes
          · rfl
  | _ => exact plain (fun _ _ _ _ _ _ same => Move.noConfusion same) rfl

/-- A request has the message of the answer it has gone on with. -/
theorem message?_of_leadsTo {answer : Answer Message} {stage : Stage}
    (there : world.tasks[me]? = some found) (leads : answer.LeadsTo stage)
    (same : after.tasks = (world.setStage me stage).tasks) :
    after.message? me = answer.message? := by
  rw [message?, same, getElem?_setStage, if_pos rfl, there]
  cases leads with
  | returned =>
    cases answer with
    | dropped => rfl
    | reply result => cases result <;> rfl
  | acknowledging message => rfl

/-- A request that gets its answer has the message in it. -/
theorem message?_receiveMessage (there : world.tasks[me]? = some found) (actor : Option String)
    (site : SiteId) (group topic : String) (ack : Ack) (answer : Answer Message) :
    (world.receiveMessage me actor site group topic ack answer).message? me = answer.message? := by
  obtain ⟨stage, leads, same⟩ := tasks_receiveMessage world me actor site group topic ack answer
  exact message?_of_leadsTo there leads same

/-- A request that asks the consumer has the message that it gets at once. -/
theorem message?_beginFetch (there : world.tasks[me]? = some found) (place : Site)
    (actor : Option String) (site : SiteId) (group topic : String) (ack : Ack) :
    (world.beginFetch me actor site place group topic ack).message? me =
      (place.instantAnswer? world.script group topic).bind Answer.message? := by
  unfold beginFetch Site.instantAnswer?
  split
  · generalize place.broker.fetch world.script group topic = result
    obtain ⟨broker, answer, delay⟩ := result
    have served : (world.onBroker site fun _ => broker).tasks[me]? = some found := there
    dsimp only
    split
    · exact message?_receiveMessage served actor site group topic ack answer
    · rw [message?, getElem?_setStage, if_pos rfl, getElem?_spawn_of_some _ served]
      rfl
  · rw [message?, conclude, getElem?_finish, if_pos rfl, there]
    rfl

/-- A request that begins has the message that it gets at once. -/
theorem message?_beginConsume (there : world.tasks[me]? = some found) (place : Site)
    (actor : Option String) (site : SiteId) (group topic : String) (ack : Ack) :
    (world.beginConsume me actor site place group topic ack).message? me =
      (place.instantAnswer? world.script group topic).bind Answer.message? := by
  cases ack with
  | explicit partition offset =>
    have handed : (world.beginBackgroundAck me site place actor ⟨group, topic, partition⟩
        offset).tasks[me]? = some found := there_beginBackgroundAck there actor _ offset
    have fetched := message?_beginFetch handed place actor site group topic
      (.explicit partition offset)
    rw [script_beginBackgroundAck] at fetched
    exact fetched
  | _ => exact message?_beginFetch there place actor site group topic _

/-- A consume request that is resumed has the message of the answer it finds, or, where it finds
none, the one that it had. -/
theorem message?_resume (sound : world.Sound) (there : world.tasks[me]? = some found)
    (asks : found.purpose = .request site (.consume group topic ack)) :
    (world.resume me).message? me =
      ((world.finds? found).map Answer.message?).getD found.stage.message? := by
  have fits := (sound me found there).1
  have mine : ({ world with ready := world.ready.erase me } : World).tasks[me]? = some found :=
    there
  have same : world.finds? found =
    finds? { world with ready := world.ready.erase me } found := rfl
  rw [resume_eq there, same]
  generalize ({ world with ready := world.ready.erase me } : World) = left at mine ⊢
  obtain ⟨actor, purpose, stage⟩ := found
  obtain rfl : purpose = .request site (.consume group topic ack) := asks
  cases stage with
  | fresh =>
    simp only [proceed, World.start, finds?]
    cases left.sites[site]? with
    | none =>
      rw [message?, getElem?_finish, if_pos rfl, mine]
      rfl
    | some place =>
      refine (message?_beginConsume mine place actor site group topic ack).trans ?_
      simp only [Option.bind_some]
      cases place.instantAnswer? left.script group topic <;> rfl
  | awaitingMessage told =>
    cases told with
    | none =>
      simp only [proceed, message?, mine]
      rfl
    | some answer => exact message?_receiveMessage mine actor site group topic ack answer
  | acknowledging message =>
    obtain ⟨stage, leads, same⟩ :=
      tasks_continueAutoAck left me actor site group topic message
    exact message?_of_leadsTo mine leads same
  | ended outcome =>
    simp only [proceed, message?, mine]
    rfl
  | _ => exact fits.elim

/-- A consume request that has a message does not obtain another. -/
theorem finds?_of_message? (asks : found.purpose = .request site (.consume group topic ack))
    (has : found.stage.message? = some message) : world.finds? found = none := by
  obtain ⟨actor, purpose, stage⟩ := found
  obtain rfl : purpose = .request site (.consume group topic ack) := asks
  cases stage with
  | fresh => simp [Stage.message?] at has
  | awaitingMessage told => simp [Stage.message?] at has
  | _ => rfl

/-- What is brought to a request is the message of the answer that the request finds. -/
theorem mem_obtains : entry ∈ world.obtains move ↔ move = .resume entry.task ∧
    ∃ found ack answer, world.tasks[entry.task]? = some found ∧
      found.purpose = .request entry.site (.consume entry.group entry.topic ack) ∧
      world.finds? found = some answer ∧ answer.message? = some entry.message := by
  cases move with
  | resume task =>
    simp only [obtains, obtains?, Option.mem_toList, Option.bind_eq_some_iff, Move.resume.injEq]
    constructor
    · rintro ⟨found, there, brings⟩
      split at brings
      · rename_i site group topic ack asks
        obtain ⟨message, has, rfl⟩ := Option.map_eq_some_iff.mp brings
        obtain ⟨answer, finds, reply⟩ := Option.bind_eq_some_iff.mp has
        exact ⟨rfl, found, ack, answer, there, asks, finds, reply⟩
      · simp at brings
    · rintro ⟨rfl, found, ack, answer, there, asks, finds, reply⟩
      refine ⟨found, there, ?_⟩
      simp [asks, finds, reply]
  | _ => simp [obtains]

/-- The message that a move brings to a request is the one that the request has then. -/
theorem message?_of_mem_obtains (sound : world.Sound) (brought : entry ∈ world.obtains move) :
    (world.apply move).message? entry.task = some entry.message := by
  obtain ⟨rfl, found, ack, answer, there, asks, finds, reply⟩ := mem_obtains.mp brought
  rw [apply, message?_resume sound there asks, finds]
  exact reply

/-- A request that is cancelled has no message, or has ended before. -/
theorem message?_cancel (world : World) (task other : TaskId) :
    (world.cancel task).message? other = world.message? other ∨
      other = task ∧ (world.cancel task).message? other = none := by
  obtain same | same := tasks_cancel world task
  · exact .inl (by rw [message?, message?, same])
  · rw [message?, message?, same, getElem?_setStage]
    split
    · rename_i mine
      refine .inr ⟨mine.symm, ?_⟩
      cases world.tasks[other]? <;> rfl
    · exact .inl rfl

/-- A consume request that has a message after a move had it before, or the move has brought it. -/
theorem message?_apply (sound : world.Sound) (there : world.tasks[task]? = some found)
    (asks : found.purpose = .request site (.consume group topic ack))
    (has : (world.apply move).message? task = some message) :
    world.message? task = some message ∨
      (⟨task, site, group, topic, message⟩ : Obtained) ∈ world.obtains move := by
  have held : world.message? task = found.stage.message? := by rw [message?, there]; rfl
  by_cases resumed : move = .resume task
  · subst resumed
    rw [apply, message?_resume sound there asks] at has
    cases finds : world.finds? found with
    | none =>
      rw [finds] at has
      exact .inl (held.trans has)
    | some answer =>
      rw [finds] at has
      exact .inr (mem_obtains.mpr ⟨rfl, found, ack, answer, there, asks, finds, has⟩)
  by_cases cancelled : move = .cancel task
  · subst cancelled
    obtain same | ⟨-, none⟩ := message?_cancel world task task
    · exact .inl (same.symm.trans has)
    · rw [apply, none] at has
      simp at has
  obtain ⟨stage, later, moved⟩ := kept_apply sound move there
  rw [message?, later] at has
  obtain rfl | ⟨alike, -⟩ | ⟨own | own, -⟩ := moved
  · exact .inl (held.trans has)
  · exact absurd (alike.message?_eq_none.2.symm.trans has) (by simp)
  · exact absurd own resumed
  · exact absurd own cancelled

/-- A consume request that has a message keeps it, unless it is cancelled. -/
theorem message?_apply_of_some (sound : world.Sound) (there : world.tasks[task]? = some found)
    (asks : found.purpose = .request site (.consume group topic ack))
    (has : world.message? task = some message) (move : Move) :
    (world.apply move).message? task = some message ∨
      (world.apply move).outcome? task = some .cancelled := by
  have held : found.stage.message? = some message := by
    rw [message?, there] at has
    exact has
  by_cases resumed : move = .resume task
  · subst resumed
    rw [apply, message?_resume sound there asks, finds?_of_message? asks held]
    exact .inl held
  by_cases cancelled : move = .cancel task
  · subst cancelled
    obtain same | same := tasks_cancel world task
    · exact .inl (by rw [apply, message?, same]; exact has)
    · right
      rw [apply, outcome?_eq_some_iff, same]
      refine ⟨{ found with stage := .ended .cancelled }, ?_, rfl⟩
      rw [getElem?_setStage, if_pos rfl, there]
      rfl
  obtain ⟨stage, later, moved⟩ := kept_apply sound move there
  rw [message?, later]
  obtain rfl | ⟨alike, -⟩ | ⟨own | own, -⟩ := moved
  · exact .inl held
  · exact absurd (alike.message?_eq_none.1.symm.trans held) (by simp)
  · exact absurd own resumed
  · exact absurd own cancelled

/-- What a run records is the history of its moves. -/
theorem records_run (sound : start.Sound) (played : start.play? moves = some last) :
    start.Records last (start.chronicle obtains moves) := by
  induction moves, last, played using run_induction with
  | nil =>
    exact .of_sites rfl
  | concat moves world move first _ ih =>
    rw [chronicle_concat obtains first move]
    exact ih.trans (records_apply (sound.reaches ⟨moves, first⟩) move)

/-- A request that has obtained a message in a run has it at the end of the run, or was
cancelled. -/
theorem message?_of_mem_chronicle (sound : start.Sound) (played : start.play? moves = some last)
    (brought : entry ∈ start.chronicle obtains moves) :
    last.message? entry.task = some entry.message ∨
      last.outcome? entry.task = some .cancelled := by
  obtain ⟨move, world, makes, here⟩ := (mem_chronicle played).mp brought
  obtain ⟨reaches, free, onward⟩ := makes.free played
  have kept : world.Sound := sound.reaches reaches
  obtain ⟨rfl, found, ack, answer, there, asks, -⟩ := mem_obtains.mp here
  have both : (∃ found ack, last.tasks[entry.task]? = some found ∧
      found.purpose = .request entry.site (.consume entry.group entry.topic ack)) ∧
      (last.message? entry.task = some entry.message ∨
        last.outcome? entry.task = some .cancelled) := by
    refine (kept.apply free).keeps (P := fun world => (∃ found ack,
      world.tasks[entry.task]? = some found ∧
        found.purpose = .request entry.site (.consume entry.group entry.topic ack)) ∧
        (world.message? entry.task = some entry.message ∨
          world.outcome? entry.task = some .cancelled)) ?_ ⟨?_, ?_⟩ onward
    · rintro world move sound - ⟨⟨found, ack, there, asks⟩, has⟩
      obtain ⟨stage, later, -⟩ := kept_apply sound move there
      refine ⟨⟨_, ack, later, asks⟩, ?_⟩
      obtain has | cancelled := has
      · exact message?_apply_of_some sound there asks has move
      · exact .inr (outcome?_apply sound move cancelled)
    · obtain ⟨stage, later, -⟩ := kept_apply kept (.resume entry.task) there
      exact ⟨_, ack, later, asks⟩
    · exact .inl (message?_of_mem_obtains kept here)
  exact both.2

/-- A consume request that has a message at the end of a run has obtained it in the run. -/
theorem mem_chronicle_of_message? (opened : start.Opened) (played : start.play? moves = some last)
    (there : last.tasks[task]? = some found)
    (asks : found.purpose = .request site (.consume group topic ack))
    (has : last.message? task = some message) :
    (⟨task, site, group, topic, message⟩ : Obtained) ∈ start.chronicle obtains moves := by
  induction moves, last, played using run_induction generalizing found with
  | nil =>
    simp [opened.untouched.1] at there
  | concat moves world move first free ih =>
    have sound : world.Sound := opened.sound.reaches ⟨moves, first⟩
    rw [chronicle_concat obtains first move, List.mem_append]
    cases before : world.tasks[task]? with
    | none =>
      rw [message?, there] at has
      have fresh := (born_apply sound free before there).1
      simp [fresh, Stage.message?] at has
    | some earlier =>
      obtain ⟨stage, later, -⟩ := kept_apply sound move before
      obtain rfl := Option.some.inj (later.symm.trans there)
      obtain held | brought := message?_apply sound before asks has
      · exact .inl (ih before asks held)
      · exact .inr brought

end World

namespace RoutingTable

/-- The table in which the sessions of some messages are recorded one after the other. -/
def ofObtained (entries : List Obtained) : RoutingTable SessionId :=
  entries.foldl (fun table entry => table.insert entry.key entry.message.session) .empty

/-- One more message. -/
theorem ofObtained_concat (entries : List Obtained) (entry : Obtained) :
    ofObtained (entries ++ [entry]) =
      (ofObtained entries).insert entry.key entry.message.session := by
  rw [ofObtained, ofObtained, List.foldl_append]
  rfl

/-- Under a key stands the session of the last message that has it. -/
theorem get?_ofObtained (entries : List Obtained) (key : RoutingKey) :
    (ofObtained entries).get? key =
      (entries.filter fun entry => entry.key = key).getLast?.map (·.message.session) := by
  -- the message that was recorded last hides the earlier ones of its key
  induction entries using List.reverseRecOn with
  | nil => rfl
  | append_singleton entries entry ih =>
    rw [ofObtained_concat, List.filter_append, List.filter_singleton]
    by_cases same : entry.key = key
    · rw [← same, get?_insert_self]
      simp
    · rw [get?_insert_of_ne _ _ (Ne.symm same), ih]
      simp [same]

/-- A key is in the table when a message has it. -/
theorem isSome_get?_ofObtained (entries : List Obtained) (key : RoutingKey) :
    ((ofObtained entries).get? key).isSome = true ↔ key ∈ entries.map Obtained.key := by
  rw [get?_ofObtained, Option.isSome_map, List.getLast?_isSome]
  simp [List.filter_eq_nil_iff]

/-- The table has as many entries as the messages have different keys. -/
theorem size_ofObtained (entries : List Obtained) :
    (ofObtained entries).size = (entries.map Obtained.key).toFinset.card := by
  induction entries using List.reverseRecOn with
  | nil => rfl
  | append_singleton entries entry ih =>
    rw [ofObtained_concat, size_insert, ih, List.map_append, List.toFinset_append,
      Finset.union_comm]
    simp only [isSome_get?_ofObtained, List.map_cons, List.map_nil, List.toFinset_cons,
      List.toFinset_nil, insert_empty_eq, Finset.singleton_union]
    split
    · rename_i known
      rw [Finset.insert_eq_of_mem (List.mem_toFinset.mpr known)]
    · rename_i new
      rw [Finset.card_insert_of_notMem (by simpa using new)]

/-- More messages make no table smaller. -/
theorem size_le_foldl (table : RoutingTable SessionId) (entries : List Obtained) :
    table.size ≤
      (entries.foldl (fun table entry => table.insert entry.key entry.message.session) table).size := by
  induction entries generalizing table with
  | nil => exact Nat.le_refl table.size
  | cons entry rest ih =>
    refine Nat.le_trans ?_ (ih (table.insert entry.key entry.message.session))
    rw [size_insert]
    split <;> omega

end RoutingTable

namespace World

variable {start last : World} {moves : List Move} {site : SiteId}

/-- At the end of a run the table of a gateway is made of the messages obtained there. -/
theorem routes?_run (opened : start.Opened) (played : start.play? moves = some last)
    (inside : site < start.sites.length) : ∃ place, last.sites[site]? = some place ∧
      place.gateway.routes = .ofObtained (start.obtained moves site) := by
  have there : start.sites[site]? = some start.sites[site] := List.getElem?_eq_getElem inside
  obtain ⟨place, here, -⟩ := opened.sound.site_reaches ⟨moves, played⟩ there
  have empty := (opened.untouched.2.2.2 _ (List.getElem_mem inside)).routes
  have records := records_run opened.sound played site
  rw [routes?, routes?, here, there, Option.map_some, Option.map_some, Option.map_some,
    empty] at records
  exact ⟨place, here, Option.some.inj records⟩

/-- At every point of every run, the session recorded for a group, a topic and a partition is that
of the message which a consume request at the gateway has obtained last for them, and there is
none if no request has; so there are as many sessions as different keys of messages. No move
makes the table smaller. A move that changes it brings a message to a consume request at that
gateway, which does not fail; and every message that a consume request has returned was
brought to it so. -/
theorem sessions_of_obtained (opened : start.Opened) (played : start.play? moves = some last)
    (inside : site < start.sites.length) :
    (∃ place, last.sites[site]? = some place ∧
      (∀ key, place.gateway.routes.get? key = ((start.obtained moves site).filter fun entry =>
        entry.key = key).getLast?.map (·.message.session)) ∧
      place.gateway.answer .sessionCount =
        .count ((start.obtained moves site).map Obtained.key).toFinset.card) ∧
    (∀ move before, start.Makes moves move before → ∃ earlier later,
      before.routes? site = some earlier ∧ (before.apply move).routes? site = some later ∧
        earlier.size ≤ later.size ∧
        (later ≠ earlier → ∃ entry ∈ before.obtains move, entry.site = site ∧
          ∀ error, last.outcome? entry.task ≠ some (.returned (.error error)))) ∧
    ∀ task actor group topic ack message, last.tasks[task]? = some
      ⟨actor, .request site (.consume group topic ack), .ended (.returned (.ok (.message message)))⟩ →
        (⟨task, site, group, topic, message⟩ : Obtained) ∈ start.obtained moves site := by
  refine ⟨?_, ?_, ?_⟩
  · obtain ⟨place, here, same⟩ := routes?_run opened played inside
    refine ⟨place, here, fun key => ?_, ?_⟩
    · rw [same, RoutingTable.get?_ofObtained]
    · rw [Gateway.answer, same, RoutingTable.size_ofObtained]
  · intro move before makes
    obtain ⟨reaches, free, onward⟩ := makes.free played
    have sound : before.Sound := opened.sound.reaches reaches
    have there : start.sites[site]? = some start.sites[site] := List.getElem?_eq_getElem inside
    obtain ⟨place, here, -⟩ := opened.sound.site_reaches reaches there
    have records := records_apply sound move site
    have earlier : before.routes? site = some place.gateway.routes := by rw [routes?, here]; rfl
    rw [earlier, Option.map_some] at records
    refine ⟨_, _, earlier, records, RoutingTable.size_le_foldl _ _, fun changed => ?_⟩
    obtain ⟨entry, brought⟩ := List.exists_mem_of_ne_nil
      ((before.obtains move).filter fun entry => entry.site = site) (by
        intro none
        rw [none] at changed
        exact changed rfl)
    obtain ⟨brought, at_site⟩ := List.mem_filter.mp brought
    refine ⟨entry, brought, of_decide_eq_true at_site, fun error failed => ?_⟩
    -- the request keeps the message until it returns it, so it cannot fail any more
    have inRun : entry ∈ start.chronicle obtains moves :=
      (mem_chronicle played).mpr ⟨move, before, makes, brought⟩
    obtain has | cancelled := message?_of_mem_chronicle opened.sound played inRun
    · obtain ⟨found, ended, stage⟩ := outcome?_eq_some_iff.mp failed
      simp [message?, ended, stage, Stage.message?] at has
    · exact absurd (cancelled.symm.trans failed) (by simp)
  · intro task actor group topic ack message ended
    refine List.mem_filter.mpr ⟨?_, decide_eq_true rfl⟩
    refine mem_chronicle_of_message? opened played ended rfl ?_
    rw [message?, ended]
    rfl

/-- A message that takes a while to come is asked for, and the next one gets a session of its own
and comes at once. The request that has waited goes on last; then one fails. -/
def overtaken : List Move :=
  [.enqueue 0 "g" "t" [⟨.message none 0 0 2 none [97], 5⟩], .request 0 (.consume "g" "t" .auto),
    .resume 0, .renew 0 ⟨"g", "t", 0⟩,
    .enqueue 0 "g" "t" [⟨.message none 0 1 2 none [98], 0⟩, ⟨.failure .bufferOverflow, 0⟩],
    .request 0 (.consume "g" "t" .none), .resume 2, .resume 1, .pass 5, .resume 1, .resume 0,
    .request 0 (.consume "g" "t" .auto), .resume 3]

/-- The older of the two sessions is recorded then, and it is the only one. -/
theorem sessions_of_overtaken : ∃ last place, narrowGateway.Opened ∧
    narrowGateway.play? overtaken = some last ∧ 0 < narrowGateway.sites.length ∧
    last.sites[0]? = some place ∧
    (narrowGateway.obtained overtaken 0).map (fun entry => (entry.task, entry.message.session)) =
      [(2, 1), (0, 0)] ∧
    place.gateway.routes.get? ⟨"g", "t", 0⟩ = some 0 ∧
    place.gateway.answer .sessionCount = .count 1 := by
  have inside : 0 < narrowGateway.sites.length := by decide +kernel
  have runs : (narrowGateway.play? overtaken).isSome = true := by decide +kernel
  obtain ⟨last, played⟩ := Option.isSome_iff_exists.mp runs
  obtain ⟨⟨place, here, latest, count⟩, -⟩ :=
    sessions_of_obtained opened_narrowGateway played inside
  have history : (narrowGateway.obtained overtaken 0).map (fun entry =>
      (entry.task, entry.message.session)) = [(2, 1), (0, 0)] := by decide +kernel
  have session : ((narrowGateway.obtained overtaken 0).filter fun entry =>
      entry.key = ⟨"g", "t", 0⟩).getLast?.map (·.message.session) = some 0 := by decide +kernel
  have keys : ((narrowGateway.obtained overtaken 0).map Obtained.key).toFinset.card = 1 := by
    decide +kernel
  exact ⟨last, place, opened_narrowGateway, played, inside, here, history,
    (latest _).trans session, keys ▸ count⟩

end World

end ClusterGateway
