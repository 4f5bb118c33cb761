import ClusterGateway.Proofs.Delivery.Course

/-!
# Sessions stay in their lanes

A session is recorded only for the partition whose lane it is in, and every message that a
request has fetched carries a session of the lane that it was asked for. So an
acknowledgement is only ever sent to a session of its own group, topic and partition. Main
statements: `Opened.laned`, `Laned.reaches`.
-/

namespace ClusterGateway

/-- A request that waits in a stage, or has ended in it, has got a message. -/
def Stage.Carries : Stage → Message → Prop
  | .awaitingMessage (some (.reply (.ok carried))), message => message = carried
  | .acknowledging carried, message => message = carried
  | .ended (.returned (.ok (.message carried))), message => message = carried
  | _, _ => False

namespace World

/-- A session of a cluster belongs to the lane of a key. -/
def Owns (world : World) (site : SiteId) (key : RoutingKey) (number : SessionId) : Prop :=
  ∃ found : Site, world.sites[site]? = some found ∧ found.broker.Owns key number

/-- The sessions that a task has to do with belong to the lanes that it has to do with. -/
def Proper (world : World) (found : Task) : Prop :=
  match found.purpose with
  | .request site (.consume group topic _) => ∀ message, found.stage.Carries message →
      world.Owns site ⟨group, topic, message.partition⟩ message.session
  | .request site (.acknowledge group topic (.explicit partition _)) => ∀ number due,
      found.stage = .sending number due → world.Owns site ⟨group, topic, partition⟩ number
  | .deliverAck site key _ number _ => world.Owns site key number
  | .deliverAnswer target (.message (.reply (.ok message))) _ => ∃ asking site group topic ack,
      world.tasks[target]? = some asking ∧
        asking.purpose = .request site (.consume group topic ack) ∧
          world.Owns site ⟨group, topic, message.partition⟩ message.session
  | _ => True

/-- Every session is in one lane at most, is recorded only for the key of its lane, and is what
a task of that key has to do with. -/
structure Laned (world : World) : Prop where
  brokers : ∀ (site : SiteId) (found : Site), world.sites[site]? = some found →
    found.broker.Laned
  routes : ∀ (site : SiteId) (found : Site) key number, world.sites[site]? = some found →
    found.gateway.routes.get? key = some number → found.broker.Owns key number
  tasks : ∀ (task : TaskId) found, world.tasks[task]? = some found → world.Proper found

/-- Lanes only get longer, and tasks keep their purposes. -/
structure Wider (before after : World) : Prop where
  sites : ∀ site : SiteId, before.sites[site]? = none ∧ after.sites[site]? = none ∨
    ∃ found later : Site, before.sites[site]? = some found ∧ after.sites[site]? = some later ∧
      found.broker.Widens later.broker
  tasks : ∀ (task : TaskId) found, before.tasks[task]? = some found → ∃ stage,
    after.tasks[task]? = some { found with stage := stage }

variable {world before after : World} {me : TaskId} {found : Task} {site : SiteId}
  {key : RoutingKey} {number : SessionId}

/-- A session stays in its lane. -/
theorem Wider.owns (wider : Wider before after) (owned : before.Owns site key number) :
    after.Owns site key number := by
  obtain ⟨found, there, owned⟩ := owned
  obtain ⟨absent, -⟩ | ⟨place, later, here, after, widens⟩ := wider.sites site
  · exact absurd (absent.symm.trans there) (by simp)
  · obtain rfl := Option.some.inj (here.symm.trans there)
    exact ⟨later, after, widens.owns owned⟩

/-- What a task has to do with stays in its lane. -/
theorem Wider.proper (wider : Wider before after) (proper : before.Proper found) :
    after.Proper found := by
  unfold Proper at proper ⊢
  split at proper
  · exact fun message carries => wider.owns (proper message carries)
  · exact fun number due sends => wider.owns (proper number due sends)
  · exact wider.owns proper
  · obtain ⟨asking, site, group, topic, ack, there, asks, owned⟩ := proper
    obtain ⟨stage, later⟩ := wider.tasks _ _ there
    exact ⟨_, site, group, topic, ack, later, asks, wider.owns owned⟩
  · trivial

/-- Lanes are kept where all that is new is in its lane. -/
theorem Laned.wider (laned : before.Laned) (wider : Wider before after)
    (routes : ∀ (site : SiteId) (found later : Site), before.sites[site]? = some found →
      after.sites[site]? = some later → ∀ key number,
        later.gateway.routes.get? key = some number →
          found.gateway.routes.get? key = some number ∨ later.broker.Owns key number)
    (tasks : ∀ (task : TaskId) found, after.tasks[task]? = some found →
      before.tasks[task]? = some found ∨ after.Proper found) : after.Laned where
  brokers := by
    intro site later there
    obtain ⟨-, absent⟩ | ⟨found, place, here, after, widens⟩ := wider.sites site
    · exact absurd (absent.symm.trans there) (by simp)
    · obtain rfl := Option.some.inj (after.symm.trans there)
      exact widens.laned (laned.brokers site found here)
  routes := by
    intro site later key number there routed
    obtain ⟨-, absent⟩ | ⟨found, place, here, after, widens⟩ := wider.sites site
    · exact absurd (absent.symm.trans there) (by simp)
    · obtain rfl := Option.some.inj (after.symm.trans there)
      rcases routes site found place here after key number routed with old | new
      · exact widens.owns (laned.routes site found key number here old)
      · exact new
  tasks := by
    intro task found there
    rcases tasks task found there with old | new
    · exact wider.proper (laned.tasks task found old)
    · exact new

/-- Gateways that are the same. -/
theorem Wider.of_sites (sites : after.sites = before.sites)
    (tasks : ∀ (task : TaskId) found, before.tasks[task]? = some found → ∃ stage,
      after.tasks[task]? = some { found with stage := stage }) : Wider before after where
  sites := by
    intro site
    rw [sites]
    cases there : before.sites[site]? with
    | none => exact .inl ⟨rfl, rfl⟩
    | some found => exact .inr ⟨found, found, rfl, rfl, .of_eq rfl rfl⟩
  tasks := tasks

/-- Nothing happens to gateways and tasks. -/
theorem Laned.same (laned : before.Laned) (sites : after.sites = before.sites)
    (tasks : after.tasks = before.tasks) : after.Laned := by
  refine laned.wider (.of_sites sites ?_) ?_ ?_
  · exact fun task found there => ⟨found.stage, by rw [tasks]; exact there⟩
  · intro site found later there here key number routed
    rw [sites] at here
    obtain rfl := Option.some.inj (there.symm.trans here)
    exact .inl routed
  · exact fun task found there => .inl (by rw [← tasks]; exact there)

/-- A task waits elsewhere. -/
theorem Laned.setStage (laned : world.Laned) {stage : Stage}
    (proper : ∀ found, world.tasks[me]? = some found →
      world.Proper { found with stage := stage }) : (world.setStage me stage).Laned := by
  have wider : Wider world (world.setStage me stage) := by
    refine .of_sites rfl fun task found there => ?_
    rw [getElem?_setStage, there]
    split
    · exact ⟨stage, rfl⟩
    · exact ⟨found.stage, rfl⟩
  refine laned.wider wider ?_ ?_
  · intro site found later there here key number routed
    obtain rfl := Option.some.inj (there.symm.trans here)
    exact .inl routed
  · intro task later there
    rw [getElem?_setStage] at there
    split at there
    · rename_i mine
      subst mine
      obtain ⟨found, here, rfl⟩ := Option.map_eq_some_iff.mp there
      exact .inr (wider.proper (proper found here))
    · exact .inl there

/-- A task ends. -/
theorem Laned.finish (laned : world.Laned) {outcome : Outcome}
    (proper : ∀ found, world.tasks[me]? = some found →
      world.Proper { found with stage := .ended outcome }) : (world.finish me outcome).Laned :=
  (laned.setStage proper).same rfl rfl

/-- A task is started. -/
theorem Laned.spawn (laned : world.Laned) (actor : Option String) {child : Purpose}
    (proper : world.Proper ⟨actor, child, .fresh⟩) : (world.spawn actor child).1.Laned := by
  have wider : Wider world (world.spawn actor child).1 :=
    .of_sites rfl fun task found there => ⟨found.stage, getElem?_spawn_of_some world there⟩
  refine laned.wider wider ?_ ?_
  · intro site found later there here key number routed
    obtain rfl := Option.some.inj (there.symm.trans here)
    exact .inl routed
  · intro task later there
    cases old : world.tasks[task]? with
    | some found =>
      rw [getElem?_spawn_of_some world old] at there
      exact .inl there
    | none =>
      obtain ⟨-, rfl⟩ := getElem?_spawn_of_none world old there
      exact .inr (wider.proper proper)

/-- One gateway is changed. -/
theorem Wider.of_onSite {change : Site → Site}
    (widens : ∀ found, world.sites[site]? = some found →
      found.broker.Widens (change found).broker) : Wider world (world.onSite site change) where
  sites := by
    intro place
    rw [getElem?_onSite]
    cases there : world.sites[place]? with
    | none => simp
    | some found =>
      right
      split
      · rename_i here
        subst here
        exact ⟨found, change found, rfl, rfl, widens found there⟩
      · exact ⟨found, found, rfl, rfl, .of_eq rfl rfl⟩
  tasks := fun task found there => ⟨found.stage, there⟩

/-- One gateway is changed, and all that it records then is in its lane. -/
theorem Laned.onSite (laned : world.Laned) {change : Site → Site}
    (widens : ∀ found, world.sites[site]? = some found →
      found.broker.Widens (change found).broker)
    (routes : ∀ found, world.sites[site]? = some found → ∀ key number,
      (change found).gateway.routes.get? key = some number →
        found.gateway.routes.get? key = some number ∨ (change found).broker.Owns key number) :
    (world.onSite site change).Laned := by
  refine laned.wider (.of_onSite widens) ?_ fun task found there => .inl there
  intro place found later there here key number routed
  rw [getElem?_onSite, there] at here
  split at here
  · rename_i same
    subst same
    obtain rfl := Option.some.inj here
    exact routes found there key number routed
  · obtain rfl := Option.some.inj here
    exact .inl routed

/-- A session is changed, and stays in its lane. -/
theorem wider_onSession (world : World) (site : SiteId) (number : SessionId)
    (change : Session → Session × List TaskId) :
    Wider world (world.onSession site number change) := by
  obtain ⟨ready, same⟩ := exists_onSession world site number change
  have wider : Wider world (world.onBroker site
      (·.onSession number fun found => (change found).1)) :=
    .of_onSite fun found _ => .of_eq rfl (by simp [Broker.onSession])
  rw [same]
  exact ⟨wider.sites, wider.tasks⟩

/-- A session is changed. -/
theorem Laned.onSession (laned : world.Laned) (site : SiteId) (number : SessionId)
    (change : Session → Session × List TaskId) : (world.onSession site number change).Laned := by
  obtain ⟨ready, same⟩ := exists_onSession world site number change
  have changed : (world.onBroker site
      (·.onSession number fun found => (change found).1)).Laned := by
    refine laned.onSite (fun found _ => .of_eq rfl ?_) fun found _ key number routed => .inl routed
    simp [Broker.onSession]
  rw [same]
  exact changed.same rfl rfl

/-- The task that runs is a consume request for a lane of a partition. -/
def Asks (world : World) (me : TaskId) (site : SiteId) (group topic : String) : Prop :=
  ∀ found, world.tasks[me]? = some found → ∃ ack, found.purpose = .request site
    (.consume group topic ack)

/-- A consume request may wait in a stage, or end in it, that carries messages of its lanes
only. -/
theorem proper_of_asks {group topic : String} {stage : Stage}
    (asks : world.Asks me site group topic)
    (carries : ∀ message, stage.Carries message →
      world.Owns site ⟨group, topic, message.partition⟩ message.session)
    (there : world.tasks[me]? = some found) : world.Proper { found with stage := stage } := by
  obtain ⟨ack, purpose⟩ := asks found there
  unfold Proper
  rw [purpose]
  exact carries

/-- A consume request ends without a message. -/
theorem Laned.conclude_error (laned : world.Laned) {group topic : String}
    (asks : world.Asks me site group topic) (error : Error) :
    (world.conclude me (.error error)).Laned :=
  laned.finish fun _ => proper_of_asks asks fun _ carries => carries.elim

/-- A consume request ends with a message of its lane. -/
theorem Laned.conclude_message (laned : world.Laned) {group topic : String} {message : Message}
    (asks : world.Asks me site group topic)
    (owned : world.Owns site ⟨group, topic, message.partition⟩ message.session) :
    (world.conclude me (.ok (.message message))).Laned := by
  refine laned.finish fun _ => proper_of_asks asks ?_
  rintro carried rfl
  exact owned

/-- The attempt to acknowledge a message of the lane has ended, or the request waits. -/
theorem Laned.settleAutoAck (laned : world.Laned) (actor : Option String) {group topic : String}
    {message : Message} (asks : world.Asks me site group topic)
    (owned : world.Owns site ⟨group, topic, message.partition⟩ message.session)
    (attempt : SendAttempt) : (world.settleAutoAck me actor group topic message attempt).Laned := by
  cases attempt with
  | accepted => exact laned.conclude_message asks owned
  | closed =>
    have noted : (world.note actor [autoAckDropped group topic message]).Laned :=
      laned.same rfl rfl
    exact noted.conclude_message asks owned
  | full =>
    refine laned.setStage fun _ => proper_of_asks asks ?_
    rintro carried rfl
    exact owned

/-- A session is touched at most, and lanes are kept. -/
structure Touches (before after : World) : Prop where
  laned : after.Laned
  tasks : after.tasks = before.tasks
  owns : ∀ {site key number}, before.Owns site key number → after.Owns site key number

/-- A session is changed. -/
theorem Laned.touches (laned : world.Laned) (site : SiteId) (number : SessionId)
    (change : Session → Session × List TaskId) :
    Touches world (world.onSession site number change) where
  laned := laned.onSession site number change
  tasks := tasks_onSession world site number change
  owns := (wider_onSession world site number change).owns

/-- A first attempt touches a session at most. -/
theorem Laned.trySend (laned : world.Laned) (me : TaskId) (site : SiteId) (number : SessionId)
    (offset : Int64) : Touches world (world.trySend me site number offset).1 := by
  obtain ⟨there, -, -, same⟩ | ⟨there, -, -, same⟩ | ⟨-, same⟩ :=
    trySend_cases world me site number offset
  · rw [same]
    dsimp only
    exact laned.touches site number _
  · rw [same]
    dsimp only
    exact laned.touches site number _
  · rw [same]
    exact ⟨laned, rfl, id⟩

/-- A further attempt touches a session at most. -/
theorem Laned.retrySend (laned : world.Laned) (me : TaskId) (site : SiteId) (number : SessionId)
    (offset : Int64) : Touches world (world.retrySend me site number offset).1 := by
  obtain ⟨there, -, -, -, same⟩ | ⟨there, -, -, -, same⟩ | ⟨-, same⟩ :=
    retrySend_cases world me site number offset
  · rw [same]
    dsimp only
    exact laned.touches site number _
  · rw [same]
    exact ⟨laned, rfl, id⟩
  · rw [same]
    exact ⟨laned, rfl, id⟩

/-- What a consume request is for does not depend on the sessions. -/
theorem Asks.touches {group topic : String} (asks : before.Asks me site group topic)
    (touches : Touches before after) : after.Asks me site group topic := by
  intro found there
  rw [touches.tasks] at there
  exact asks found there

/-- A consume request records the session of what it has fetched. -/
theorem Laned.receiveMessage (laned : world.Laned) (actor : Option String) {group topic : String}
    (ack : Ack) {answer : Answer Message} (asks : world.Asks me site group topic)
    (owned : ∀ message, answer = .reply (.ok message) →
      world.Owns site ⟨group, topic, message.partition⟩ message.session) :
    (world.receiveMessage me actor site group topic ack answer).Laned := by
  cases answer with
  | dropped => exact laned.conclude_error asks _
  | reply result =>
    cases result with
    | error error => exact laned.conclude_error asks error
    | ok message =>
      have mine := owned message rfl
      have wider : Wider world (world.onGateway site (·.route group topic message)) :=
        .of_onSite fun found _ => .of_eq rfl rfl
      have routed : (world.onGateway site (·.route group topic message)).Laned := by
        refine laned.onSite (fun found _ => .of_eq rfl rfl) ?_
        intro found there key number recorded
        by_cases same : key = ⟨group, topic, message.partition⟩
        · subst same
          rw [show ({ found with gateway := found.gateway.route group topic message } :
            Site).gateway.routes.get? ⟨group, topic, message.partition⟩ = some message.session from
              RoutingTable.get?_insert_self ..] at recorded
          obtain rfl := Option.some.inj recorded
          obtain ⟨place, here, inside⟩ := mine
          obtain rfl := Option.some.inj (here.symm.trans there)
          exact .inr inside
        · left
          rw [← recorded]
          exact (RoutingTable.get?_insert_of_ne found.gateway.routes message.session same).symm
      have still : (world.onGateway site (·.route group topic message)).Asks me site group topic :=
        asks
      simp only [World.receiveMessage]
      split
      · have touched := routed.trySend me site message.session message.offset
        exact touched.laned.settleAutoAck actor (still.touches touched)
          (touched.owns (wider.owns mine)) _
      · exact routed.conclude_message still (wider.owns mine)

/-- A consume request asks for a message. -/
theorem Laned.beginFetch (laned : world.Laned) {place : Site} (actor : Option String)
    {group topic : String} (ack : Ack) (asks : world.Asks me site group topic)
    (mine : ∃ found, world.tasks[me]? = some found)
    (here : world.sites[site]? = some place) :
    (world.beginFetch me actor site place group topic ack).Laned := by
  unfold World.beginFetch
  split
  · obtain ⟨widens, carried⟩ := Broker.widens_fetch world.script place.broker group topic
    generalize place.broker.fetch world.script group topic = result at widens carried ⊢
    obtain ⟨broker, answer, delay⟩ := result
    dsimp only at widens carried ⊢
    have served : (world.onBroker site fun _ => broker).Laned := by
      refine laned.onSite ?_ fun found _ key number routed => .inl routed
      intro found there
      obtain rfl := Option.some.inj (here.symm.trans there)
      exact widens
    have owned (message : Message) (told : answer = .reply (.ok message)) :
        (world.onBroker site fun _ => broker).Owns site ⟨group, topic, message.partition⟩
          message.session := by
      refine ⟨{ place with broker := broker }, ?_, carried message told⟩
      show (world.onSite site _).sites[site]? = _
      rw [getElem?_onSite, if_pos rfl, here]
      rfl
    have still : (world.onBroker site fun _ => broker).Asks me site group topic := asks
    split
    · exact served.receiveMessage actor ack still owned
    · have spawned : ((world.onBroker site fun _ => broker).spawn none
          (.deliverAnswer me (.message answer) delay)).1.Laned := by
        refine served.spawn none ?_
        cases answer with
        | dropped => trivial
        | reply result =>
          cases result with
          | error error => trivial
          | ok message =>
            obtain ⟨found, there⟩ := mine
            obtain ⟨given, purpose⟩ := asks found there
            exact ⟨found, site, group, topic, given, there, purpose, owned message rfl⟩
      refine spawned.setStage fun found there => ?_
      have asking : ((world.onBroker site fun _ => broker).spawn none
          (.deliverAnswer me (.message answer) delay)).1.Asks me site group topic := by
        intro other later
        obtain ⟨parent, first⟩ := mine
        have kept : ((world.onBroker site fun _ => broker).spawn none
            (.deliverAnswer me (.message answer) delay)).1.tasks[me]? = some parent :=
          getElem?_spawn_of_some _ first
        obtain rfl := Option.some.inj (kept.symm.trans later)
        exact asks parent first
      exact proper_of_asks asking (fun _ carries => carries.elim) there
  · exact laned.conclude_error asks _

/-- An explicit acknowledgement is handed on to the session that is recorded for its key. -/
theorem Laned.beginBackgroundAck (laned : world.Laned) {place : Site} (actor : Option String)
    (key : RoutingKey) (offset : Int64) (here : world.sites[site]? = some place) :
    (world.beginBackgroundAck me site place actor key offset).Laned := by
  unfold World.beginBackgroundAck
  split
  · exact laned.same rfl rfl
  · rename_i number routed
    exact laned.spawn _ ⟨place, here, laned.routes site place key number here routed⟩

/-- A task stays what it is while it hands an acknowledgement on. -/
theorem there_beginBackgroundAck {place : Site} {task : TaskId}
    (there : world.tasks[task]? = some found) (actor : Option String) (key : RoutingKey)
    (offset : Int64) :
    (world.beginBackgroundAck me site place actor key offset).tasks[task]? = some found := by
  unfold beginBackgroundAck
  split
  · exact there
  · exact getElem?_spawn_of_some world there

/-- A consume request goes on. -/
theorem Laned.consume (laned : world.Laned) {group topic : String} {ack : Ack}
    (there : world.tasks[me]? = some found)
    (purpose : found.purpose = .request site (.consume group topic ack))
    (fits : found.stage.Fits found.purpose) : (world.resume me).Laned := by
  have proper := laned.tasks me found there
  rw [resume_eq there]
  obtain ⟨actor, purpose, stage⟩ := found
  subst purpose
  have left : ({ world with ready := world.ready.erase me } : World).Laned := laned.same rfl rfl
  have here : ({ world with ready := world.ready.erase me } : World).tasks[me]? =
      some ⟨actor, .request site (.consume group topic ack), stage⟩ := there
  have owns (message : Message) (carries : stage.Carries message) :
      ({ world with ready := world.ready.erase me } : World).Owns site
        ⟨group, topic, message.partition⟩ message.session := proper message carries
  generalize ({ world with ready := world.ready.erase me } : World) = world at left here owns ⊢
  have asks : world.Asks me site group topic := by
    intro other found
    obtain rfl := Option.some.inj (here.symm.trans found)
    exact ⟨ack, rfl⟩
  cases stage with
  | fresh =>
    simp only [proceed, start]
    split
    · exact left.finish fun _ => proper_of_asks asks fun _ carries => carries.elim
    · rename_i place at_site
      unfold beginConsume
      cases ack with
      | none => exact left.beginFetch actor _ asks ⟨_, here⟩ at_site
      | auto => exact left.beginFetch actor _ asks ⟨_, here⟩ at_site
      | explicit partition offset =>
        have handed : (world.beginBackgroundAck me site place actor ⟨group, topic, partition⟩
            offset).Laned := left.beginBackgroundAck actor _ offset at_site
        have kept : (world.beginBackgroundAck me site place actor ⟨group, topic, partition⟩
            offset).tasks[me]? = _ := there_beginBackgroundAck here actor _ offset
        refine handed.beginFetch actor _ ?_ ⟨_, kept⟩ ((sites_beginBackgroundAck ..).symm ▸ at_site)
        intro other found
        obtain rfl := Option.some.inj (kept.symm.trans found)
        exact ⟨_, rfl⟩
  | awaitingMessage answer =>
    cases answer with
    | none => exact left
    | some answer =>
      refine left.receiveMessage actor ack asks fun message told => ?_
      subst told
      exact owns message rfl
  | acknowledging message =>
    have touched := left.retrySend me site message.session message.offset
    exact touched.laned.settleAutoAck actor (asks.touches touched)
      (touched.owns (owns message rfl)) _
  | ended outcome => exact left
  | _ => exact fits.elim

/-- What a step of a task makes wider. -/
theorem Strokes.wider {purpose : Purpose} {sends hands : Prop}
    (strokes : Strokes me purpose sends hands before after) : Wider before after where
  sites := by
    intro site
    obtain ⟨absent, still⟩ | ⟨found, later, there, here, frame⟩ := strokes.siteFrame site
    · exact .inl ⟨absent, still⟩
    · exact .inr ⟨found, later, there, here, frame.lanes⟩
  tasks := by
    intro task found there
    obtain ⟨stage, later, -⟩ := strokes.taskFrame.kept task found there
    exact ⟨stage, later⟩

/-- A task that neither consumes nor acknowledges has to do with the same sessions wherever it
waits. -/
theorem Proper.elsewhere (proper : world.Proper found)
    (consumes : ∀ site group topic ack, found.purpose ≠ .request site (.consume group topic ack))
    (acknowledges : ∀ site group topic ack,
      found.purpose ≠ .request site (.acknowledge group topic ack)) (stage : Stage) :
    world.Proper { found with stage := stage } := by
  unfold Proper at proper ⊢
  split at proper
  · rename_i purpose
    exact absurd purpose (consumes _ _ _ _)
  · rename_i purpose
    exact absurd purpose (acknowledges _ _ _ _)
  · rename_i purpose
    simp only [purpose]
    exact proper
  · rename_i purpose
    simp only [purpose]
    exact proper
  · trivial

/-- A task that carries nothing and waits in no line has to do with nothing new. -/
theorem Proper.at_rest (proper : world.Proper found) {stage : Stage}
    (empty : ∀ message, ¬ stage.Carries message)
    (idle : ∀ number due, stage ≠ .sending number due) :
    world.Proper { found with stage := stage } := by
  unfold Proper at proper ⊢
  split at proper
  · rename_i purpose
    simp only [purpose]
    exact fun message carries => absurd carries (empty message)
  · rename_i purpose
    simp only [purpose]
    exact fun number due sends => absurd sends (idle number due)
  · rename_i purpose
    simp only [purpose]
    exact proper
  · rename_i purpose
    simp only [purpose]
    exact proper
  · trivial

/-- A request that has not run has to do with nothing yet. -/
theorem proper_request (world : World) (actor : Option String) (site : SiteId)
    (request : Request) : world.Proper ⟨actor, .request site request, .fresh⟩ := by
  cases request with
  | consume group topic ack => exact fun _ carries => carries.elim
  | acknowledge group topic ack =>
    cases ack with
    | explicit partition offset => exact fun number due sends => by simp at sends
    | _ => trivial
  | _ => trivial

/-- What is started by a task that does not consume has nothing to do with any session. -/
theorem proper_of_bears {parent child : Purpose} {actor : Option String} {stage : Stage}
    (bears : parent.Bears me child)
    (consumes : ∀ site group topic ack, parent ≠ .request site (.consume group topic ack)) :
    world.Proper ⟨actor, child, stage⟩ := by
  unfold Purpose.Bears at bears
  split at bears
  · trivial
  · exact absurd rfl (consumes _ _ _ _)
  · trivial
  · trivial
  · exact bears.elim

/-- A request that has been told its answer has got a message of its lane, if any. -/
theorem proper_of_told (laned : before.Laned) (wider : Wider before after) {running : Task}
    (mine : before.tasks[me]? = some running) {task : TaskId} {stage : Stage}
    (there : before.tasks[task]? = some found) (fits : found.stage.Fits found.purpose)
    (alike : found.stage.AwaitsAlike stage) (tells : running.purpose.Tells task stage) :
    after.Proper { found with stage := stage } := by
  obtain ⟨answer, delay, purpose, rfl⟩ := tells
  have proper := wider.proper (laned.tasks me running mine)
  have fits := fits.alike alike
  obtain ⟨later, still⟩ := wider.tasks task found there
  obtain ⟨actor, mission, old⟩ := found
  unfold Proper at proper
  rw [purpose] at proper
  cases mission with
  | request site request =>
    cases request with
    | consume group topic ack =>
      intro message carries
      cases answer with
      | receipt answer => exact carries.elim
      | message answer =>
        rcases answer with (error | carried) | _
        · exact carries.elim
        · obtain rfl : message = carried := carries
          obtain ⟨asking, place, party, subject, given, here, asks, owned⟩ := proper
          obtain rfl := Option.some.inj (still.symm.trans here)
          cases asks
          exact owned
        · exact carries.elim
    | acknowledge group topic ack =>
      cases answer <;> simp [Stage.Fits, Stage.told] at fits
    | _ => trivial
  | _ => cases answer <;> simp [Stage.Fits, Stage.told] at fits

/-- A standalone acknowledgement waits in the line of a session of its lane. -/
theorem proper_of_acknowledges (laned : before.Laned) (waits : before.Waits)
    (free : before.isOpen (.resume me) = true) {group topic : String} {ack : Ack} {stage : Stage}
    (there : before.tasks[me]? = some found)
    (asks : found.purpose = .request site (.acknowledge group topic ack))
    (later : (before.resume me).tasks[me]? = some { found with stage := stage }) :
    before.Proper { found with stage := stage } := by
  obtain ⟨actor, purpose, old⟩ := found
  subst asks
  cases ack with
  | none => trivial
  | auto => trivial
  | explicit partition offset =>
    rintro number due rfl
    have pending : (before.resume me).dispatch? me = some ⟨site, number, offset, some due⟩ := by
      simp [dispatch?, later, Task.dispatch?]
    cases waiting : before.dispatch? me with
    | none =>
      obtain ⟨found, here, begins⟩ := begins_of_begun waits waiting pending
      obtain rfl := Option.some.inj (there.symm.trans here)
      obtain ⟨place, at_site, -, routed, -⟩ := begins
      exact ⟨place, at_site, laned.routes site place _ number at_site routed⟩
    | some dispatch =>
      obtain still | ⟨outcome, -, settled⟩ := pending_apply waits free waiting
      · obtain rfl := Option.some.inj (still.symm.trans pending)
        have proper := laned.tasks me _ there
        refine proper number due ?_
        cases old <;> simp_all [dispatch?, Task.dispatch?]
      · exact absurd ((dispatch?_of_outcome? settled).symm.trans pending) (by simp)

/-- A task that runs keeps the lanes. -/
theorem Laned.resume (laned : world.Laned) (waits : world.Waits)
    (free : world.isOpen (.resume me) = true) : (world.resume me).Laned := by
  cases there : world.tasks[me]? with
  | none =>
    rw [resume_absent there]
    exact laned.same rfl rfl
  | some found =>
    have fits := (waits.sound me found there).1
    by_cases consumes : ∃ site group topic ack,
        found.purpose = .request site (.consume group topic ack)
    · obtain ⟨site, group, topic, ack, purpose⟩ := consumes
      exact laned.consume there purpose fits
    have strokes := strokes_resume there fits
    have left : ({ world with ready := world.ready.erase me } : World).Laned := laned.same rfl rfl
    have wider := strokes.wider
    refine left.wider wider ?_ ?_
    · intro site place later here after key number routed
      obtain ⟨absent, -⟩ | ⟨other, last, same, still, frame⟩ := strokes.siteFrame site
      · exact absurd (absent.symm.trans here) (by simp)
      · obtain rfl := Option.some.inj (same.symm.trans here)
        obtain rfl := Option.some.inj (still.symm.trans after)
        left
        rw [← frame.routes fun group topic ack asks => consumes ⟨site, group, topic, ack, asks⟩]
        exact routed
    · intro task later after
      by_cases old : ∃ earlier, world.tasks[task]? = some earlier
      · obtain ⟨earlier, first⟩ := old
        obtain ⟨stage, still, moved⟩ := strokes.taskFrame.kept task earlier first
        obtain rfl := Option.some.inj (still.symm.trans after)
        obtain rfl | ⟨alike, tells⟩ | ⟨rfl, -⟩ := moved
        · exact .inl first
        · exact .inr (proper_of_told left wider there first (waits.sound task earlier first).1 alike
            tells)
        · obtain rfl := Option.some.inj (there.symm.trans first)
          right
          by_cases acknowledges : ∃ site group topic ack,
              found.purpose = .request site (.acknowledge group topic ack)
          · obtain ⟨site, group, topic, ack, purpose⟩ := acknowledges
            exact wider.proper (proper_of_acknowledges laned waits free there purpose after)
          · refine wider.proper ((left.tasks task found there).elsewhere ?_ ?_ stage)
            · exact fun site group topic ack asks => consumes ⟨site, group, topic, ack, asks⟩
            · exact fun site group topic ack asks => acknowledges ⟨site, group, topic, ack, asks⟩
      · have absent : world.tasks[task]? = none := by
          cases first : world.tasks[task]? with
          | none => rfl
          | some earlier => exact absurd ⟨earlier, first⟩ old
        have foreign : task ≠ me := by
          rintro rfl
          exact absurd (absent.symm.trans there) (by simp)
        obtain ⟨fresh, bears | ⟨-, hands⟩⟩ :=
          strokes.taskFrame.born task later absent after foreign
        · exact .inr (proper_of_bears bears fun site group topic ack asks =>
            consumes ⟨site, group, topic, ack, asks⟩)
        · unfold Purpose.HandsOn at hands
          split at hands
          · rename_i asks _
            exact absurd ⟨_, _, _, _, asks⟩ consumes
          · exact hands.elim

/-- A task that is cancelled keeps the lanes. -/
theorem Laned.cancel (laned : world.Laned) (waits : world.Waits)
    (there : world.tasks[me]? = some found) : (world.cancel me).Laned := by
  have ended : (({ world with ready := world.ready.erase me } : World).finish me
      .cancelled).Laned := by
    have left : ({ world with ready := world.ready.erase me } : World).Laned := laned.same rfl rfl
    refine left.finish fun other here => ?_
    exact (left.tasks me other here).at_rest (fun message => id) fun number due => by simp
  obtain ⟨-, same⟩ | ⟨-, -, ready, same, -⟩ | ⟨dispatch, -, same⟩ :=
    cancel_cases there (waits.sound me found there).1
  · rw [same]
    exact laned
  · rw [same]
    exact ended.same rfl rfl
  · rw [same]
    exact ended.onSession _ _ _

/-- Open moves keep the lanes. -/
theorem Laned.apply (laned : world.Laned) (waits : world.Waits) {move : Move}
    (free : world.isOpen move = true) : (world.apply move).Laned := by
  cases move with
  | resume me => exact laned.resume waits free
  | pass moment =>
    obtain ⟨ready, same⟩ := exists_passTo world moment
    rw [World.apply, same]
    exact laned.same rfl rfl
  | request site request => exact laned.spawn none (proper_request world none site request)
  | shutdown sites logged => exact laned.spawn none trivial
  | cancel me =>
    simp only [isOpen, isCall] at free
    cases there : world.tasks[me]? with
    | none => simp [there] at free
    | some found => exact laned.cancel waits there
  | enqueue site group topic items =>
    exact laned.onSite (fun found _ => .of_eq rfl rfl) fun found _ key number routed => .inl routed
  | read site number limit => exact laned.onSession site number _
  | close site number => exact laned.onSession site number Session.close
  | renew site key =>
    exact laned.onSite (fun found _ => Broker.widens_renewSession found.broker key)
      fun found _ key number routed => .inl routed

/-- Nothing has been recorded in a world that has just been opened. -/
theorem Opened.laned (opened : world.Opened) : world.Laned where
  brokers := by
    intro site found there
    rw [(opened.untouched.2.2.2 found (List.mem_of_getElem? there)).broker]
    exact Broker.laned_empty
  routes := by
    intro site found key number there routed
    rw [(opened.untouched.2.2.2 found (List.mem_of_getElem? there)).routes] at routed
    simp [RoutingTable.get?, RoutingTable.empty] at routed
  tasks := by
    intro task found there
    simp [opened.untouched.1] at there

/-- In every world that can be reached, sessions are in their lanes. -/
theorem Laned.reaches {last : World} (laned : world.Laned) (waits : world.Waits)
    (reaches : world.Reaches last) : last.Laned :=
  waits.keeps (P := Laned) (fun _ _ waits free laned => laned.apply waits free) laned reaches

/-- Open moves only make lanes longer. -/
theorem Waits.wider (waits : world.Waits) (move : Move) : Wider world (world.apply move) := by
  have tasks (task : TaskId) (found : Task) (there : world.tasks[task]? = some found) :
      ∃ stage, (world.apply move).tasks[task]? = some { found with stage := stage } := by
    obtain ⟨stage, later, -⟩ := kept_apply waits.sound move there
    exact ⟨stage, later⟩
  cases move with
  | resume me =>
    cases there : world.tasks[me]? with
    | none => exact .of_sites (by rw [World.apply, resume_absent there]) tasks
    | some found =>
      have wider := (strokes_resume there (waits.sound me found there).1).wider
      exact ⟨wider.sites, tasks⟩
  | pass moment =>
    obtain ⟨ready, same⟩ := exists_passTo world moment
    exact .of_sites (by rw [World.apply, same]) tasks
  | request site request => exact .of_sites rfl tasks
  | shutdown sites logged => exact .of_sites rfl tasks
  | cancel me =>
    cases there : world.tasks[me]? with
    | none => exact .of_sites (by simp [World.apply, World.cancel, there]) tasks
    | some found =>
      obtain ⟨-, same⟩ | ⟨-, -, ready, same, -⟩ | ⟨dispatch, -, same⟩ :=
        cancel_cases there (waits.sound me found there).1
      · exact .of_sites (by rw [World.apply, same]) tasks
      · exact .of_sites (by rw [World.apply, same]; rfl) tasks
      · have wider := wider_onSession
          (({ world with ready := world.ready.erase me } : World).finish me .cancelled)
          dispatch.site dispatch.session (·.withdraw me)
        refine ⟨?_, tasks⟩
        rw [World.apply, same]
        exact wider.sites
  | enqueue site group topic items => exact .of_onSite fun found _ => .of_eq rfl rfl
  | read site number limit => exact wider_onSession world site number _
  | close site number => exact wider_onSession world site number Session.close
  | renew site key => exact .of_onSite fun found _ => Broker.widens_renewSession found.broker key

/-- A session stays in its lane along a run. -/
theorem Waits.owns_reaches {last : World} (waits : world.Waits) (reaches : world.Reaches last)
    (owned : world.Owns site key number) : last.Owns site key number :=
  waits.keeps (P := fun world => world.Owns site key number)
    (fun _ move waits _ owned => (waits.wider move).owns owned) owned reaches

/-- A session that is in a lane is there. -/
theorem Laned.exists_session (laned : world.Laned) (owned : world.Owns site key number) :
    ∃ session, world.session? site number = some session := by
  obtain ⟨found, there, inside⟩ := owned
  have bounded := (laned.brokers site found there).bounded inside
  refine ⟨found.broker.sessions[number], ?_⟩
  simp only [session?, there, Option.bind_some, List.getElem?_eq_getElem bounded]

/-- A session is in one lane only. -/
theorem Laned.apart (laned : world.Laned) {other : RoutingKey}
    (first : world.Owns site key number) (second : world.Owns site other number) :
    key = other := by
  obtain ⟨found, there, inside⟩ := first
  obtain ⟨place, here, also⟩ := second
  obtain rfl := Option.some.inj (there.symm.trans here)
  exact (laned.brokers site found there).apart inside also

/-- A task that ends as it does with its delivery, while a session of a lane admits it, has
delivered. -/
theorem Laned.delivers (laned : world.Laned) (waits : world.Waits)
    (free : world.isOpen (.resume me) = true) (there : world.tasks[me]? = some found)
    (unended : world.outcome? me = none) {outcome : Outcome}
    (ended : (world.resume me).outcome? me = some outcome) {dispatch : Dispatch}
    (concludes : found.purpose.Concludes dispatch .accepted outcome)
    (owned : (world.resume me).Owns dispatch.site key dispatch.session)
    (admits : world.Admits me dispatch.site dispatch.session) :
    ∃ other, Delivers me other world (world.resume me) ∧
      found.purpose.Concludes other .accepted outcome := by
  obtain ⟨task, other, resumed, delivers⟩ | ⟨-, withholds⟩ := accepted_apply waits (.resume me)
  · obtain rfl : me = task := Move.resume.inj resumed
    obtain ⟨running, told, here, same, settled⟩ := delivers.concludes
    obtain rfl := Option.some.inj (there.symm.trans here)
    obtain rfl := Option.some.inj (ended.symm.trans settled)
    exact ⟨other, delivers, same⟩
  · have alive : world.isOver me = false := by
      refine (isOver_eq_false there).mpr fun outcome settled => ?_
      exact absurd (unended.symm.trans (outcome?_eq_some_iff.mpr ⟨found, there, settled⟩)) (by simp)
    obtain ⟨session, exist⟩ := (laned.apply waits free).exists_session owned
    have missed := (withholds me rfl).missed found outcome dispatch there alive ended concludes
      (Option.isSome_iff_exists.mpr ⟨session, exist⟩)
    exact absurd admits missed

end World

end ClusterGateway
