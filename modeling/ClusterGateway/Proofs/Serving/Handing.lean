import ClusterGateway.Proofs.Delivery.Handover
import ClusterGateway.Proofs.Shutdown.Holdings

/-!
# Handing requests to components

A request is handed to the component that it needs in its first step, exactly once, and
only if the gateway holds that component then; nothing else is ever handed to a component.
A request that finds its component gone is refused in that step. Main statements:
`errands_apply`, `resume_refused`.
-/

namespace ClusterGateway

/-- The component that a request needs. -/
def Request.needs? : Request → Option Component
  | .produce _ => some .producer
  | .submit _ => some .producer
  | .consume _ _ _ => some .consumer
  | .acknowledge _ _ _ => some .consumer
  | .administer _ => some .admin
  | .stop => none
  | .query _ => none

/-- What a component is asked to do. -/
inductive Errand where
  | send (submission : Submission)
  | fetch (group topic : String)
  | call (call : AdminCall)
deriving Repr, DecidableEq

/-- What a request asks the component to do that it needs. A standalone acknowledgement only
looks whether the component is there. -/
def Request.errand? : Request → Option Errand
  | .produce submission => some (.send submission)
  | .submit submission => some (.send submission)
  | .consume group topic _ => some (.fetch group topic)
  | .administer call => some (.call call)
  | .acknowledge _ _ _ => none
  | .stop => none
  | .query _ => none

namespace Broker

variable {script : BrokerScript} {broker : Broker}

/-- What a component of a cluster was asked to do, the oldest first. -/
def errands (broker : Broker) : Component → List Errand
  | .producer => broker.submissions.map .send
  | .consumer => broker.requests.map fun asked => .fetch asked.1 asked.2
  | .admin => broker.adminCalls.map .call
  | .offsets => []
  | .client => []

/-- What was asked is the same where the three records are. -/
theorem errands_congr {after : Broker} (submissions : after.submissions = broker.submissions)
    (requests : after.requests = broker.requests)
    (adminCalls : after.adminCalls = broker.adminCalls) (component : Component) :
    after.errands component = broker.errands component := by
  cases component <;> simp only [errands, submissions, requests, adminCalls]

/-- A cluster is asked for one more thing. -/
def Takes (before after : Broker) (component : Component) (errand : Errand) : Prop :=
  ∀ other, after.errands other =
    before.errands other ++ if other = component then [errand] else []

/-- The session of a partition is looked for without asking for anything. -/
theorem errands_currentSession (script : BrokerScript) (broker : Broker) (key : RoutingKey)
    (component : Component) :
    (broker.currentSession script key).1.errands component = broker.errands component := by
  unfold currentSession
  dsimp only
  split <;> exact errands_congr rfl rfl rfl component

/-- A message is submitted to the producer. -/
theorem takes_submit (script : BrokerScript) (broker : Broker) (submission : Submission) :
    broker.Takes (broker.submit script submission).1 .producer (.send submission) := by
  intro other
  obtain ⟨nextOffset, same⟩ := broker.exists_submit script submission
  rw [same]
  cases other <;> simp [errands]

/-- The consumer is asked for a message. -/
theorem takes_fetch (script : BrokerScript) (broker : Broker) (group topic : String) :
    broker.Takes (broker.fetch script group topic).1 .consumer (.fetch group topic) := by
  intro other
  have recorded (queues : List ((String × String) × List QueuedDelivery)) :
      ({ broker with
        requests := broker.requests ++ [(group, topic)]
        queues := queues } : Broker).errands other =
      broker.errands other ++ if other = .consumer then [.fetch group topic] else [] := by
    cases other <;> simp [errands]
  unfold fetch
  dsimp only
  split
  · exact recorded broker.queues
  · rename_i item rest _
    rw [← recorded (assign (group, topic) rest broker.queues)]
    cases item.delivery with
    | drop => rfl
    | failure error => rfl
    | message given partition offset highWaterMark key value =>
      exact errands_currentSession script _ ⟨group, topic, partition⟩ other

/-- A call is handed to the admin. -/
theorem takes_recordCall (broker : Broker) (call : AdminCall) :
    broker.Takes (broker.recordCall call) .admin (.call call) := by
  intro other
  cases other <;> simp [errands, recordCall]

/-- A call is answered without being asked again. -/
theorem errands_answer (script : BrokerScript) (broker : Broker) (call : AdminCall)
    (component : Component) :
    (broker.answer script call).1.errands component = broker.errands component := by
  unfold answer
  split
  · rfl
  · cases call with
    | groupOffsets => dsimp only; split <;> rfl
    | topicMetadata => dsimp only; split <;> rfl
    | setGroupOffsets => exact errands_congr rfl rfl rfl component
    | _ => rfl

end Broker

namespace World

variable {world before middle after : World} {me task : TaskId} {found : Task} {site : SiteId}
  {place : Site} {component : Component} {errand : Errand} {request : Request} {move : Move}

/-- What a component of the cluster at a site was asked to do, the oldest first. -/
def errands (world : World) (site : SiteId) (component : Component) : List Errand :=
  (world.sites[site]?).elim [] (·.broker.errands component)

/-- No component was asked for anything. -/
def Idles (before after : World) : Prop :=
  ∀ site component, after.errands site component = before.errands site component

/-- One component was asked for one thing. -/
def Takes (before after : World) (site : SiteId) (component : Component) (errand : Errand) :
    Prop :=
  ∀ place other, after.errands place other = before.errands place other ++
    if place = site ∧ other = component then [errand] else []

/-- A request was handed to the component that it needs, if the gateway held it; if not, no
component was asked for anything. -/
def Hands (before after : World) (site : SiteId) (request : Request) : Prop :=
  ∃ component errand, request.needs? = some component ∧ request.errand? = some errand ∧
    (before.Lacks site component ∧ before.Idles after ∨
      ¬ before.Lacks site component ∧ before.Takes after site component errand)

/-- A request that finds the component gone asks for nothing. -/
theorem Hands.of_gone (there : world.sites[site]? = some place)
    (needs : request.needs? = some component) (errand_eq : request.errand? = some errand)
    (gone : ¬ place.gateway.holds component = true) (same : after.sites = world.sites) :
    world.Hands after site request := by
  refine ⟨component, errand, needs, errand_eq, .inl ⟨?_, fun place kind => ?_⟩⟩
  · exact (lacks_iff there).mpr (Bool.eq_false_iff.mpr gone)
  · rw [errands, errands, same]

/-- A request that finds the component there asks it for one thing. -/
theorem Hands.of_held (there : world.sites[site]? = some place)
    (needs : request.needs? = some component) (errand_eq : request.errand? = some errand)
    (held : place.gateway.holds component = true) (takes : world.Takes after site component errand) :
    world.Hands after site request :=
  ⟨component, errand, needs, errand_eq, .inr ⟨by simp [lacks_iff there, held], takes⟩⟩

/-- Where the clusters are the same, nothing was asked for. -/
theorem Idles.of_sites (same : after.sites = before.sites) : before.Idles after := by
  intro site component
  rw [errands, errands, same]

/-- Nothing was asked for twice. -/
theorem Idles.trans (first : before.Idles middle) (second : middle.Idles after) :
    before.Idles after :=
  fun site component => (second site component).trans (first site component)

/-- What was asked for before counts when nothing is asked for after it. -/
theorem Takes.idles (takes : before.Takes middle site component errand)
    (idles : middle.Idles after) : before.Takes after site component errand :=
  fun place other => (idles place other).trans (takes place other)

/-- A gateway that changes asks for nothing. -/
theorem idles_onGateway (world : World) (site : SiteId) (change : Gateway → Gateway) :
    world.Idles (world.onGateway site change) := by
  intro place component
  rw [errands, errands, onGateway, getElem?_onSite]
  split
  · cases world.sites[place]? <;> rfl
  · rfl

/-- A cluster that changes without being asked is asked for nothing. -/
theorem idles_onBroker (site : SiteId) {change : Broker → Broker}
    (same : ∀ found, world.sites[site]? = some found → ∀ component,
      (change found.broker).errands component = found.broker.errands component) :
    world.Idles (world.onBroker site change) := by
  intro place component
  rw [errands, errands, onBroker, getElem?_onSite]
  split
  · rename_i here
    subst here
    cases there : world.sites[site]? with
    | none => rfl
    | some found => exact same found there component
  · rfl

/-- A session that changes asks for nothing. -/
theorem idles_onSession (world : World) (site : SiteId) (session : SessionId)
    (change : Session → Session × List TaskId) :
    world.Idles (world.onSession site session change) := by
  obtain ⟨ready, same⟩ := exists_onSession world site session change
  rw [same]
  have changed : world.Idles
      (world.onBroker site (·.onSession session fun found => (change found).1)) :=
    idles_onBroker site fun found _ component => found.broker.errands_congr rfl rfl rfl component
  exact changed.trans (.of_sites rfl)

/-- A cluster is asked for what it takes. -/
theorem takes_onBroker {broker : Broker} (there : world.sites[site]? = some place)
    (takes : place.broker.Takes broker component errand) :
    world.Takes (world.onBroker site fun _ => broker) site component errand := by
  intro other kind
  rw [errands, errands, onBroker, getElem?_onSite]
  by_cases here : site = other
  · subst here
    simp [there, takes kind]
  · simp [here, Ne.symm here]

/-- Only a request that has an errand asks for something. -/
theorem Stroke.idles {purpose : Purpose} {sends hands : Prop}
    (stroke : Stroke me purpose sends hands before after)
    (silent : ∀ site request, purpose = .request site request → request.errand? = none) :
    before.Idles after := by
  cases stroke with
  | wake other =>
    obtain ⟨ready, same⟩ := exists_wake before other
    exact .of_sites (by rw [same])
  | tell target answer =>
    obtain same | ⟨_, -, -, same⟩ := tellAnswer_cases before target answer
    · exact .of_sites (by rw [same])
    · obtain ⟨ready, woken⟩ := exists_wake (before.setStage target (.told answer)) target
      exact .of_sites (by rw [same, woken]; rfl)
  | serve site request found broker asks there serves =>
    have none := silent site request asks
    cases serves <;> simp [Request.errand?] at none
  | route site => exact idles_onGateway before site _
  | release site => exact idles_onGateway before site _
  | notify site => exact idles_onGateway before site _
  | setState site actor component state =>
    obtain ⟨-, same⟩ | ⟨entries, same⟩ := setState_cases before site actor component state
    · exact .of_sites (by rw [same])
    · rw [same]
      have set : before.Idles (before.onGateway site (·.setState component state)) :=
        idles_onGateway before site _
      exact set.trans (.of_sites rfl)
  | recordStop site component ended =>
    exact idles_onBroker site fun found _ kind => found.broker.errands_congr rfl rfl rfl kind
  | touch site session change => exact idles_onSession before site session change
  | _ => exact .of_sites rfl

/-- The steps of a task that has no errand ask for nothing. -/
theorem Strokes.idles {purpose : Purpose} {sends hands : Prop}
    (strokes : Strokes me purpose sends hands before after)
    (silent : ∀ site request, purpose = .request site request → request.errand? = none) :
    before.Idles after :=
  strokes.keeps (P := Idles) (fun _ => .of_sites rfl) (fun first second => first.trans second)
    fun stroke => stroke.idles silent

/-- A producing request that gets its answer asks for nothing. -/
theorem idles_receiveReceipt (world : World) (answer : Answer Receipt) :
    world.Idles (world.receiveReceipt me answer) := by
  cases answer <;> exact .of_sites rfl

/-- What follows an attempt to acknowledge a fetched message asks for nothing. -/
theorem idles_settleAutoAck (world : World) (actor : Option String) (group topic : String)
    (message : Message) (attempt : SendAttempt) :
    world.Idles (world.settleAutoAck me actor group topic message attempt) := by
  cases attempt <;> exact .of_sites rfl

/-- An attempt to send asks for nothing. -/
theorem idles_trySend (world : World) (session : SessionId) (offset : Int64) :
    world.Idles (world.trySend me site session offset).1 := by
  obtain ⟨_, -, -, same⟩ | ⟨_, -, -, same⟩ | ⟨-, same⟩ :=
    trySend_cases world me site session offset
  · rw [same]
    exact idles_onSession world site session _
  · rw [same]
    exact idles_onSession world site session _
  · rw [same]
    exact .of_sites rfl

/-- A further attempt to send asks for nothing. -/
theorem idles_retrySend (world : World) (session : SessionId) (offset : Int64) :
    world.Idles (world.retrySend me site session offset).1 := by
  obtain ⟨_, -, -, -, same⟩ | ⟨_, -, -, -, same⟩ | ⟨-, same⟩ :=
    retrySend_cases world me site session offset
  · rw [same]
    exact idles_onSession world site session _
  · rw [same]
    exact .of_sites rfl
  · rw [same]
    exact .of_sites rfl

/-- A consume request that gets its answer asks for nothing. -/
theorem idles_receiveMessage (world : World) (actor : Option String) (group topic : String)
    (ack : Ack) (answer : Answer Message) :
    world.Idles (world.receiveMessage me actor site group topic ack answer) := by
  cases answer with
  | dropped => exact .of_sites rfl
  | reply result =>
    cases result with
    | error error => exact .of_sites rfl
    | ok message =>
      have routed : world.Idles (world.onGateway site (·.route group topic message)) :=
        idles_onGateway world site _
      simp only [receiveMessage]
      split
      · exact (routed.trans (idles_trySend _ _ _)).trans (idles_settleAutoAck _ _ _ _ _ _)
      · exact routed.trans (.of_sites rfl)

/-- A consume request that goes on with its acknowledgement asks for nothing. -/
theorem idles_continueAutoAck (world : World) (actor : Option String) (group topic : String)
    (message : Message) :
    world.Idles (world.continueAutoAck me actor site group topic message) :=
  (idles_retrySend world _ _).trans (idles_settleAutoAck _ _ _ _ _ _)

/-- A call that is answered asks for nothing more. -/
theorem idles_endAdminister (there : world.sites[site]? = some place) (call : AdminCall) :
    world.Idles (world.endAdminister me site place call) := by
  have answered : world.Idles
      (world.onBroker site fun _ => (place.broker.answer world.script call).1) := by
    refine idles_onBroker site fun found here kind => ?_
    obtain rfl := Option.some.inj (there.symm.trans here)
    exact Broker.errands_answer world.script place.broker call kind
  exact answered.trans (.of_sites rfl)

/-- A message is handed to the producer, if the gateway holds it. -/
theorem hands_beginProduce (there : world.sites[site]? = some place) (submission : Submission) :
    world.Hands (world.beginProduce me site place submission) site (.produce submission) := by
  unfold beginProduce
  split
  · rename_i held
    have taken := takes_onBroker there (Broker.takes_submit world.script place.broker submission)
    generalize place.broker.submit world.script submission = result at taken ⊢
    obtain ⟨broker, answer, delay⟩ := result
    refine .of_held there rfl rfl held ?_
    dsimp only
    split
    · exact taken.idles (idles_receiveReceipt _ answer)
    · exact taken.idles (.of_sites rfl)
  · rename_i gone
    exact .of_gone there rfl rfl gone rfl

/-- A message is handed to the producer without waiting, if the gateway holds it. -/
theorem hands_beginSubmit (there : world.sites[site]? = some place) (submission : Submission) :
    world.Hands (world.beginSubmit me site place submission) site (.submit submission) := by
  unfold beginSubmit
  split
  · rename_i held
    have taken := takes_onBroker there (Broker.takes_submit world.script place.broker submission)
    exact .of_held there rfl rfl held (taken.idles (.of_sites rfl))
  · rename_i gone
    exact .of_gone there rfl rfl gone rfl

/-- The consumer is asked for a message, if the gateway holds it. -/
theorem hands_beginFetch (there : world.sites[site]? = some place) (actor : Option String)
    (group topic : String) (ack : Ack) :
    world.Hands (world.beginFetch me actor site place group topic ack) site
      (.consume group topic ack) := by
  unfold beginFetch
  split
  · rename_i held
    have taken := takes_onBroker there (Broker.takes_fetch world.script place.broker group topic)
    generalize place.broker.fetch world.script group topic = result at taken ⊢
    obtain ⟨broker, answer, delay⟩ := result
    refine .of_held there rfl rfl held ?_
    dsimp only
    split
    · exact taken.idles (idles_receiveMessage _ actor group topic ack answer)
    · exact taken.idles (.of_sites rfl)
  · rename_i gone
    exact .of_gone there rfl rfl gone rfl

/-- The consumer is asked for a message after an acknowledgement was handed on. -/
theorem hands_beginConsume (there : world.sites[site]? = some place) (actor : Option String)
    (group topic : String) (ack : Ack) :
    world.Hands (world.beginConsume me actor site place group topic ack) site
      (.consume group topic ack) := by
  unfold beginConsume
  cases ack with
  | none => exact hands_beginFetch there actor group topic .none
  | auto => exact hands_beginFetch there actor group topic .auto
  | explicit partition offset =>
    have same : (world.beginBackgroundAck me site place actor ⟨group, topic, partition⟩
        offset).sites = world.sites := sites_beginBackgroundAck world place actor _ offset
    have handed : (world.beginBackgroundAck me site place actor ⟨group, topic, partition⟩
        offset).Hands (beginFetch _ me actor site place group topic (.explicit partition offset))
        site (.consume group topic (.explicit partition offset)) :=
      hands_beginFetch (same.symm ▸ there) actor group topic (.explicit partition offset)
    unfold Hands Idles Takes Lacks errands ledger at handed ⊢
    simpa only [same] using handed

/-- A call is handed to the admin, if the gateway holds it. -/
theorem hands_beginAdminister (there : world.sites[site]? = some place) (call : AdminCall) :
    world.Hands (world.beginAdminister me site place call) site (.administer call) := by
  unfold beginAdminister
  split
  · rename_i held
    have taken := takes_onBroker there (Broker.takes_recordCall place.broker call)
    have at_site : (world.onBroker site fun _ => place.broker.recordCall call).sites[site]? =
        some { place with broker := place.broker.recordCall call } :=
      getElem?_sites_onBroker (fun _ => place.broker.recordCall call) there
    refine .of_held there rfl rfl held ?_
    dsimp only
    split
    · exact taken.idles (idles_endAdminister at_site call)
    · exact taken.idles (.of_sites rfl)
  · rename_i gone
    exact .of_gone there rfl rfl gone rfl

/-- A request that begins is handed to the component that it needs. -/
theorem hands_start (there : world.sites[site]? = some place) (actor : Option String)
    (errand_eq : request.errand? = some errand) :
    world.Hands (world.start me actor (.request site request)) site request := by
  simp only [start, there]
  cases request with
  | produce submission => exact hands_beginProduce there submission
  | submit submission => exact hands_beginSubmit there submission
  | consume group topic ack => exact hands_beginConsume there actor group topic ack
  | administer call => exact hands_beginAdminister there call
  | _ => simp [Request.errand?] at errand_eq

/-- A task that goes on asks for nothing, or is a request in its first step, which is handed to
the component that it needs. -/
theorem hands_proceed (world : World) (me : TaskId) (fits : found.stage.Fits found.purpose) :
    world.Idles (world.proceed me found) ∨ found.stage = .fresh ∧ ∃ site request,
      found.purpose = .request site request ∧ world.Hands (world.proceed me found) site request := by
  by_cases silent : ∀ site request, found.purpose = .request site request → request.errand? = none
  · exact .inl ((strokes_proceed world found fits fun _ _ => trivial).idles silent)
  obtain ⟨actor, purpose, stage⟩ := found
  simp only [not_forall] at silent
  obtain ⟨site, request, rfl, errand⟩ := silent
  cases stage with
  | fresh =>
    cases there : world.sites[site]? with
    | none =>
      left
      simp only [proceed, start, there]
      exact .of_sites rfl
    | some place =>
      obtain ⟨errand, asks⟩ := Option.ne_none_iff_exists'.mp errand
      exact .inr ⟨rfl, site, request, rfl, hands_start there actor asks⟩
  | ended outcome => exact .inl (.of_sites rfl)
  | awaitingReceipt answer =>
    left
    cases answer with
    | none => exact .of_sites rfl
    | some answer => exact idles_receiveReceipt world answer
  | awaitingMessage answer =>
    left
    cases request with
    | consume group topic ack =>
      cases answer with
      | none => exact .of_sites rfl
      | some answer => exact idles_receiveMessage world actor group topic ack answer
    | _ => exact fits.elim
  | acknowledging message =>
    left
    cases request with
    | consume group topic ack => exact idles_continueAutoAck world actor group topic message
    | _ => exact fits.elim
  | administering due =>
    left
    cases request with
    | administer call =>
      simp only [proceed]
      split
      · exact .of_sites rfl
      · rename_i place there
        split
        · exact idles_endAdminister there call
        · exact .of_sites rfl
    | _ => exact fits.elim
  | _ => cases request <;> first | exact fits.elim | simp [Request.errand?] at errand

/-- A task that is cancelled asks for nothing. -/
theorem idles_cancel (world : World) (task : TaskId) : world.Idles (world.cancel task) := by
  obtain same | ⟨ended, rfl, same | ⟨place, session, same⟩ | ⟨parent, same⟩⟩ :=
    cancel_forms world task
  · exact .of_sites (by rw [same])
  · exact .of_sites (by rw [same]; rfl)
  · rw [same]
    have left : world.Idles (({ world with ready := world.ready.erase task } : World).finish task
        .cancelled) := .of_sites rfl
    exact left.trans (idles_onSession _ place session _)
  · obtain ⟨ready, woken⟩ := exists_wake
      (({ world with ready := world.ready.erase task } : World).finish task .cancelled) parent
    exact .of_sites (by rw [same, woken]; rfl)

/-- A move asks for nothing, or it is the first step of a request, which is handed to the
component that it needs. -/
theorem hands_apply (sound : world.Sound) (move : Move) :
    world.Idles (world.apply move) ∨ ∃ task found site request, move = .resume task ∧
      world.tasks[task]? = some found ∧ found.stage = .fresh ∧
        found.purpose = .request site request ∧ world.Hands (world.apply move) site request := by
  cases move with
  | resume task =>
    cases there : world.tasks[task]? with
    | none =>
      left
      rw [apply, resume_absent there]
      exact .of_sites rfl
    | some found =>
      rw [apply, resume_eq there]
      obtain idles | ⟨fresh, site, request, asks, hands⟩ := hands_proceed
        { world with ready := world.ready.erase task } task (sound task found there).1
      · exact .inl idles
      · exact .inr ⟨task, found, site, request, rfl, there, fresh, asks, hands⟩
  | pass moment =>
    obtain ⟨ready, same⟩ := exists_passTo world moment
    exact .inl (.of_sites (by rw [apply, same]))
  | request => exact .inl (.of_sites rfl)
  | shutdown => exact .inl (.of_sites rfl)
  | cancel task => exact .inl (idles_cancel world task)
  | enqueue site =>
    exact .inl (idles_onBroker site fun found _ kind => found.broker.errands_congr rfl rfl rfl kind)
  | read site number limit => exact .inl (idles_onSession world site number _)
  | close site number => exact .inl (idles_onSession world site number _)
  | renew site =>
    exact .inl (idles_onBroker site fun found _ kind => found.broker.errands_congr rfl rfl rfl kind)

/-- A request that runs for the first time is handed to the component that it needs. -/
theorem hands_resume (there : world.tasks[task]? = some found) (fresh : found.stage = .fresh)
    (asks : found.purpose = .request site request) (here : world.sites[site]? = some place)
    (errand_eq : request.errand? = some errand) :
    world.Hands (world.resume task) site request := by
  have at_site : ({ world with ready := world.ready.erase task } : World).sites[site]? =
    some place := here
  rw [resume_eq there]
  simp only [proceed, fresh, asks]
  exact hands_start at_site found.actor errand_eq

/-- A request that finds the component gone that it needs ends at once, refused. A consume
request has handed its explicit acknowledgement on before. -/
theorem resume_refused (there : world.tasks[task]? = some found) (fresh : found.stage = .fresh)
    (asks : found.purpose = .request site request) (needs : request.needs? = some component)
    (here : world.sites[site]? = some place) (gone : place.gateway.holds component = false) :
    ∃ left, world.resume task = left.conclude task (.error .unavailable) ∧
      left.tasks[task]? = some found ∧ left.sites = world.sites ∧
      ((∀ group topic partition offset,
          request ≠ .consume group topic (.explicit partition offset)) ∧
          left = { world with ready := world.ready.erase task } ∨
        ∃ group topic partition offset,
          request = .consume group topic (.explicit partition offset) ∧
          left = ({ world with ready := world.ready.erase task } : World).beginBackgroundAck task
            site place found.actor ⟨group, topic, partition⟩ offset) := by
  have at_site : ({ world with ready := world.ready.erase task } : World).sites[site]? =
    some place := here
  have same_task : ({ world with ready := world.ready.erase task } : World).tasks[task]? =
    some found := there
  have same_sites : ({ world with ready := world.ready.erase task } : World).sites =
    world.sites := rfl
  rw [resume_eq there]
  simp only [proceed, fresh, asks, start, at_site]
  generalize ({ world with ready := world.ready.erase task } : World) = left
    at at_site same_task same_sites ⊢
  cases request with
  | consume group topic ack =>
    obtain rfl := Option.some.inj needs
    cases ack with
    | explicit partition offset =>
      refine ⟨_, ?_, there_beginBackgroundAck same_task found.actor ⟨group, topic, partition⟩ offset,
        (sites_beginBackgroundAck left place found.actor _ offset).trans same_sites,
        .inr ⟨group, topic, partition, offset, rfl, rfl⟩⟩
      simp only [beginConsume, beginFetch, gone, Bool.false_eq_true, if_false]
    | _ =>
      refine ⟨left, ?_, same_task, same_sites, .inl ⟨by simp, rfl⟩⟩
      simp only [beginConsume, beginFetch, gone, Bool.false_eq_true, if_false]
  | acknowledge group topic ack =>
    obtain rfl := Option.some.inj needs
    refine ⟨left, ?_, same_task, same_sites, .inl ⟨by simp, rfl⟩⟩
    simp only [beginAcknowledge, gone, Bool.false_eq_true, if_false]
  | produce submission =>
    obtain rfl := Option.some.inj needs
    refine ⟨left, ?_, same_task, same_sites, .inl ⟨by simp, rfl⟩⟩
    simp only [beginProduce, gone, Bool.false_eq_true, if_false]
  | submit submission =>
    obtain rfl := Option.some.inj needs
    refine ⟨left, ?_, same_task, same_sites, .inl ⟨by simp, rfl⟩⟩
    simp only [beginSubmit, gone, Bool.false_eq_true, if_false]
  | administer call =>
    obtain rfl := Option.some.inj needs
    refine ⟨left, ?_, same_task, same_sites, .inl ⟨by simp, rfl⟩⟩
    simp only [beginAdminister, gone, Bool.false_eq_true, if_false]
  | stop => simp [Request.needs?] at needs
  | query => simp [Request.needs?] at needs

end World

end ClusterGateway
