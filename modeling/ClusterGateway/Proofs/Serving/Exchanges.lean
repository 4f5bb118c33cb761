import ClusterGateway.Proofs.Serving.Answers
import ClusterGateway.Proofs.Serving.Fetching
import ClusterGateway.Proofs.Serving.Handing
import Mathlib.Data.List.Nodup

/-!
# Exchanges with the producer and the consumer

A request to produce or to consume is handed over in its first step, if its gateway holds
the component that it needs, and what is answered to it is settled then. However many
requests are outstanding, in whatever order and after whatever time they are answered, each
of them returns its own answer: the only tasks that tell it one carry that answer. What the
component has received is compared with the history of a run, the list of the requests that
its moves have handed over. Main statements: `errands_handovers`, `Settled.apply`,
`requests_exchanged`.
-/

namespace ClusterGateway

/-- What is asked of the producer or the consumer. -/
def Request.Exchanges : Request → Prop
  | .produce _ => True
  | .submit _ => True
  | .consume _ _ _ => True
  | _ => False

/-- What a request returns, given what is answered to it. -/
def Request.result : Request → DelayedAnswer → Except Error Reply
  | .submit _, _ => .ok .done
  | _, .receipt answer => answer.produced
  | _, .message answer => answer.consumed

/-- What the producer or the consumer of a gateway answers to a request, if the gateway holds
it. -/
def Site.answer? (place : Site) (script : BrokerScript) : Request → Option DelayedAnswer
  | .produce submission =>
    if place.gateway.holds .producer then
      some (.receipt (place.broker.submit script submission).2.1) else none
  | .submit submission =>
    if place.gateway.holds .producer then
      some (.receipt (place.broker.submit script submission).2.1) else none
  | .consume group topic _ =>
    if place.gateway.holds .consumer then
      some (.message (place.broker.fetch script group topic).2.1) else none
  | _ => none

/-- A request that was handed over, with what is answered to it. -/
structure Handed where
  task : TaskId
  site : SiteId
  request : Request
  answer : DelayedAnswer
deriving Repr

/-- Where a request may stand that was handed over: it waits for its answer, keeps the message in
it to acknowledge, has returned what was answered, or was cancelled. -/
inductive DelayedAnswer.Allows : DelayedAnswer → Request → Stage → Prop
  | awaitingReceipt (answer : Answer Receipt) (submission : Submission)
    (told : Option (Answer Receipt)) (own : ∀ came, told = some came → came = answer) :
    Allows (.receipt answer) (.produce submission) (.awaitingReceipt told)
  | awaitingMessage (answer : Answer Message) (group topic : String) (ack : Ack)
    (told : Option (Answer Message)) (own : ∀ came, told = some came → came = answer) :
    Allows (.message answer) (.consume group topic ack) (.awaitingMessage told)
  | acknowledging (message : Message) (group topic : String) (ack : Ack) :
    Allows (.message (.reply (.ok message))) (.consume group topic ack) (.acknowledging message)
  | returned (answer : DelayedAnswer) (request : Request) :
    Allows answer request (.ended (.returned (request.result answer)))
  | cancelled (answer : DelayedAnswer) (request : Request) :
    Allows answer request (.ended .cancelled)

/-- A request that was handed over has run. -/
theorem DelayedAnswer.Allows.ran {answer : DelayedAnswer} {request : Request} {stage : Stage}
    (allows : answer.Allows request stage) : stage ≠ .fresh := by
  cases allows <;> simp

/-- A consume request that has gone on with its answer stands where it may. -/
theorem Answer.LeadsTo.allows {answer : Answer Message} {stage : Stage}
    (leads : answer.LeadsTo stage) (group topic : String) (ack : Ack) :
    (DelayedAnswer.message answer).Allows (.consume group topic ack) stage := by
  cases leads with
  | returned => exact .returned (.message answer) (.consume group topic ack)
  | acknowledging message => exact .acknowledging message group topic ack

/-- A request that was handed over is one that is answered. -/
theorem Site.exchanges_of_answer? {place : Site} {script : BrokerScript} {request : Request}
    {answer : DelayedAnswer} (answers : place.answer? script request = some answer) :
    request.Exchanges := by
  cases request with
  | produce => trivial
  | submit => trivial
  | consume => trivial
  | _ => simp [answer?] at answers

namespace World

/-- The request that a task hands over when it is resumed. -/
def hands? (world : World) (task : TaskId) : Option Handed :=
  (world.tasks[task]?).bind fun found =>
    match found.purpose, found.stage with
    | .request site request, .fresh =>
      ((world.sites[site]?).bind (·.answer? world.script request)).map (⟨task, site, request, ·⟩)
    | _, _ => none

/-- The request that a move hands over, if it hands one over. -/
def handovers (world : World) : Move → List Handed
  | .resume task => (world.hands? task).toList
  | _ => []

/-- The requests that were handed over in a run, the oldest first. -/
def handed (start : World) (moves : List Move) : List Handed := start.chronicle handovers moves

/-- All tasks that bring a request an answer bring it this one. -/
def OnlyBrings (world : World) (task : TaskId) (answer : DelayedAnswer) : Prop :=
  ∀ (child : TaskId) (helper : Task) brought delay, world.tasks[child]? = some helper →
    helper.purpose = .deliverAnswer task brought delay → brought = answer

/-- A request that was handed over stands where its answer allows, and will be told no other. -/
structure Settled (world : World) (entry : Handed) : Prop where
  stands : ∃ actor stage, world.tasks[entry.task]? =
    some ⟨actor, .request entry.site entry.request, stage⟩ ∧
      entry.answer.Allows entry.request stage
  brings : world.OnlyBrings entry.task entry.answer

variable {start world after last : World} {me task : TaskId} {found : Task} {site : SiteId}
  {place : Site} {request : Request} {answer : DelayedAnswer} {actor : Option String}
  {stage : Stage} {component : Component} {move : Move} {moves : List Move} {entry : Handed}

/-- A move hands a request over when it is its first step and finds the component. -/
theorem mem_handovers : entry ∈ world.handovers move ↔ move = .resume entry.task ∧
    (∃ actor, world.tasks[entry.task]? =
      some ⟨actor, .request entry.site entry.request, .fresh⟩) ∧
    ∃ place, world.sites[entry.site]? = some place ∧
      place.answer? world.script entry.request = some entry.answer := by
  cases move with
  | resume task =>
    simp only [handovers, hands?, Option.mem_toList, Option.bind_eq_some_iff, Move.resume.injEq]
    constructor
    · rintro ⟨⟨actor, purpose, stage⟩, there, hands⟩
      split at hands
      · obtain ⟨answer, answers, rfl⟩ := Option.map_eq_some_iff.mp hands
        obtain ⟨place, here, gives⟩ := Option.bind_eq_some_iff.mp answers
        rename_i asks unrun
        obtain rfl : purpose = _ := asks
        obtain rfl : stage = .fresh := unrun
        exact ⟨rfl, ⟨actor, there⟩, place, here, gives⟩
      · simp at hands
    · rintro ⟨rfl, ⟨actor, there⟩, place, here, gives⟩
      exact ⟨_, there, by simp [here, gives]⟩
  | _ => simp [handovers]

/-- A gateway that lacks the component that a request needs answers nothing. -/
theorem answer?_of_gone (needs : request.needs? = some component)
    (gone : place.gateway.holds component = false) (script : BrokerScript) :
    place.answer? script request = none := by
  cases request with
  | produce =>
    obtain rfl := Option.some.inj needs
    simp [Site.answer?, gone]
  | submit =>
    obtain rfl := Option.some.inj needs
    simp [Site.answer?, gone]
  | consume =>
    obtain rfl := Option.some.inj needs
    simp [Site.answer?, gone]
  | _ => rfl

/-- A gateway that holds the component that a request needs answers it. -/
theorem exists_answer?_of_held (exchanges : request.Exchanges)
    (needs : request.needs? = some component) (held : place.gateway.holds component = true)
    (script : BrokerScript) : ∃ answer, place.answer? script request = some answer := by
  cases request with
  | produce =>
    obtain rfl := Option.some.inj needs
    exact ⟨_, if_pos held⟩
  | submit =>
    obtain rfl := Option.some.inj needs
    exact ⟨_, if_pos held⟩
  | consume =>
    obtain rfl := Option.some.inj needs
    exact ⟨_, if_pos held⟩
  | _ => exact exchanges.elim

/-- What is asked of a component by requests that are handed over at a gateway. -/
def asked (entries : List Handed) (site : SiteId) (component : Component) : List Errand :=
  (entries.filter fun entry => entry.site = site ∧ entry.request.needs? = some component).filterMap
    (·.request.errand?)

/-- What is asked by requests that are handed over one after the other. -/
theorem asked_append (first second : List Handed) (site : SiteId) (component : Component) :
    asked (first ++ second) site component =
      asked first site component ++ asked second site component := by
  simp [asked]

/-- A request that is exchanged asks the component that it needs for something. -/
theorem exists_errand_of_exchanges (exchanges : request.Exchanges) : ∃ component errand,
    request.needs? = some component ∧ request.errand? = some errand ∧ component ≠ .admin := by
  cases request with
  | produce => exact ⟨_, _, rfl, rfl, nofun⟩
  | submit => exact ⟨_, _, rfl, rfl, nofun⟩
  | consume => exact ⟨_, _, rfl, rfl, nofun⟩
  | _ => exact exchanges.elim

/-- A request that is not exchanged asks the admin, if it asks for anything. -/
theorem needs?_of_not_exchanges (plain : ¬ request.Exchanges) {errand : Errand}
    (asks : request.errand? = some errand) : request.needs? = some .admin := by
  cases request with
  | administer => rfl
  | produce => exact absurd trivial plain
  | submit => exact absurd trivial plain
  | consume => exact absurd trivial plain
  | _ => simp [Request.errand?] at asks

/-- A gateway that does not lack a component is there and holds it. -/
theorem exists_site_of_not_lacks (held : ¬ world.Lacks site component) :
    ∃ place, world.sites[site]? = some place ∧ place.gateway.holds component = true := by
  cases there : world.sites[site]? with
  | none => simp [Lacks, ledger, there] at held
  | some place => exact ⟨place, rfl, by simpa [lacks_iff there] using held⟩

/-- A move hands over one request at most. -/
theorem handovers_of_mem (brought : entry ∈ world.handovers move) :
    world.handovers move = [entry] := by
  cases move with
  | resume task => exact Option.toList_eq_singleton_iff.mpr (Option.mem_toList.mp brought)
  | _ => simp [handovers] at brought

/-- A component other than the admin is asked for what is handed over to it, and nothing else. -/
theorem errands_apply_handovers (sound : world.Sound) (move : Move) (site : SiteId)
    (plain : component ≠ .admin) : (world.apply move).errands site component =
      world.errands site component ++ asked (world.handovers move) site component := by
  cases brings : world.handovers move with
  | cons entry rest =>
    have brought : entry ∈ world.handovers move := brings ▸ List.mem_cons_self
    obtain rfl : rest = [] := (List.cons.inj (brings.symm.trans (handovers_of_mem brought))).2
    obtain ⟨rfl, ⟨actor, there⟩, place, here, gives⟩ := mem_handovers.mp brought
    obtain ⟨needed, errand, needs, asks, -⟩ := exists_errand_of_exchanges (Site.exchanges_of_answer? gives)
    obtain ⟨needed', errand', needs', asks', ⟨lacks, -⟩ | ⟨-, takes⟩⟩ :=
      hands_resume there rfl rfl here asks
    · have gone := answer?_of_gone needs' ((lacks_iff here).mp lacks) world.script
      exact absurd (gone.symm.trans gives) (by simp)
    · refine (takes site component).trans ?_
      by_cases mine : site = entry.site ∧ component = needed'
      · obtain ⟨rfl, rfl⟩ := mine
        simp [asked, needs', asks']
      · have foreign : ¬ (entry.site = site ∧ entry.request.needs? = some component) := by
          rintro ⟨rfl, same⟩
          exact mine ⟨rfl, Option.some.inj (same.symm.trans needs')⟩
        simp [asked, mine, foreign]
  | nil =>
    obtain idles | ⟨task, found, place, request, rfl, there, fresh, asks, needed, errand, needs,
      errand_eq, ⟨-, idles⟩ | ⟨held, takes⟩⟩ := hands_apply sound move
    · exact (idles site component).trans (List.append_nil _).symm
    · exact (idles site component).trans (List.append_nil _).symm
    · obtain ⟨at_site, here, holds⟩ := exists_site_of_not_lacks held
      obtain ⟨actor, purpose, stage⟩ := found
      obtain rfl : purpose = .request place request := asks
      obtain rfl : stage = .fresh := fresh
      -- a request that asks something and is not handed over asks the admin
      have other : ¬ request.Exchanges := by
        intro exchanges
        obtain ⟨answer, gives⟩ := exists_answer?_of_held exchanges needs holds world.script
        have brought : (⟨task, place, request, answer⟩ : Handed) ∈
            world.handovers (.resume task) :=
          mem_handovers.mpr ⟨rfl, ⟨actor, there⟩, at_site, here, gives⟩
        rw [brings] at brought
        exact absurd brought List.not_mem_nil
      have admin := needs?_of_not_exchanges other errand_eq
      have apart : ¬ (site = place ∧ component = needed) := by
        rintro ⟨-, rfl⟩
        exact plain (Option.some.inj (needs.symm.trans admin))
      rw [takes site component, if_neg apart]
      rfl

/-- Where no task brings an answer, none brings a wrong one. -/
theorem OnlyBrings.of_unanswered (alone : world.Unanswered task) (answer : DelayedAnswer) :
    world.OnlyBrings task answer :=
  fun child helper brought delay there brings =>
    absurd brings (alone child helper brought delay there)

/-- A task that moves on brings nothing else than before. -/
theorem OnlyBrings.of_setStage (only : world.OnlyBrings task answer)
    (same : after.tasks = (world.setStage me stage).tasks) : after.OnlyBrings task answer := by
  intro child helper brought delay there brings
  rw [same, getElem?_setStage] at there
  split at there
  · obtain ⟨earlier, before, rfl⟩ := Option.map_eq_some_iff.mp there
    exact only child earlier brought delay before brings
  · exact only child helper brought delay there brings

/-- One more task that brings the answer. -/
theorem OnlyBrings.spawn (only : world.OnlyBrings task answer) (delay : Nat) :
    (world.spawn none (.deliverAnswer task answer delay)).1.OnlyBrings task answer := by
  intro child helper brought late there brings
  cases before : world.tasks[child]? with
  | some earlier =>
    obtain rfl := Option.some.inj ((getElem?_spawn_of_some world before).symm.trans there)
    exact only child earlier brought late before brings
  | none =>
    obtain ⟨-, rfl⟩ := getElem?_spawn_of_none world before there
    exact (Purpose.deliverAnswer.inj brings).2.1.symm

/-- Only a step of its own gets a request more tasks that bring it an answer. -/
theorem OnlyBrings.apply (only : world.OnlyBrings task answer) (sound : world.Sound)
    (free : world.isOpen move = true) (foreign : move ≠ .resume task) :
    (world.apply move).OnlyBrings task answer := by
  intro child helper brought delay there brings
  obtain born | ⟨earlier, before, same⟩ := born_or_kept sound free there
  · exact absurd (born.helps sound (by rw [brings]; rfl)).1 foreign
  · exact only child earlier brought delay before (same.trans brings)

/-- A request that was handed over and is resumed goes on to where its answer allows it. -/
theorem exists_resume_of_allows (there : world.tasks[me]? = some ⟨actor, .request site request, stage⟩)
    (allows : answer.Allows request stage) : ∃ later, answer.Allows request later ∧
      (world.resume me).tasks = (world.setStage me later).tasks := by
  have still : (world.setStage me stage).tasks = world.tasks := by
    rw [setStage_eq_self world me there]
  have left : ∀ stage, (({ world with ready := world.ready.erase me } : World).setStage me
    stage).tasks = (world.setStage me stage).tasks := fun _ => rfl
  rw [resume_eq there]
  cases allows with
  | awaitingReceipt answer submission told own =>
    cases told with
    | none => exact ⟨_, .awaitingReceipt answer submission none own, still.symm⟩
    | some came =>
      obtain rfl := own came rfl
      exact ⟨_, .returned (.receipt came) (.produce submission),
        (tasks_receiveReceipt _ me came).trans (left _)⟩
  | awaitingMessage answer group topic ack told own =>
    cases told with
    | none => exact ⟨_, .awaitingMessage answer group topic ack none own, still.symm⟩
    | some came =>
      obtain rfl := own came rfl
      obtain ⟨later, leads, same⟩ := tasks_receiveMessage
        { world with ready := world.ready.erase me } me actor site group topic ack came
      exact ⟨later, leads.allows group topic ack, same.trans (left later)⟩
  | acknowledging message group topic ack =>
    obtain ⟨later, leads, same⟩ := tasks_continueAutoAck
      { world with ready := world.ready.erase me } me actor site group topic message
    exact ⟨later, leads.allows group topic ack, same.trans (left later)⟩
  | returned answer request => exact ⟨_, .returned answer request, still.symm⟩
  | cancelled answer request => exact ⟨_, .cancelled answer request, still.symm⟩

/-- A request that waits for an answer and is told its own one stands where it may. -/
theorem allows_of_told {later : Stage} (allows : answer.Allows request stage)
    (alike : stage.AwaitsAlike later) (told : later = .told answer) :
    answer.Allows request later := by
  subst told
  cases allows with
  | awaitingReceipt answer submission =>
    exact .awaitingReceipt answer submission (some answer)
      fun came same => (Option.some.inj same).symm
  | awaitingMessage answer group topic ack =>
    exact .awaitingMessage answer group topic ack (some answer)
      fun came same => (Option.some.inj same).symm
  | _ => exact alike.elim

/-- A request that was handed over remains so in every open move. -/
theorem Settled.apply (settled : world.Settled entry) (sound : world.Sound)
    (free : world.isOpen move = true) : (world.apply move).Settled entry := by
  obtain ⟨⟨actor, stage, there, allows⟩, brings⟩ := settled
  have moved (later : Stage) (may : entry.answer.Allows entry.request later)
      (same : (world.apply move).tasks = (world.setStage entry.task later).tasks) :
      (world.apply move).Settled entry := by
    refine ⟨⟨actor, later, ?_, may⟩, brings.of_setStage same⟩
    rw [same, getElem?_setStage, if_pos rfl, there]
    rfl
  by_cases resumed : move = .resume entry.task
  · subst resumed
    obtain ⟨later, may, same⟩ := exists_resume_of_allows there allows
    exact moved later may same
  by_cases cancelled : move = .cancel entry.task
  · subst cancelled
    obtain same | same := tasks_cancel world entry.task
    · refine moved stage allows ?_
      rw [setStage_eq_self world entry.task there]
      exact same
    · exact moved _ (.cancelled entry.answer entry.request) same
  -- in the moves of others the request keeps its place, or is told its own answer
  obtain ⟨later, after, same | ⟨alike, tells⟩ | ⟨own | own, -⟩⟩ := kept_apply sound move there
  · exact ⟨⟨actor, later, after, same ▸ allows⟩, brings.apply sound free resumed⟩
  · obtain ⟨teller, running, rfl, mine, brought, delay, asks, told⟩ := tells
    obtain rfl := brings teller running brought delay mine asks
    exact ⟨⟨actor, later, after, allows_of_told allows alike told⟩,
      brings.apply sound free resumed⟩
  · exact absurd own resumed
  · exact absurd own cancelled

/-- A request that has moved on to where its answer allows it. -/
theorem Settled.of_setStage (there : world.tasks[me]? = some ⟨actor, .request site request, stage⟩)
    (only : world.OnlyBrings me answer) {later : Stage} (may : answer.Allows request later)
    (same : after.tasks = (world.setStage me later).tasks) :
    after.Settled ⟨me, site, request, answer⟩ := by
  refine ⟨⟨actor, later, ?_, may⟩, only.of_setStage same⟩
  rw [same, getElem?_setStage, if_pos rfl, there]
  rfl

/-- A request that waits for an answer, which one more task brings it. -/
theorem Settled.of_spawn (there : world.tasks[me]? = some ⟨actor, .request site request, stage⟩)
    (only : world.OnlyBrings me answer) (delay : Nat) {later : Stage}
    (may : answer.Allows request later) :
    ((world.spawn none (.deliverAnswer me answer delay)).1.setStage me later).Settled
      ⟨me, site, request, answer⟩ :=
  .of_setStage (getElem?_spawn_of_some world there) (only.spawn delay) may rfl

/-- A message is handed to the producer: the request waits for its answer, or has returned it. -/
theorem settled_beginProduce {submission : Submission}
    (there : world.tasks[me]? = some ⟨actor, .request site (.produce submission), stage⟩)
    (alone : world.Unanswered me)
    (gives : place.answer? world.script (.produce submission) = some answer) :
    (world.beginProduce me site place submission).Settled
      ⟨me, site, .produce submission, answer⟩ := by
  simp only [Site.answer?] at gives
  unfold beginProduce
  split at gives
  · rename_i held
    rw [if_pos held]
    generalize place.broker.submit world.script submission = result at gives ⊢
    obtain ⟨broker, told, delay⟩ := result
    obtain rfl := Option.some.inj gives
    have served : (world.onBroker site fun _ => broker).tasks[me]? =
      some ⟨actor, .request site (.produce submission), stage⟩ := there
    have only : (world.onBroker site fun _ => broker).OnlyBrings me (.receipt told) :=
      .of_unanswered alone _
    dsimp only
    split
    · exact .of_setStage served only (.returned (.receipt told) (.produce submission))
        (tasks_receiveReceipt _ me told)
    · exact .of_spawn served only delay (.awaitingReceipt told submission none nofun)
  · simp at gives

/-- A message is handed to the producer without waiting: the request has returned. -/
theorem settled_beginSubmit {submission : Submission}
    (there : world.tasks[me]? = some ⟨actor, .request site (.submit submission), stage⟩)
    (alone : world.Unanswered me)
    (gives : place.answer? world.script (.submit submission) = some answer) :
    (world.beginSubmit me site place submission).Settled ⟨me, site, .submit submission, answer⟩ ∧
      (world.beginSubmit me site place submission).outcome? me = some (.returned (.ok .done)) := by
  simp only [Site.answer?] at gives
  unfold beginSubmit
  split at gives
  · rename_i held
    rw [if_pos held]
    have served : (world.onBroker site fun _ =>
        (place.broker.submit world.script submission).1).tasks[me]? =
      some ⟨actor, .request site (.submit submission), stage⟩ := there
    exact ⟨.of_setStage served (.of_unanswered alone answer) (.returned answer (.submit submission))
      rfl, outcome?_conclude served none [] _⟩
  · simp at gives

/-- The consumer is asked for a message: the request waits for its answer, or goes on with it. -/
theorem settled_beginFetch {group topic : String} {ack : Ack}
    (there : world.tasks[me]? = some ⟨actor, .request site (.consume group topic ack), stage⟩)
    (alone : world.Unanswered me)
    (gives : place.answer? world.script (.consume group topic ack) = some answer) :
    (world.beginFetch me actor site place group topic ack).Settled
      ⟨me, site, .consume group topic ack, answer⟩ := by
  simp only [Site.answer?] at gives
  unfold beginFetch
  split at gives
  · rename_i held
    rw [if_pos held]
    generalize place.broker.fetch world.script group topic = result at gives ⊢
    obtain ⟨broker, told, delay⟩ := result
    obtain rfl := Option.some.inj gives
    have served : (world.onBroker site fun _ => broker).tasks[me]? =
      some ⟨actor, .request site (.consume group topic ack), stage⟩ := there
    have only : (world.onBroker site fun _ => broker).OnlyBrings me (.message told) :=
      .of_unanswered alone _
    dsimp only
    split
    · obtain ⟨later, leads, same⟩ := tasks_receiveMessage (world.onBroker site fun _ => broker) me
        actor site group topic ack told
      exact .of_setStage served only (leads.allows group topic ack) same
    · exact .of_spawn served only delay (.awaitingMessage told group topic ack none nofun)
  · simp at gives

/-- The consumer is asked for a message after an acknowledgement was handed on. -/
theorem settled_beginConsume {group topic : String} {ack : Ack}
    (there : world.tasks[me]? = some ⟨actor, .request site (.consume group topic ack), stage⟩)
    (alone : world.Unanswered me)
    (gives : place.answer? world.script (.consume group topic ack) = some answer) :
    (world.beginConsume me actor site place group topic ack).Settled
      ⟨me, site, .consume group topic ack, answer⟩ := by
  cases ack with
  | explicit partition offset =>
    have same := script_beginBackgroundAck world me site place actor ⟨group, topic, partition⟩
      offset
    exact settled_beginFetch (there_beginBackgroundAck there actor _ offset)
      (alone.beginBackgroundAck me site place actor _ offset) (same.symm ▸ gives)
  | _ => exact settled_beginFetch there alone gives

/-- A request that a move hands over stands where its answer allows it after that move; one that
does not wait has returned. -/
theorem settled_of_mem_handovers (opened : start.Opened) (reaches : start.Reaches world)
    (brought : entry ∈ world.handovers move) : (world.apply move).Settled entry ∧
      ∀ submission, entry.request = .submit submission →
        (world.apply move).outcome? entry.task = some (.returned (.ok .done)) := by
  obtain ⟨rfl, ⟨actor, there⟩, place, here, gives⟩ := mem_handovers.mp brought
  obtain ⟨task, site, request, answer⟩ := entry
  have alone : ({ world with ready := world.ready.erase task } : World).Unanswered task :=
    (opened.unaided reaches there rfl).unanswered
  have mine : ({ world with ready := world.ready.erase task } : World).tasks[task]? =
    some ⟨actor, .request site request, .fresh⟩ := there
  have at_site : ({ world with ready := world.ready.erase task } : World).sites[site]? =
    some place := here
  have still : place.answer? ({ world with ready := world.ready.erase task } : World).script
    request = some answer := gives
  rw [World.apply, resume_eq there]
  generalize ({ world with ready := world.ready.erase task } : World) = left
    at alone mine at_site still ⊢
  simp only [proceed, World.start, at_site]
  cases request with
  | produce submission => exact ⟨settled_beginProduce mine alone still, by simp⟩
  | submit submission =>
    obtain ⟨settled, returned⟩ := settled_beginSubmit mine alone still
    exact ⟨settled, fun _ _ => returned⟩
  | consume group topic ack => exact ⟨settled_beginConsume mine alone still, by simp⟩
  | _ => exact absurd (Site.exchanges_of_answer? still) id

/-- What a component other than the admin has been asked for in a run is what was handed over to
it, in that order. -/
theorem errands_handovers (opened : start.Opened) (played : start.play? moves = some last)
    (site : SiteId) (plain : component ≠ .admin) :
    last.errands site component = asked (start.handed moves) site component := by
  induction moves, last, played using run_induction with
  | nil =>
    unfold errands
    cases there : start.sites[site]? with
    | none => rfl
    | some place =>
      have untouched := opened.untouched.2.2.2 place (List.mem_of_getElem? there)
      show place.broker.errands component = []
      rw [untouched.broker]
      cases component <;> rfl
  | concat moves world move first _ ih =>
    rw [errands_apply_handovers (opened.sound.reaches ⟨moves, first⟩) move site plain, ih,
      handed, handed, chronicle_concat handovers first move, asked_append]

/-- A request that was handed over in a run remains so. -/
theorem settled_of_mem_handed (opened : start.Opened) (played : start.play? moves = some last)
    (member : entry ∈ start.handed moves) : last.Settled entry := by
  obtain ⟨move, world, makes, brought⟩ := (mem_chronicle played).mp member
  obtain ⟨reaches, free, onward⟩ := makes.free played
  have sound : world.Sound := opened.sound.reaches reaches
  exact (sound.apply free).keeps (P := fun world => world.Settled entry)
    (fun _ _ sound free settled => settled.apply sound free)
    (settled_of_mem_handovers opened reaches brought).1 onward

/-- No request is handed over twice. -/
theorem nodup_handed (opened : start.Opened) (played : start.play? moves = some last) :
    ((start.handed moves).map Handed.task).Nodup := by
  induction moves, last, played using run_induction with
  | nil => exact List.nodup_nil
  | concat moves world move first _ ih =>
    rw [handed, chronicle_concat handovers first move]
    cases brings : world.handovers move with
    | nil =>
      rw [List.append_nil]
      exact ih
    | cons entry rest =>
      have brought : entry ∈ world.handovers move := brings ▸ List.mem_cons_self
      obtain rfl : rest = [] := (List.cons.inj (brings.symm.trans (handovers_of_mem brought))).2
      rw [List.map_append, List.map_singleton, ← List.concat_eq_append]
      refine List.Nodup.concat (fun again => ?_) ih
      -- a request that was handed over before does not stand before its first step any more
      obtain ⟨earlier, member, same⟩ := List.mem_map.mp again
      obtain ⟨⟨actor, stage, there, allows⟩, -⟩ := settled_of_mem_handed opened first member
      obtain ⟨-, ⟨owner, fresh⟩, -⟩ := mem_handovers.mp brought
      rw [same, fresh] at there
      exact allows.ran (Task.mk.inj (Option.some.inj there)).2.2.symm

/-- What a request that was handed over returns is what was answered to it. -/
theorem result_of_mem_handed (opened : start.Opened) (played : start.play? moves = some last)
    (member : entry ∈ start.handed moves) {result : Except Error Reply}
    (returned : last.outcome? entry.task = some (.returned result)) :
    result = entry.request.result entry.answer := by
  obtain ⟨⟨actor, stage, there, allows⟩, -⟩ := settled_of_mem_handed opened played member
  obtain ⟨found, here, ended⟩ := outcome?_eq_some_iff.mp returned
  obtain rfl := Option.some.inj (there.symm.trans here)
  obtain rfl : stage = .ended (.returned result) := ended
  obtain ⟨task, site, request, answer⟩ := entry
  cases allows with
  | returned => rfl

/-- In its first step a request that is exchanged is handed over; or it finds no gateway or no
component there, and ends at once. -/
theorem handed_or_ended (there : world.tasks[task]? = some ⟨actor, .request site request, .fresh⟩)
    (exchanges : request.Exchanges) :
    (∃ answer, (⟨task, site, request, answer⟩ : Handed) ∈ world.handovers (.resume task)) ∨
      world.handovers (.resume task) = [] ∧
        ((world.resume task).outcome? task = some .broken ∨
          (world.resume task).outcome? task = some (.returned (.error .unavailable))) := by
  have none_of (nothing : ∀ place, world.sites[site]? = some place →
      place.answer? world.script request = none) : world.handovers (.resume task) = [] := by
    refine List.eq_nil_iff_forall_not_mem.mpr fun entry brought => ?_
    obtain ⟨same, ⟨owner, stands⟩, place, here, gives⟩ := mem_handovers.mp brought
    obtain rfl := Move.resume.inj same
    obtain ⟨rfl, rfl⟩ := Purpose.request.inj
      (Task.mk.inj (Option.some.inj (there.symm.trans stands))).2.1
    exact absurd ((nothing place here).symm.trans gives) (by simp)
  cases here : world.sites[site]? with
  | none =>
    refine .inr ⟨none_of fun place at_site => ?_, .inl ?_⟩
    · rw [here] at at_site
      simp at at_site
    · have absent : ({ world with ready := world.ready.erase task } : World).sites[site]? = none :=
        here
      have mine : ({ world with ready := world.ready.erase task } : World).tasks[task]? =
        some ⟨actor, .request site request, .fresh⟩ := there
      rw [resume_eq there]
      simp only [proceed, World.start, absent]
      exact outcome?_conclude mine none [] .broken
  | some place =>
    obtain ⟨component, errand, needs, asks, -⟩ := exists_errand_of_exchanges exchanges
    cases held : place.gateway.holds component with
    | true =>
      obtain ⟨answer, gives⟩ := exists_answer?_of_held exchanges needs held world.script
      exact .inl ⟨answer, mem_handovers.mpr ⟨rfl, ⟨actor, there⟩, place, here, gives⟩⟩
    | false =>
      refine .inr ⟨none_of fun other at_site => ?_, .inr ?_⟩
      · obtain rfl := Option.some.inj (here.symm.trans at_site)
        exact answer?_of_gone needs held world.script
      · obtain ⟨left, same, mine, -⟩ := resume_refused there rfl rfl needs here held
        rw [same]
        exact outcome?_conclude mine none [] _

/-- A request that is exchanged and is resumed has run. -/
theorem ran_exchange (opened : start.Opened) (reaches : start.Reaches world)
    (there : world.tasks[task]? = some ⟨actor, .request site request, .fresh⟩)
    (exchanges : request.Exchanges) : (world.apply (.resume task)).Ran task := by
  obtain ⟨answer, brought⟩ | ⟨-, ended⟩ := handed_or_ended there exchanges
  · obtain ⟨⟨⟨owner, stage, here, allows⟩, -⟩, -⟩ := settled_of_mem_handovers opened reaches brought
    exact ⟨_, here, allows.ran⟩
  · obtain ⟨outcome, ended⟩ : ∃ outcome, (world.resume task).outcome? task = some outcome :=
      ended.elim (⟨_, ·⟩) (⟨_, ·⟩)
    obtain ⟨found, here, stage⟩ := outcome?_eq_some_iff.mp ended
    exact ⟨found, here, by simp [stage]⟩

/-- A request that was handed over in a run was so in its first step. -/
theorem mem_handovers_of_enters (opened : start.Opened) (played : start.play? moves = some last)
    {before : World} (exchanges : request.Exchanges)
    (enters : Enters start moves entry.task (.request site request) before)
    (member : entry ∈ start.handed moves) : entry ∈ before.handovers (.resume entry.task) := by
  induction moves, last, played using run_induction with
  | nil => exact absurd member List.not_mem_nil
  | concat moves world move first _ ih =>
    obtain ⟨makes, actor, there⟩ := enters
    rw [handed, chronicle_concat handovers first move, List.mem_append] at member
    obtain ⟨rfl, rfl⟩ | makes := makes.of_concat first
    · obtain earlier | now := member
      · obtain ⟨⟨owner, stage, ran, allows⟩, -⟩ := settled_of_mem_handed opened first earlier
        rw [there] at ran
        exact absurd (Task.mk.inj (Option.some.inj ran)).2.2.symm allows.ran
      · exact now
    · obtain earlier | now := member
      · exact ih ⟨makes, actor, there⟩ earlier
      · -- the request has run since, so it cannot make its first step again
        obtain ⟨reaches, free, onward⟩ := makes.free first
        have sound : before.Sound := opened.sound.reaches reaches
        have ran : world.Ran entry.task :=
          (sound.apply free).keeps (P := fun world => world.Ran entry.task)
            (fun _ move sound _ ran => ran.apply sound move)
            (ran_exchange opened reaches there exchanges) onward
        obtain ⟨-, ⟨owner, fresh⟩, -⟩ := mem_handovers.mp now
        obtain ⟨found, here, aged⟩ := ran
        obtain rfl := Option.some.inj (fresh.symm.trans here)
        exact absurd rfl aged

/-- What has become of the requests to produce and to consume in a run. -/
structure Exchanged (start last : World) (moves : List Move) : Prop where
  /-- A component has received what was handed over, in that order, and nothing else. -/
  received : ∀ site component, component ≠ .admin →
    last.errands site component = asked (start.handed moves) site component
  once : ((start.handed moves).map Handed.task).Nodup
  /-- A request is handed over if it finds the component that it needs in its first step. -/
  checked : ∀ task site request before component,
    Enters start moves task (.request site request) before → request.Exchanges →
      request.needs? = some component →
        (¬ before.Lacks site component ↔ ∃ answer, ⟨task, site, request, answer⟩ ∈ start.handed moves)
  /-- What is answered to a request is what its component answers in that step. -/
  answered : ∀ entry ∈ start.handed moves, ∃ before place,
    Enters start moves entry.task (.request entry.site entry.request) before ∧
      before.sites[entry.site]? = some place ∧
        place.answer? before.script entry.request = some entry.answer
  /-- A request that has returned was handed over and returns its own answer, or was refused. -/
  returned : ∀ task actor site request result, request.Exchanges →
    last.tasks[task]? = some ⟨actor, .request site request, .ended (.returned result)⟩ →
      (∃ answer, ⟨task, site, request, answer⟩ ∈ start.handed moves ∧
        result = request.result answer) ∨
      (∀ entry ∈ start.handed moves, entry.task ≠ task) ∧ result = .error .unavailable
  /-- A request that does not wait returns as soon as it is handed over. -/
  submitted : ∀ task site submission before,
    Enters start moves task (.request site (.submit submission)) before →
      ¬ before.Lacks site .producer →
        (before.resume task).outcome? task = some (.returned (.ok .done))

/-- In every run, whatever the requests that are outstanding together, and in whatever order and
after whatever time they are answered: each request that finds its component is handed over
once, the components receive these requests in that order, and each request that returns gives
back its own answer. -/
theorem requests_exchanged (opened : start.Opened) (played : start.play? moves = some last) :
    Exchanged start last moves where
  received := fun site component plain => errands_handovers opened played site plain
  once := nodup_handed opened played
  checked := by
    intro task site request before component enters exchanges needs
    obtain ⟨makes, actor, there⟩ := enters
    constructor
    · intro held
      obtain ⟨place, here, holds⟩ := exists_site_of_not_lacks held
      obtain ⟨answer, gives⟩ := exists_answer?_of_held exchanges needs holds before.script
      have brought : (⟨task, site, request, answer⟩ : Handed) ∈ before.handovers (.resume task) :=
        mem_handovers.mpr ⟨rfl, ⟨actor, there⟩, place, here, gives⟩
      exact ⟨answer, (mem_chronicle played).mpr ⟨_, before, makes, brought⟩⟩
    · rintro ⟨answer, member⟩ lacks
      have brought : (⟨task, site, request, answer⟩ : Handed) ∈ before.handovers (.resume task) :=
        mem_handovers_of_enters opened played exchanges ⟨makes, actor, there⟩ member
      obtain ⟨-, -, place, here, gives⟩ := mem_handovers.mp brought
      have gone := answer?_of_gone needs ((lacks_iff here).mp lacks) before.script
      exact absurd (gone.symm.trans gives) (by simp)
  answered := by
    intro entry member
    obtain ⟨move, before, makes, brought⟩ := (mem_chronicle played).mp member
    obtain ⟨rfl, there, place, here, gives⟩ := mem_handovers.mp brought
    exact ⟨before, place, ⟨makes, there⟩, here, gives⟩
  returned := by
    intro task actor site request result exchanges there
    have told : last.outcome? task = some (.returned result) :=
      outcome?_eq_some_iff.mpr ⟨_, there, rfl⟩
    obtain ⟨before, enters⟩ | cancelled := enters_or_cancelled opened played there (by simp)
    · obtain ⟨makes, owner, stands⟩ := enters
      obtain ⟨reaches, free, onward⟩ := makes.free played
      have sound : before.Sound := opened.sound.reaches reaches
      obtain ⟨answer, brought⟩ | ⟨nothing, ended⟩ := handed_or_ended stands exchanges
      · have member : (⟨task, site, request, answer⟩ : Handed) ∈ start.handed moves :=
          (mem_chronicle played).mpr ⟨_, before, makes, brought⟩
        exact .inl ⟨answer, member, result_of_mem_handed opened played member told⟩
      · refine .inr ⟨?_, ?_⟩
        · rintro entry member rfl
          have brought := mem_handovers_of_enters opened played exchanges
            ⟨makes, owner, stands⟩ member
          rw [nothing] at brought
          exact absurd brought List.not_mem_nil
        · obtain ended | ended := ended
          · have broken := (sound.apply free).outcome?_reaches onward ended
            exact absurd (broken.symm.trans told) (by simp)
          · have refused := (sound.apply free).outcome?_reaches onward ended
            simpa using told.symm.trans refused
    · exact absurd (cancelled.symm.trans told) (by simp)
  submitted := by
    intro task site submission before enters held
    obtain ⟨makes, actor, there⟩ := enters
    obtain ⟨place, here, holds⟩ := exists_site_of_not_lacks held
    obtain ⟨reaches, -⟩ := makes.free played
    have exchanges : Request.Exchanges (.submit submission) := trivial
    obtain ⟨answer, gives⟩ := exists_answer?_of_held exchanges rfl holds before.script
    have brought : (⟨task, site, .submit submission, answer⟩ : Handed) ∈
        before.handovers (.resume task) :=
      mem_handovers.mpr ⟨rfl, ⟨actor, there⟩, place, here, gives⟩
    exact (settled_of_mem_handovers opened reaches brought).2 submission rfl

/-- A cluster that takes longer over the first message of a topic than over the second, which it
rejects. -/
def unevenScript : BrokerScript :=
  { topics := [("t",
      { turns := [⟨.confirm ⟨"t", 3, 7, none, [97]⟩, 10⟩, ⟨.reject .requestTimeout, 5⟩] })] }

/-- One gateway before the uneven cluster. -/
def unevenGateway : World :=
  (openGateway { script := unevenScript } (.root "test") "default" {}).1

/-- The gateway before the uneven cluster was opened. -/
theorem opened_unevenGateway : unevenGateway.Opened := by
  have opens : openGateway { script := unevenScript } (.root "test") "default" {} =
      (unevenGateway, .ok 0) := rfl
  exact .gateway (.empty unevenScript) opens

/-- Two messages are produced side by side, and the second is answered first. Then a request to
consume is dropped. -/
def crossing : List Move :=
  [.request 0 (.produce ⟨"t", none, [97]⟩), .request 0 (.produce ⟨"t", none, [98]⟩), .resume 0,
    .resume 1, .resume 2, .resume 3, .pass 5, .resume 3, .resume 1, .pass 10, .resume 2, .resume 0,
    .enqueue 0 "g" "t" [⟨.drop, 0⟩], .request 0 (.consume "g" "t" .none), .resume 4]

/-- Each of the three requests returns its own answer. -/
theorem requests_exchanged_crossing : ∃ last, unevenGateway.Opened ∧
    unevenGateway.play? crossing = some last ∧ Exchanged unevenGateway last crossing ∧
    last.errands 0 .producer = [.send ⟨"t", none, [97]⟩, .send ⟨"t", none, [98]⟩] ∧
    last.errands 0 .consumer = [.fetch "g" "t"] ∧
    last.outcome? 0 = some (.returned (.ok (.receipt ⟨"t", 3, 7, none, [97]⟩))) ∧
    last.outcome? 1 = some (.returned (.error .requestTimeout)) ∧
    last.outcome? 4 =
      some (.returned (.error (.internal "consumer dropped consume request"))) := by
  have runs : (unevenGateway.play? crossing).map (fun last =>
      (last.outcome? 0, last.outcome? 1, last.outcome? 4)) =
        some (some (.returned (.ok (.receipt ⟨"t", 3, 7, none, [97]⟩))),
          some (.returned (.error .requestTimeout)),
          some (.returned (.error (.internal "consumer dropped consume request")))) := rfl
  obtain ⟨last, played, same⟩ := Option.map_eq_some_iff.mp runs
  simp only [Prod.mk.injEq] at same
  have exchanged := requests_exchanged opened_unevenGateway played
  have sent : asked (unevenGateway.handed crossing) 0 .producer =
      [.send ⟨"t", none, [97]⟩, .send ⟨"t", none, [98]⟩] := by decide +kernel
  have fetched : asked (unevenGateway.handed crossing) 0 .consumer = [.fetch "g" "t"] := by
    decide +kernel
  exact ⟨last, opened_unevenGateway, played, exchanged,
    (exchanged.received 0 .producer (by decide)).trans sent,
    (exchanged.received 0 .consumer (by decide)).trans fetched, same⟩

end World

end ClusterGateway
