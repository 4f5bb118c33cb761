import ClusterGateway.Proofs.Delivery.Standalone
import ClusterGateway.Proofs.Serving.Calls
import ClusterGateway.Proofs.Serving.Handing

/-!
# Requests that are refused

A request that finds its component gone is refused in its first step: it has asked for
nothing and changed no gateway and no session. It has started no task either, unless it is a
consume request with an explicit acknowledgement for which a session is recorded. That one
is handed to a task of its own all the same, and can be accepted long after the refusal.
Main statements: `refusal`, `refused_consume_acknowledges`.
-/

namespace ClusterGateway.World

variable {start world before last left : World} {me task : TaskId} {found : Task}
  {site : SiteId} {place : Site} {request : Request} {component : Component}
  {moves : List Move}

/-- A request carries an explicit acknowledgement for which a session is recorded. -/
def EntrustsAck (world : World) (site : SiteId) (request : Request) : Prop :=
  ∃ group topic partition offset number,
    request = .consume group topic (.explicit partition offset) ∧
      world.Routes site ⟨group, topic, partition⟩ number

/-- A request has had no effect besides its result: it has started no task in its first step,
no task helps it, and no session has accepted anything from it. -/
structure Effectless (before last : World) (task : TaskId) : Prop where
  started : (before.resume task).tasks.length = before.tasks.length
  unaided : last.Unaided task
  unsent : ∀ site number, last.sentBy task site number = []

/-- What becomes of a request that finds the component gone that it needs. -/
structure Refused (before last : World) (task : TaskId) (site : SiteId) (request : Request)
    (component : Component) : Prop where
  lacks : before.Lacks site component
  sites : (before.resume task).sites = before.sites
  ended : (before.resume task).outcome? task = some (.returned (.error .unavailable))
  effectless : Effectless before last task ↔ ¬ before.EntrustsAck site request

/-- A request was handed to the component that it needs, which the gateway held. -/
structure HandedOver (before : World) (task : TaskId) (site : SiteId) (request : Request)
    (component : Component) : Prop where
  held : ¬ before.Lacks site component
  takes : ∃ errand, request.errand? = some errand ∧
    before.Takes (before.resume task) site component errand

/-- A request that ends gets no helper by it. -/
theorem Unaided.conclude (unaided : world.Unaided task) (me : TaskId)
    (result : Except Error Reply) : (world.conclude me result).Unaided task := by
  intro child helper there
  rw [World.conclude, getElem?_finish] at there
  split at there
  · obtain ⟨earlier, here, rfl⟩ := Option.map_eq_some_iff.mp there
    exact unaided child earlier here
  · exact unaided child helper there

/-- Handing an acknowledgement on starts a task that helps, if a session is recorded, and
nothing otherwise. -/
theorem helper_beginBackgroundAck (world : World) (me : TaskId) (site : SiteId) (place : Site)
    (actor : Option String) (key : RoutingKey) (offset : Int64) :
    (∃ number, place.gateway.routes.get? key = some number ∧ ∃ helper : Task,
      (world.beginBackgroundAck me site place actor key offset).tasks = world.tasks ++ [helper] ∧
        helper.purpose.helps? = some me) ∨
    place.gateway.routes.get? key = none ∧
      (world.beginBackgroundAck me site place actor key offset).tasks = world.tasks := by
  unfold beginBackgroundAck
  cases routed : place.gateway.routes.get? key with
  | none => exact .inr ⟨rfl, rfl⟩
  | some number => exact .inl ⟨number, rfl, _, rfl, rfl⟩

/-- A request that finds the component gone starts a task exactly if it has an acknowledgement to
hand on. -/
theorem tasks_refused (there : world.tasks[task]? = some found) (fresh : found.stage = .fresh)
    (asks : found.purpose = .request site request) (needs : request.needs? = some component)
    (here : world.sites[site]? = some place) (gone : place.gateway.holds component = false) :
    (world.EntrustsAck site request ∧ ∃ (child : TaskId) (helper : Task),
      (world.resume task).tasks[child]? = some helper ∧ helper.purpose.helps? = some task) ∨
    ¬ world.EntrustsAck site request ∧ (world.resume task).tasks.length = world.tasks.length ∧
      (world.Unaided task → (world.resume task).Unaided task) := by
  obtain ⟨left, same, mine, -, ⟨plain, rfl⟩ | ⟨group, topic, partition, offset, rfl, handed⟩⟩ :=
    resume_refused there fresh asks needs here gone
  · right
    rw [same]
    refine ⟨?_, by simp [conclude, finish, setStage], fun unaided => ?_⟩
    · rintro ⟨group, topic, partition, offset, number, rfl, -⟩
      exact plain group topic partition offset rfl
    · exact Unaided.conclude unaided task _
  obtain ⟨number, routed, helper, started, helps⟩ | ⟨unrouted, started⟩ :=
    helper_beginBackgroundAck { world with ready := world.ready.erase task } task site place
      found.actor ⟨group, topic, partition⟩ offset
  · left
    refine ⟨⟨group, topic, partition, offset, number, rfl, place, here, routed⟩,
      world.tasks.length, helper, ?_, helps⟩
    have differ : task ≠ world.tasks.length :=
      Nat.ne_of_lt (List.getElem?_eq_some_iff.mp there).1
    rw [same, conclude, getElem?_finish, if_neg differ, handed, started]
    exact List.getElem?_concat_length
  · right
    have tasks : left.tasks = world.tasks := by
      rw [handed]
      exact started
    rw [same]
    refine ⟨?_, by simp [conclude, finish, setStage, tasks], fun unaided => ?_⟩
    · rintro ⟨group', topic', partition', offset', number, alike, found_place, at_place, routed⟩
      obtain ⟨rfl, rfl, rfl, rfl⟩ : group = group' ∧ topic = topic' ∧ partition = partition' ∧
          offset = offset' := by simpa using alike
      obtain rfl := Option.some.inj (here.symm.trans at_place)
      exact absurd (unrouted.symm.trans routed) (by simp)
    · refine Unaided.conclude ?_ task _
      unfold Unaided
      rw [tasks]
      exact unaided

/-- A request that finds the component gone is refused, and has no effect unless it has an
acknowledgement to hand on. -/
theorem refused_of_gone (opened : start.Opened) (reaches : start.Reaches before)
    (free : before.isOpen (.resume task) = true) (there : before.tasks[task]? = some found)
    (fresh : found.stage = .fresh) (asks : found.purpose = .request site request)
    (needs : request.needs? = some component) (here : before.sites[site]? = some place)
    (gone : place.gateway.holds component = false) (onward : (before.resume task).Reaches last) :
    Refused before last task site request component := by
  have waits : before.Waits := opened.waits.reaches reaches
  have after : (before.resume task).Waits := waits.apply free
  obtain ⟨left, same, mine, sites, -⟩ := resume_refused there fresh asks needs here gone
  have same_sites : (before.resume task).sites = before.sites := by
    rw [same]
    exact sites
  have ended : (before.resume task).outcome? task = some (.returned (.error .unavailable)) := by
    rw [same]
    exact outcome?_conclude mine none [] _
  refine ⟨(lacks_iff here).mpr gone, same_sites, ended, ?_⟩
  obtain ⟨entrusts, child, helper, started, helps⟩ | ⟨plain, started, unaided⟩ :=
    tasks_refused there fresh asks needs here gone
  · refine iff_of_false (fun effectless => ?_) (fun plain => plain entrusts)
    obtain ⟨stage, later⟩ := after.sound.purpose_reaches onward started
    exact effectless.unaided child _ later helps
  · refine iff_of_true ⟨started, ?_, fun place number => ?_⟩ plain
    · exact (unaided (opened.unaided reaches there fresh)).reaches after.sound ended onward
    · rw [after.sentBy_reaches onward ended place number]
      have unsent := opened.unsent reaches task place number
        (outcome?_of_alive there fun outcome => by simp [fresh])
      unfold sentBy accepted session? at unsent ⊢
      rw [same_sites]
      exact unsent

/-- A standalone acknowledgement that finds the consumer there is not refused later. -/
theorem not_unavailable_acknowledge (opened : start.Opened) (reaches : start.Reaches before)
    (free : before.isOpen (.resume task) = true) (there : before.tasks[task]? = some found)
    (fresh : found.stage = .fresh) {group topic : String} {ack : Ack}
    (asks : found.purpose = .request site (.acknowledge group topic ack))
    (here : before.sites[site]? = some place) (held : place.gateway.holds .consumer = true)
    (onward : (before.resume task).Reaches last) :
    last.outcome? task ≠ some (.returned (.error .unavailable)) := by
  intro unavailable
  have waits : before.Waits := opened.waits.reaches reaches
  have unsent : before.Unsent := opened.unsent reaches
  have alive (outcome : Outcome) : found.stage ≠ .ended outcome := by simp [fresh]
  have begins := resume_acknowledge there fresh asks here
  have refused (other : ∃ error, before.resume task = ({ before with
      ready := before.ready.erase task } : World).conclude task (.error error) ∧
        error ≠ .unavailable) : False := by
    obtain ⟨error, fails, differ⟩ := other
    have ended := (fails_of_refused waits unsent free there alive fails onward).ended
    simp [ended, differ] at unavailable
  simp only [beginAcknowledge, held, if_true] at begins
  cases ack with
  | none => exact refused ⟨_, begins, by simp⟩
  | auto => exact refused ⟨_, begins, by simp⟩
  | explicit partition offset =>
    cases routed : place.gateway.routes.get? ⟨group, topic, partition⟩ with
    | none =>
      simp only [routed] at begins
      exact refused ⟨_, begins, by simp⟩
    | some number =>
      obtain ⟨later, played⟩ := onward
      obtain awaits | ⟨early, late, world, result, -, -, decided⟩ | ⟨-, cancelled, -⟩ :=
        course_of_routed opened reaches free there fresh asks here held routed rfl played
      · exact absurd ((dispatch?_of_outcome? unavailable).symm.trans awaits.pending) (by simp)
      · have same := Option.some.inj (decided.ended.symm.trans unavailable)
        cases result <;> simp [acknowledgeResult] at same
      · exact absurd (cancelled.symm.trans unavailable) (by simp)

/-- A request that finds the component there, and returns that it is unavailable, was handed to
it. -/
theorem handedOver_of_held (opened : start.Opened) (reaches : start.Reaches before)
    (free : before.isOpen (.resume task) = true) (there : before.tasks[task]? = some found)
    (fresh : found.stage = .fresh) (asks : found.purpose = .request site request)
    (needs : request.needs? = some component) (here : before.sites[site]? = some place)
    (holds : place.gateway.holds component = true) (onward : (before.resume task).Reaches last)
    (unavailable : last.outcome? task = some (.returned (.error .unavailable))) :
    HandedOver before task site request component := by
  have held : ¬ before.Lacks site component := by simp [lacks_iff here, holds]
  cases errand_eq : request.errand? with
  | none =>
    cases request with
    | acknowledge group topic ack =>
      obtain rfl := Option.some.inj needs
      exact absurd unavailable
        (not_unavailable_acknowledge opened reaches free there fresh asks here holds onward)
    | stop => simp [Request.needs?] at needs
    | query => simp [Request.needs?] at needs
    | _ => simp [Request.errand?] at errand_eq
  | some errand =>
    obtain ⟨needed, asked, needs', asked_eq, hands⟩ := hands_resume there fresh asks here errand_eq
    obtain rfl := Option.some.inj (needs.symm.trans needs')
    obtain ⟨lacks, -⟩ | ⟨-, takes⟩ := hands
    · exact absurd lacks held
    · exact ⟨held, asked, asked_eq, takes⟩

/-- In a run, whatever request has returned that its component is unavailable had found it gone
in its first step, or had been handed to it and passes on its answer. If it had found it gone,
it has not changed any gateway, cluster or session, and has no other effect exactly if it is
not a consume request with an explicit acknowledgement for which a session is recorded. -/
theorem refusal (opened : start.Opened) (played : start.play? moves = some last)
    (there : last.tasks[task]? = some found) (asks : found.purpose = .request site request)
    (needs : request.needs? = some component)
    (unavailable : last.outcome? task = some (.returned (.error .unavailable))) :
    ∃ before, Enters start moves task (.request site request) before ∧
      (Refused before last task site request component ∨
        HandedOver before task site request component) := by
  obtain ⟨same, here, stage⟩ := outcome?_eq_some_iff.mp unavailable
  obtain rfl := Option.some.inj (there.symm.trans here)
  obtain ⟨before, enters⟩ | cancelled :=
    enters_or_cancelled opened played there (by simp [stage])
  · rw [asks] at enters
    refine ⟨before, enters, ?_⟩
    obtain ⟨makes, actor, mine⟩ := enters
    obtain ⟨reaches, free, onward⟩ := makes.free played
    cases at_site : before.sites[site]? with
    | none =>
      -- a request to a gateway that is not there breaks down
      have broken : (before.resume task).outcome? task = some .broken := by
        rw [resume_eq mine]
        simp only [proceed, World.start, at_site]
        exact outcome?_conclude mine none [] .broken
      have sound : (before.resume task).Sound := (opened.sound.reaches reaches).apply free
      exact absurd ((sound.outcome?_reaches onward broken).symm.trans unavailable) (by simp)
    | some place =>
      cases holds : place.gateway.holds component with
      | false =>
        exact .inl (refused_of_gone opened reaches free mine rfl rfl needs at_site holds onward)
      | true =>
        exact .inr (handedOver_of_held opened reaches free mine rfl rfl needs at_site holds onward
          unavailable)
  · exact absurd (cancelled.symm.trans unavailable) (by simp)

/-- A message is fetched, and then the gateway is shut down. -/
def fetchThenStop : List Move :=
  [.enqueue 0 "g" "t" [⟨.message none 0 0 1 none [97], 0⟩],
    .request 0 (.consume "g" "t" .none), .resume 0,
    .request 0 .stop, .resume 1, .resume 2, .resume 3, .resume 4, .resume 1]

/-- A standalone acknowledgement of that message is refused, and has no effect. -/
theorem refusal_acknowledge : ∃ before last,
    narrowGateway.play? (fetchThenStop ++
      [.request 0 (.acknowledge "g" "t" (.explicit 0 0)), .resume 5]) = some last ∧
    Refused before last 5 0 (.acknowledge "g" "t" (.explicit 0 0)) .consumer ∧
    Effectless before last 5 := by
  have ends : (narrowGateway.play? (fetchThenStop ++
      [.request 0 (.acknowledge "g" "t" (.explicit 0 0)), .resume 5])).bind (·.tasks[5]?) =
        some ⟨none, .request 0 (.acknowledge "g" "t" (.explicit 0 0)),
          .ended (.returned (.error .unavailable))⟩ := rfl
  obtain ⟨last, played, there⟩ := Option.bind_eq_some_iff.mp ends
  have unavailable : last.outcome? 5 = some (.returned (.error .unavailable)) :=
    outcome?_eq_some_iff.mpr ⟨_, there, rfl⟩
  obtain ⟨before, -, refused | ⟨-, errand, asked, -⟩⟩ :=
    refusal opened_narrowGateway played there rfl rfl unavailable
  · refine ⟨before, last, played, refused, refused.effectless.mpr ?_⟩
    rintro ⟨group, topic, partition, offset, number, same, -⟩
    simp at same
  · simp [Request.errand?] at asked

/-- A consume request that carries the same acknowledgement is refused, too, and yet has the
session accept it afterwards. -/
theorem refused_consume_acknowledges : ∃ start moves last, Opened start ∧
    start.play? moves = some last ∧
    (∃ actor stage, last.tasks[5]? =
      some ⟨actor, .request 0 (.consume "g" "t" (.explicit 0 0)), stage⟩) ∧
    last.outcome? 5 = some (.returned (.error .unavailable)) ∧
    (∃ helper : Task, last.tasks[6]? = some helper ∧ helper.purpose.helps? = some 5) ∧
    last.sentBy 6 0 0 = [⟨some 6, 0⟩] := by
  have ends : (narrowGateway.play? (fetchThenStop ++
      [.request 0 (.consume "g" "t" (.explicit 0 0)), .resume 5, .resume 6])).map (fun last =>
        (last.tasks[5]?, (last.tasks[6]?).map (·.purpose.helps?), last.sentBy 6 0 0)) =
      some (some ⟨none, .request 0 (.consume "g" "t" (.explicit 0 0)),
        .ended (.returned (.error .unavailable))⟩, some (some 5), [⟨some 6, 0⟩]) := rfl
  obtain ⟨last, played, same⟩ := Option.map_eq_some_iff.mp ends
  simp only [Prod.mk.injEq, Option.map_eq_some_iff] at same
  obtain ⟨there, helper, sent⟩ := same
  exact ⟨narrowGateway, _, last, opened_narrowGateway, played, ⟨_, _, there⟩,
    outcome?_eq_some_iff.mpr ⟨_, there, rfl⟩, helper, sent⟩

end ClusterGateway.World
