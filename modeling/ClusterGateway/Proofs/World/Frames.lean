import ClusterGateway.Proofs.World.Fields
import ClusterGateway.Proofs.World.Lanes
import ClusterGateway.Proofs.World.Strokes

/-!
# What strokes leave alone

Each statement is proved of one stroke, by the kind of the stroke, and holds of all the
strokes of a step by `Strokes.keeps`: the clock and the script stay, ready tasks stay
ready, timers of other tasks stay set, tasks keep what they are for, and the components
and stop records of a gateway are changed only by the tasks that shut it down.
-/

namespace ClusterGateway

/-- Waiting for the same kind of answer is transitive. -/
theorem Stage.AwaitsAlike.trans {first middle last : Stage} (before : first.AwaitsAlike middle)
    (after : middle.AwaitsAlike last) : first.AwaitsAlike last := by
  cases first <;> cases middle <;> cases last <;> simp_all [Stage.AwaitsAlike]

/-- Waiting for the same kind of answer is symmetric. -/
theorem Stage.AwaitsAlike.symm {first last : Stage} (alike : first.AwaitsAlike last) :
    last.AwaitsAlike first := by
  cases first <;> cases last <;> first | exact alike.elim | trivial

/-- A task that waits for an answer has run. -/
theorem Stage.AwaitsAlike.ran {first last : Stage} (alike : first.AwaitsAlike last) :
    last ≠ .fresh := by
  rintro rfl
  cases first <;> exact alike.elim

/-- A task may wait for an answer if it may wait for another of the same kind. -/
theorem Stage.Fits.alike {first last : Stage} {purpose : Purpose}
    (fits : first.Fits purpose) (alike : first.AwaitsAlike last) : last.Fits purpose := by
  cases first <;> cases last <;> simp only [Stage.AwaitsAlike] at alike
  · cases purpose with
    | request site request => cases request <;> simp_all [Stage.Fits]
    | _ => simp [Stage.Fits] at fits
  · cases purpose with
    | request site request => cases request <;> simp_all [Stage.Fits]
    | _ => simp [Stage.Fits] at fits

/-- A task of a purpose tells another its answer, and where that one waits then. -/
def Purpose.Tells (purpose : Purpose) (target : TaskId) (stage : Stage) : Prop :=
  ∃ answer delay, purpose = .deliverAnswer target answer delay ∧ stage = .told answer

namespace World

variable {me : TaskId} {purpose : Purpose} {sends hands : Prop} {before after : World}

/-- The clock and the script stay. -/
theorem Stroke.clock (stroke : Stroke me purpose sends hands before after) :
    after.now = before.now ∧ after.script = before.script := by
  cases stroke with
  | wake other =>
    obtain ⟨ready, same⟩ := exists_wake before other
    rw [same]
    exact ⟨rfl, rfl⟩
  | tell target answer =>
    obtain same | ⟨found, -, -, same⟩ := tellAnswer_cases before target answer
    · rw [same]
      exact ⟨rfl, rfl⟩
    · obtain ⟨ready, woken⟩ := exists_wake (before.setStage target (.told answer)) target
      rw [same, woken]
      exact ⟨rfl, rfl⟩
  | setState site actor component state =>
    obtain ⟨-, same⟩ | ⟨entries, same⟩ := setState_cases before site actor component state
    · rw [same]
      exact ⟨rfl, rfl⟩
    · rw [same]
      exact ⟨rfl, rfl⟩
  | touch site session change =>
    obtain ⟨ready, same⟩ := exists_onSession before site session change
    rw [same]
    exact ⟨rfl, rfl⟩
  | _ => exact ⟨rfl, rfl⟩

/-- The clock stays while a task runs. -/
theorem Strokes.now_eq (strokes : Strokes me purpose sends hands before after) :
    after.now = before.now :=
  strokes.keeps (P := fun before after => after.now = before.now) (fun _ => rfl)
    (fun first second => second.trans first) fun stroke => stroke.clock.1

/-- The script stays while a task runs. -/
theorem Strokes.script_eq (strokes : Strokes me purpose sends hands before after) :
    after.script = before.script :=
  strokes.keeps (P := fun before after => after.script = before.script) (fun _ => rfl)
    (fun first second => second.trans first) fun stroke => stroke.clock.2

/-- Ready tasks stay ready. -/
theorem Stroke.mem_ready (stroke : Stroke me purpose sends hands before after) {other : TaskId}
    (ready : other ∈ before.ready) : other ∈ after.ready := by
  cases stroke with
  | wake woken => exact mem_ready_wake before woken ready
  | tell target answer =>
    obtain same | ⟨found, -, -, same⟩ := tellAnswer_cases before target answer
    · rw [same]
      exact ready
    · rw [same]
      exact mem_ready_wake (before.setStage target (.told answer)) target ready
  | setState site actor component state =>
    obtain ⟨-, same⟩ | ⟨entries, same⟩ := setState_cases before site actor component state
    · rw [same]
      exact ready
    · rw [same]
      exact ready
  | touch site session change =>
    obtain ⟨-, same⟩ | ⟨found, -, same⟩ := onSession_cases before site session change
    · rw [same]
      exact ready
    · rw [same]
      exact mem_ready_wakeAll _ ready
  | spawn => exact List.mem_append_left _ ready
  | handOn => exact List.mem_append_left _ ready
  | _ => exact ready

/-- Ready tasks stay ready while another task runs. -/
theorem Strokes.mem_ready (strokes : Strokes me purpose sends hands before after) {other : TaskId}
    (ready : other ∈ before.ready) : other ∈ after.ready :=
  strokes.keeps (P := fun before after => ∀ other ∈ before.ready, other ∈ after.ready)
    (fun _ _ ready => ready) (fun first second other ready => second other (first other ready))
    (fun stroke _ ready => stroke.mem_ready ready) other ready

/-- Timers of other tasks stay set. -/
theorem Stroke.mem_timers (stroke : Stroke me purpose sends hands before after) {timer : Timer}
    (foreign : timer.task ≠ me) (set : timer ∈ before.timers) : timer ∈ after.timers := by
  cases stroke with
  | wake other =>
    obtain ⟨ready, same⟩ := exists_wake before other
    rw [same]
    exact set
  | tell target answer =>
    obtain same | ⟨found, -, -, same⟩ := tellAnswer_cases before target answer
    · rw [same]
      exact set
    · obtain ⟨ready, woken⟩ := exists_wake (before.setStage target (.told answer)) target
      rw [same, woken]
      exact set
  | setState site actor component state =>
    obtain ⟨-, same⟩ | ⟨entries, same⟩ := setState_cases before site actor component state
    · rw [same]
      exact set
    · rw [same]
      exact set
  | touch site session change =>
    obtain ⟨ready, same⟩ := exists_onSession before site session change
    rw [same]
    exact set
  | setTimer due => exact List.mem_append_left _ set
  | finish outcome =>
    simp only [World.finish, List.mem_filter]
    exact ⟨set, by simpa using foreign⟩
  | _ => exact set

/-- Timers of other tasks stay set while a task runs. -/
theorem Strokes.mem_timers (strokes : Strokes me purpose sends hands before after) {timer : Timer}
    (foreign : timer.task ≠ me) (set : timer ∈ before.timers) : timer ∈ after.timers :=
  strokes.keeps
    (P := fun before after => ∀ timer ∈ before.timers, timer.task ≠ me → timer ∈ after.timers)
    (fun _ _ set _ => set)
    (fun first second timer set foreign => second timer (first timer set foreign) foreign)
    (fun stroke _ set foreign => stroke.mem_timers foreign set) timer set foreign

/-- The tasks after one stroke: the task that runs waits elsewhere, another one has got the
answer it waits for, or a task is new. -/
theorem Stroke.tasks_cases (stroke : Stroke me purpose sends hands before after) :
    after.tasks = before.tasks ∨
      (∃ stage : Stage, stage.Fits purpose ∧ stage ≠ .fresh ∧
        after.tasks = (before.setStage me stage).tasks) ∨
      (∃ target found stage, before.tasks[target]? = some found ∧
        found.stage.AwaitsAlike stage ∧ purpose.Tells target stage ∧
          after.tasks = (before.setStage target stage).tasks) ∨
      ∃ actor child, (purpose.Bears me child ∨ hands ∧ purpose.HandsOn me child) ∧
        after.tasks = (before.spawn actor child).1.tasks := by
  cases stroke with
  | wake other =>
    obtain ⟨ready, same⟩ := exists_wake before other
    rw [same]
    exact .inl rfl
  | setStage stage fits ran => exact .inr (.inl ⟨stage, fits, ran, rfl⟩)
  | finish outcome => exact .inr (.inl ⟨.ended outcome, trivial, nofun, rfl⟩)
  | spawn actor child bears => exact .inr (.inr (.inr ⟨actor, child, .inl bears, rfl⟩))
  | handOn actor child allowed handed =>
    exact .inr (.inr (.inr ⟨actor, child, .inr ⟨allowed, handed⟩, rfl⟩))
  | tell target answer delay tells =>
    obtain same | ⟨found, there, alike, same⟩ := tellAnswer_cases before target answer
    · rw [same]
      exact .inl rfl
    · obtain ⟨ready, woken⟩ := exists_wake (before.setStage target (.told answer)) target
      rw [same, woken]
      exact .inr (.inr (.inl ⟨target, found, _, there, alike, ⟨answer, delay, tells, rfl⟩, rfl⟩))
  | setState site actor component state =>
    obtain ⟨-, same⟩ | ⟨entries, same⟩ := setState_cases before site actor component state
    · rw [same]
      exact .inl rfl
    · rw [same]
      exact .inl rfl
  | touch site session change =>
    obtain ⟨ready, same⟩ := exists_onSession before site session change
    rw [same]
    exact .inl rfl
  | _ => exact .inl rfl

/-- What a step of the task `me` of a purpose does to the tasks: all stay what they are; the
task itself waits where its purpose allows it, others wait where they did, or have been told
the answer that they wait for; new tasks have not run. -/
structure TaskFrame (me : TaskId) (purpose : Purpose) (hands : Prop) (before after : World) :
    Prop where
  kept : ∀ other found, before.tasks[other]? = some found → ∃ stage,
    after.tasks[other]? = some { found with stage := stage } ∧
      (stage = found.stage ∨ found.stage.AwaitsAlike stage ∧ purpose.Tells other stage ∨
        other = me ∧ stage.Fits purpose ∧ stage ≠ .fresh)
  born : ∀ other found, before.tasks[other]? = none → after.tasks[other]? = some found →
    other ≠ me → found.stage = .fresh ∧
      (purpose.Bears me found.purpose ∨ hands ∧ purpose.HandsOn me found.purpose)

namespace TaskFrame

/-- Tasks that are the same. -/
theorem of_eq (same : after.tasks = before.tasks) : TaskFrame me purpose hands before after where
  kept := fun other found there => ⟨found.stage, by rw [same]; exact there, .inl rfl⟩
  born := fun other found absent there => by simp [same, absent] at there

/-- A task has been moved to another stage. -/
theorem of_setStage {target : TaskId} {stage : Stage}
    (moves : ∀ found, before.tasks[target]? = some found →
      found.stage.AwaitsAlike stage ∧ purpose.Tells target stage ∨
        target = me ∧ stage.Fits purpose ∧ stage ≠ .fresh)
    (same : after.tasks = (before.setStage target stage).tasks) :
    TaskFrame me purpose hands before after where
  kept := by
    intro other found there
    rw [same, getElem?_setStage]
    by_cases here : target = other
    · subst here
      exact ⟨stage, by simp [there], .inr (moves found there)⟩
    · exact ⟨found.stage, by simp [here, there], .inl rfl⟩
  born := by
    intro other found absent there
    rw [same, getElem?_setStage, absent] at there
    simp at there

/-- A task has been started. -/
theorem of_spawn {actor : Option String} {child : Purpose}
    (bears : purpose.Bears me child ∨ hands ∧ purpose.HandsOn me child)
    (same : after.tasks = (before.spawn actor child).1.tasks) :
    TaskFrame me purpose hands before after where
  kept := by
    intro other found there
    exact ⟨found.stage, by rw [same]; exact getElem?_spawn_of_some before there, .inl rfl⟩
  born := by
    intro other found absent there _
    rw [same] at there
    obtain ⟨-, rfl⟩ := getElem?_spawn_of_none before absent there
    exact ⟨rfl, bears⟩

/-- One step after the other. -/
theorem trans {middle : World} (first : TaskFrame me purpose hands before middle)
    (second : TaskFrame me purpose hands middle after) :
    TaskFrame me purpose hands before after where
  kept := by
    intro other found there
    obtain ⟨stage, between, early⟩ := first.kept other found there
    obtain ⟨last, settled, late⟩ := second.kept other _ between
    refine ⟨last, settled, ?_⟩
    rcases late with rfl | ⟨alike, told⟩ | mine
    · exact early
    · rcases early with rfl | ⟨before, -⟩ | ⟨rfl, fits, -⟩
      · exact .inr (.inl ⟨alike, told⟩)
      · exact .inr (.inl ⟨before.trans alike, told⟩)
      · exact .inr (.inr ⟨rfl, fits.alike alike, alike.ran⟩)
    · exact .inr (.inr mine)
  born := by
    intro other found absent there foreign
    cases between : middle.tasks[other]? with
    | none => exact second.born other found between there foreign
    | some early =>
      obtain ⟨fresh, bears⟩ := first.born other early absent between foreign
      obtain ⟨stage, later, moved⟩ := second.kept other early between
      obtain rfl : { early with stage := stage } = found :=
        Option.some.inj (later.symm.trans there)
      rcases moved with same | ⟨alike, -⟩ | ⟨mine, -⟩
      · exact ⟨same.trans fresh, bears⟩
      · rw [fresh] at alike
        exact alike.elim
      · exact absurd mine foreign

end TaskFrame

/-- What the strokes of a step do to the tasks. -/
theorem Strokes.taskFrame (strokes : Strokes me purpose sends hands before after) :
    TaskFrame me purpose hands before after := by
  refine strokes.keeps (P := TaskFrame me purpose hands) (fun _ => .of_eq rfl)
    (fun first second => first.trans second) ?_
  intro before after stroke
  obtain same | ⟨stage, fits, ran, same⟩ | ⟨target, found, stage, there, alike, tells, same⟩ |
    ⟨actor, child, bears, same⟩ := stroke.tasks_cases
  · exact .of_eq same
  · exact .of_setStage (fun _ _ => .inr ⟨rfl, fits, ran⟩) same
  · refine .of_setStage (fun other here => .inl ?_) same
    obtain rfl := Option.some.inj (there.symm.trans here)
    exact ⟨alike, tells⟩
  · exact .of_spawn bears same

end World

/-- The sessions of one cluster are those of another and new ones. -/
def Broker.Extends (script : BrokerScript) (before after : Broker) : Prop :=
  ∃ added, after.sessions = before.sessions ++ added ∧
    ∀ session ∈ added, session = .new script.sessionBuffer

namespace Broker

variable {script : BrokerScript} {before middle after : Broker}

/-- A cluster whose sessions are the same. -/
theorem Extends.of_eq (same : after.sessions = before.sessions) : before.Extends script after :=
  ⟨[], by simp [same], by simp⟩

/-- Sessions are added twice. -/
theorem Extends.trans (first : before.Extends script middle)
    (second : middle.Extends script after) : before.Extends script after := by
  obtain ⟨early, grown, fresh⟩ := first
  obtain ⟨late, further, new⟩ := second
  refine ⟨early ++ late, by rw [further, grown, List.append_assoc], ?_⟩
  intro session there
  rcases List.mem_append.mp there with old | young
  · exact fresh session old
  · exact new session young

/-- A submitted message leaves the sessions and the record of stops alone. -/
theorem submit_fields (script : BrokerScript) (broker : Broker) (submission : Submission) :
    (broker.submit script submission).1.sessions = broker.sessions ∧
      (broker.submit script submission).1.stops = broker.stops := by
  obtain ⟨nextOffset, same⟩ := broker.exists_submit script submission
  rw [same]
  exact ⟨rfl, rfl⟩

/-- Looking for the session of a partition adds one session at most. -/
theorem currentSession_fields (broker : Broker) (key : RoutingKey) :
    broker.Extends script (broker.currentSession script key).1 ∧
      (broker.currentSession script key).1.stops = broker.stops := by
  unfold currentSession
  dsimp only
  split
  · exact ⟨.of_eq rfl, rfl⟩
  · exact ⟨⟨[.new script.sessionBuffer], rfl, by simp⟩, rfl⟩

/-- A delivery adds one session at most. -/
theorem deliver_fields (broker : Broker) (group topic : String) (delivery : Delivery) :
    broker.Extends script (broker.deliver script group topic delivery).1 ∧
      (broker.deliver script group topic delivery).1.stops = broker.stops := by
  cases delivery with
  | drop => exact ⟨.of_eq rfl, rfl⟩
  | failure error => exact ⟨.of_eq rfl, rfl⟩
  | message given partition offset highWaterMark key value =>
    exact currentSession_fields broker ⟨group, topic, partition⟩

/-- A request of a consumer adds one session at most. -/
theorem fetch_fields (broker : Broker) (group topic : String) :
    broker.Extends script (broker.fetch script group topic).1 ∧
      (broker.fetch script group topic).1.stops = broker.stops := by
  unfold fetch
  dsimp only
  split
  · exact ⟨.of_eq rfl, rfl⟩
  · rename_i item rest _
    exact deliver_fields { broker with
      requests := broker.requests ++ [(group, topic)]
      queues := assign (group, topic) rest broker.queues } group topic item.delivery

/-- An answered call leaves the sessions and the record of stops alone. -/
theorem answer_fields (script : BrokerScript) (broker : Broker) (call : AdminCall) :
    (broker.answer script call).1.sessions = broker.sessions ∧
      (broker.answer script call).1.stops = broker.stops := by
  unfold answer
  split
  · exact ⟨rfl, rfl⟩
  · cases call with
    | groupOffsets => dsimp only; split <;> exact ⟨rfl, rfl⟩
    | topicMetadata => dsimp only; split <;> exact ⟨rfl, rfl⟩
    | _ => exact ⟨rfl, rfl⟩

/-- A request adds sessions at most, and stops nothing. -/
theorem Serves.fields {request : Request} (serves : before.Serves script request after) :
    before.Extends script after ∧ after.stops = before.stops := by
  cases serves with
  | produce submission =>
    obtain ⟨sessions, stops⟩ := submit_fields script before submission
    exact ⟨.of_eq sessions, stops⟩
  | submit submission =>
    obtain ⟨sessions, stops⟩ := submit_fields script before submission
    exact ⟨.of_eq sessions, stops⟩
  | consume group topic ack => exact before.fetch_fields group topic
  | record call => exact ⟨.of_eq rfl, rfl⟩
  | answer call =>
    obtain ⟨sessions, stops⟩ := answer_fields script before call
    exact ⟨.of_eq sessions, stops⟩

end Broker

/-- A request leaves the lanes alone, or adds a session to one. -/
theorem Broker.Serves.widens {script : BrokerScript} {before after : Broker} {request : Request}
    (serves : before.Serves script request after) : before.Widens after := by
  cases serves with
  | produce submission => exact widens_submit script before submission
  | submit submission => exact widens_submit script before submission
  | consume group topic ack => exact (widens_fetch script before group topic).1
  | record call => exact .of_eq rfl rfl
  | answer call => exact widens_answer script before call

/-- What a step of a task of a purpose does to a gateway and the cluster behind it: the name
and the configuration stay, components are taken and stopped only by those who shut the
gateway down, sessions that are there change only where the step sends and stay in their
lanes, and only consume requests record sessions. -/
structure SiteFrame (script : BrokerScript) (purpose : Purpose) (sends : Prop) (site : SiteId)
    (before after : Site) : Prop where
  task : after.gateway.task = before.gateway.task
  config : after.gateway.config = before.gateway.config
  holds : site ∉ purpose.tearsDown → after.gateway.holds = before.gateway.holds
  stops : site ∉ purpose.tearsDown → after.broker.stops = before.broker.stops
  quiet : ¬ sends → before.broker.Extends script after.broker
  lanes : before.broker.Widens after.broker
  routes : (∀ group topic ack, purpose ≠ .request site (.consume group topic ack)) →
    after.gateway.routes = before.gateway.routes

namespace SiteFrame

variable {script : BrokerScript} {purpose : Purpose} {sends hands : Prop} {site : SiteId}

/-- Nothing happens to a gateway. -/
theorem refl (found : Site) : SiteFrame script purpose sends site found found :=
  ⟨rfl, rfl, fun _ => rfl, fun _ => rfl, fun _ => .of_eq rfl, .of_eq rfl rfl, fun _ => rfl⟩

/-- One change after the other. -/
theorem trans {before middle after : Site}
    (first : SiteFrame script purpose sends site before middle)
    (second : SiteFrame script purpose sends site middle after) :
    SiteFrame script purpose sends site before after where
  task := second.task.trans first.task
  config := second.config.trans first.config
  holds := fun foreign => (second.holds foreign).trans (first.holds foreign)
  stops := fun foreign => (second.stops foreign).trans (first.stops foreign)
  quiet := fun silent => (first.quiet silent).trans (second.quiet silent)
  lanes := first.lanes.trans second.lanes
  routes := fun plain => (second.routes plain).trans (first.routes plain)

end SiteFrame

namespace World

variable {me : TaskId} {purpose : Purpose} {sends hands : Prop} {before after : World}

/-- One stroke changes one gateway at most. -/
theorem Stroke.sites_cases (stroke : Stroke me purpose sends hands before after) :
    after.sites = before.sites ∨
      ∃ site change, after.sites = before.sites.modify site change ∧
        ∀ found, before.sites[site]? = some found →
          SiteFrame before.script purpose sends site found (change found) := by
  cases stroke with
  | wake other =>
    obtain ⟨ready, same⟩ := exists_wake before other
    rw [same]
    exact .inl rfl
  | tell target answer =>
    obtain same | ⟨found, -, -, same⟩ := tellAnswer_cases before target answer
    · rw [same]
      exact .inl rfl
    · obtain ⟨ready, woken⟩ := exists_wake (before.setStage target (.told answer)) target
      rw [same, woken]
      exact .inl rfl
  | serve site request found broker asks there serves =>
    refine .inr ⟨site, _, rfl, fun other here => ?_⟩
    obtain rfl := Option.some.inj (there.symm.trans here)
    exact ⟨rfl, rfl, fun _ => rfl, fun _ => serves.fields.2, fun _ => serves.fields.1,
      serves.widens, fun _ => rfl⟩
  | route site group topic ack message asks => exact .inr ⟨site, _, rfl, fun _ _ => ⟨rfl, rfl,
      fun _ => rfl, fun _ => rfl, fun _ => .of_eq rfl, .of_eq rfl rfl,
      fun plain => absurd asks (plain group topic ack)⟩⟩
  | release site component tears => exact .inr ⟨site, _, rfl, fun _ _ => ⟨rfl, rfl,
      fun foreign => absurd tears foreign, fun _ => rfl, fun _ => .of_eq rfl, .of_eq rfl rfl,
      fun _ => rfl⟩⟩
  | setState site actor component state =>
    obtain ⟨-, same⟩ | ⟨entries, same⟩ := setState_cases before site actor component state
    · rw [same]
      exact .inl rfl
    · rw [same]
      exact .inr ⟨site, _, rfl, fun _ _ => ⟨rfl, rfl, fun _ => rfl, fun _ => rfl,
        fun _ => .of_eq rfl, .of_eq rfl rfl, fun _ => rfl⟩⟩
  | notify site => exact .inr ⟨site, _, rfl, fun _ _ => ⟨rfl, rfl, fun _ => rfl, fun _ => rfl,
      fun _ => .of_eq rfl, .of_eq rfl rfl, fun _ => rfl⟩⟩
  | recordStop site component ended tears => exact .inr ⟨site, _, rfl, fun _ _ => ⟨rfl, rfl,
      fun _ => rfl, fun foreign => absurd tears foreign, fun _ => .of_eq rfl, .of_eq rfl rfl,
      fun _ => rfl⟩⟩
  | touch site session change acknowledges =>
    obtain ⟨ready, same⟩ := exists_onSession before site session change
    rw [same]
    exact .inr ⟨site, _, rfl, fun _ _ => ⟨rfl, rfl, fun _ => rfl, fun _ => rfl,
      fun silent => absurd acknowledges silent, .of_eq rfl (by simp [Broker.onSession]),
      fun _ => rfl⟩⟩
  | _ => exact .inl rfl

/-- What the strokes of a step do to the gateways. -/
theorem Strokes.siteFrame (strokes : Strokes me purpose sends hands before after) (site : SiteId) :
    (before.sites[site]? = none ∧ after.sites[site]? = none) ∨
      ∃ found later, before.sites[site]? = some found ∧ after.sites[site]? = some later ∧
        SiteFrame before.script purpose sends site found later := by
  induction strokes with
  | refl =>
    cases there : before.sites[site]? with
    | none => exact .inl ⟨rfl, rfl⟩
    | some found => exact .inr ⟨found, found, rfl, rfl, .refl found⟩
  | @tail middle last early stroke ih =>
    have script : middle.script = before.script := Strokes.script_eq early
    obtain ⟨absent, still⟩ | ⟨found, between, there, here, frame⟩ := ih
    · refine .inl ⟨absent, ?_⟩
      obtain same | ⟨place, change, same, -⟩ := stroke.sites_cases
      · rw [same, still]
      · rw [same, List.getElem?_modify, still]
        simp
    · obtain same | ⟨place, change, same, follows⟩ := stroke.sites_cases
      · exact .inr ⟨found, between, there, by rw [same, here], frame⟩
      · by_cases mine : place = site
        · subst mine
          refine .inr ⟨found, change between, there, ?_, ?_⟩
          · rw [same, List.getElem?_modify, here]
            simp
          · exact frame.trans (script ▸ follows between here)
        · refine .inr ⟨found, between, there, ?_, frame⟩
          rw [same, List.getElem?_modify, here]
          simp [mine]

/-- The number of gateways stays while a task runs. -/
theorem Strokes.length_sites (strokes : Strokes me purpose sends hands before after) :
    after.sites.length = before.sites.length := by
  refine strokes.keeps (P := fun before after => after.sites.length = before.sites.length)
    (fun _ => rfl) (fun first second => second.trans first) ?_
  intro before after stroke
  obtain same | ⟨site, change, same, -⟩ := stroke.sites_cases
  · rw [same]
  · rw [same, List.length_modify]

/-- Sessions stay as they are in a step that sends nothing; new ones may be there. -/
theorem Strokes.session?_cases (strokes : Strokes me purpose False hands before after)
    (site : SiteId) (session : SessionId) :
    after.session? site session = before.session? site session ∨
      before.session? site session = none ∧
        after.session? site session = some (.new before.script.sessionBuffer) := by
  obtain ⟨absent, still⟩ | ⟨found, later, there, here, frame⟩ := strokes.siteFrame site
  · simp [session?, absent, still]
  · obtain ⟨added, grown, fresh⟩ := frame.quiet id
    simp only [session?, there, here, Option.bind_some, grown]
    by_cases inside : session < found.broker.sessions.length
    · exact .inl (List.getElem?_append_left inside)
    · have outside : found.broker.sessions.length ≤ session := Nat.le_of_not_lt inside
      rw [List.getElem?_append_right outside, List.getElem?_eq_none_iff.mpr outside]
      cases place : added[session - found.broker.sessions.length]? with
      | none => exact .inl rfl
      | some new => exact .inr ⟨rfl, by rw [fresh new (List.mem_of_getElem? place)]⟩

end World

end ClusterGateway
