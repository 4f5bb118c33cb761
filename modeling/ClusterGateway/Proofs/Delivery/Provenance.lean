import ClusterGateway.Proofs.Delivery.Origins
import ClusterGateway.Proofs.Delivery.Standalone

/-!
# Where accepted offsets come from

Everything that sessions accept comes from calls, each of which contributes at most one
offset: a standalone acknowledgement that has returned without an error, a consume request
whose explicit acknowledgement was handed on and admitted in time, or a consume request
whose acknowledgement of the fetched message was admitted. The first two go to the session
that was recorded when the call began, the third to that of the message. Main statement:
`accounts`.
-/

namespace ClusterGateway.World

/-- What a call contributes: an offset, to the session of a key, sent by the call itself or by
a task that acts for it. -/
@[ext]
structure Contribution where
  call : TaskId
  sender : TaskId
  site : SiteId
  key : RoutingKey
  session : SessionId
  offset : Int64

/-- In a run a task ends in the step that it makes in a world. -/
structure Leaves (start : World) (moves : List Move) (task : TaskId) (outcome : Outcome)
    (world : World) : Prop where
  makes : start.Makes moves (.resume task) world
  unended : world.outcome? task = none
  ended : (world.resume task).outcome? task = some outcome

/-- The calls of a run that contribute to what sessions accept, and what they contribute. -/
inductive Contributes (start : World) (moves : List Move) : Contribution → Prop
  | standalone {call : TaskId} {site : SiteId} {group topic : String} {partition : Int32}
    {offset : Int64} {session : SessionId} {before world : World}
    (enters : Enters start moves call
      (.request site (.acknowledge group topic (.explicit partition offset))) before)
    (routes : before.Routes site ⟨group, topic, partition⟩ session)
    (leaves : Leaves start moves call (.returned (.ok .done)) world) :
    Contributes start moves ⟨call, call, site, ⟨group, topic, partition⟩, session, offset⟩
  | handedOn {call sender : TaskId} {site : SiteId} {group topic : String} {partition : Int32}
    {offset : Int64} {session : SessionId} {before begun world : World} {place : Site}
    (enters : Enters start moves call
      (.request site (.consume group topic (.explicit partition offset))) before)
    (routes : before.Routes site ⟨group, topic, partition⟩ session)
    (begins : Enters start moves sender
      (.deliverAck site ⟨group, topic, partition⟩ offset session call) begun)
    (here : begun.sites[site]? = some place)
    (leaves : Leaves start moves sender (.returned (.ok .done)) world)
    (admits : world.Admits sender site session)
    (inTime : world.now ≤ begun.now + place.gateway.deliveryTimeout) :
    Contributes start moves ⟨call, sender, site, ⟨group, topic, partition⟩, session, offset⟩
  | fetched {call : TaskId} {found : Task} {site : SiteId} {group topic : String}
    {message : Message} {world : World} (there : world.tasks[call]? = some found)
    (asks : found.purpose = .request site (.consume group topic .auto))
    (leaves : Leaves start moves call (.returned (.ok (.message message))) world)
    (admits : world.Admits call site message.session) :
    Contributes start moves
      ⟨call, call, site, ⟨group, topic, message.partition⟩, message.session, message.offset⟩

/-- What sessions have accepted in a run is what its calls have contributed: each contribution
exactly once, one of each call at most, and only to sessions of its own group, topic and
partition. -/
structure Accounts (start : World) (moves : List Move) (last : World) : Prop where
  events : ∀ site number event, event ∈ last.accepted site number ↔ ∃ entry,
    Contributes start moves entry ∧ entry.site = site ∧ entry.session = number ∧
      event = ⟨some entry.sender, entry.offset⟩
  distinct : ∀ site number, ((last.accepted site number).map (·.sender)).Nodup
  once : ∀ first second, Contributes start moves first → Contributes start moves second →
    first.call = second.call ∨ first.sender = second.sender → first = second
  inLane : ∀ entry, Contributes start moves entry → ∀ key,
    last.Owns entry.site key entry.session ↔ key = entry.key

variable {start world before after last : World} {me task : TaskId} {found : Task}
  {dispatch : Dispatch} {moves : List Move} {entry first second : Contribution}

/-- A task that ends in a run ends in a longer one, too. -/
theorem Leaves.concat {outcome : Outcome} (leaves : Leaves start moves task outcome world)
    (move : Move) : Leaves start (moves ++ [move]) task outcome world :=
  ⟨leaves.makes.concat move, leaves.unended, leaves.ended⟩

/-- What is contributed in a run is contributed in a longer one, too. -/
theorem Contributes.concat (contributes : Contributes start moves entry) (move : Move) :
    Contributes start (moves ++ [move]) entry := by
  cases contributes with
  | standalone enters routes leaves =>
    exact .standalone (enters.concat move) routes (leaves.concat move)
  | handedOn enters routes begins here leaves admits inTime =>
    exact .handedOn (enters.concat move) routes (begins.concat move) here (leaves.concat move)
      admits inTime
  | fetched there asks leaves admits => exact .fetched there asks (leaves.concat move) admits

/-- A task that has ended in a run keeps its outcome until the end of it. -/
theorem Leaves.outcome? {outcome : Outcome} (opened : start.Opened)
    (played : start.play? moves = some last) (leaves : Leaves start moves task outcome world) :
    last.outcome? task = some outcome := by
  obtain ⟨early, free, late⟩ := leaves.makes.free played
  exact ((opened.sound.reaches early).apply free).outcome?_reaches late leaves.ended

/-- A task that has run in a run is there at the end of it. -/
theorem Enters.exists_task {purpose : Purpose} (opened : start.Opened)
    (played : start.play? moves = some last) (enters : Enters start moves task purpose world) :
    ∃ found, last.tasks[task]? = some found ∧ found.purpose = purpose := by
  obtain ⟨early, free, late⟩ := enters.makes.free played
  obtain ⟨actor, there⟩ := enters.there
  obtain ⟨stage, later⟩ := (opened.sound.reaches early).purpose_reaches
    ((Reaches.move free).trans late) there
  exact ⟨_, later, rfl⟩

/-- A delivery in the last step of a run is a contribution. -/
theorem Delivers.contributes (opened : start.Opened) (played : start.play? moves = some world)
    (free : world.isOpen (.resume me) = true)
    (delivers : Delivers me dispatch world (world.resume me)) :
    ∃ entry, Contributes start (moves ++ [.resume me]) entry ∧ entry.sender = me ∧
      entry.site = dispatch.site ∧ entry.session = dispatch.session ∧
        entry.offset = dispatch.offset := by
  obtain ⟨before, beginning, begun⟩ := delivers.begun opened played
  obtain ⟨found, outcome, there, concludes, ended⟩ := delivers.concludes
  have leaves : Leaves start (moves ++ [.resume me]) me outcome world :=
    ⟨makes_last _ played, delivers.unended, ended⟩
  have longer : start.play? (moves ++ [.resume me]) = some (world.resume me) := by
    rw [play?_append, played, Option.bind_some, play?, if_pos free]
    rfl
  -- the task is for the same at its beginning as it is now
  have same : beginning.purpose = found.purpose := by
    obtain ⟨early, openly, late⟩ := begun.makes.free longer
    obtain ⟨stage, later⟩ := (opened.sound.reaches early).purpose_reaches
      ((Reaches.move openly).trans late) begun.there
    have sound := opened.sound.reaches ⟨moves, played⟩
    obtain ⟨other, still, -⟩ := kept_apply sound (.resume me) there
    exact (Task.mk.inj (Option.some.inj (later.symm.trans still))).2.1
  have begins := begun.begins
  have entersOf := begun.enters opened longer
  rw [same] at begins entersOf
  unfold Purpose.Concludes at concludes
  split at concludes
  · rename_i site group topic partition offset purpose
    obtain ⟨rfl, rfl, rfl⟩ := concludes
    rw [purpose] at begins entersOf
    obtain ⟨place, here, -, routed, -⟩ := begins
    exact ⟨_, .standalone (entersOf (by simp)) ⟨place, here, routed⟩ leaves, rfl, rfl, rfl, rfl⟩
  · rename_i site key offset session parent purpose
    obtain ⟨rfl, rfl, rfl, rfl⟩ := concludes
    rw [purpose] at begins entersOf
    obtain ⟨place, here, timed⟩ := begins
    obtain ⟨group, topic, partition, first, rfl, enters, routes⟩ :=
      exists_enters opened played there purpose
    have inTime := delivers.inTime (before.now + place.gateway.deliveryTimeout) (by rw [timed])
    exact ⟨_, .handedOn (enters.concat _) routes (entersOf (by simp)) here leaves delivers.admits
      inTime, rfl, rfl, rfl, rfl⟩
  · rename_i site group topic purpose
    obtain ⟨rfl, -, message, carried, sent, rfl⟩ := concludes
    have admits := delivers.admits
    rw [← carried] at admits
    exact ⟨_, .fetched there purpose leaves admits, rfl, rfl, carried, sent⟩
  · exact concludes.elim

/-- Whatever a session has accepted was contributed. -/
theorem exists_contributes (opened : start.Opened) (played : start.play? moves = some last)
    {site : SiteId} {number : SessionId} {event : Acknowledged}
    (there : event ∈ last.accepted site number) : ∃ entry, Contributes start moves entry ∧
      entry.site = site ∧ entry.session = number ∧ event = ⟨some entry.sender, entry.offset⟩ := by
  induction moves, last, played using run_induction with
  | nil =>
    simp [opened.accepted_eq_nil] at there
  | concat moves world move early free ih =>
    have waits : world.Waits := opened.waits.reaches ⟨moves, early⟩
    have older (old : event ∈ world.accepted site number) :
        ∃ entry, Contributes start (moves ++ [move]) entry ∧ entry.site = site ∧
          entry.session = number ∧ event = ⟨some entry.sender, entry.offset⟩ := by
      obtain ⟨entry, contributes, which⟩ := ih old
      exact ⟨entry, contributes.concat move, which⟩
    obtain ⟨me, dispatch, rfl, delivers⟩ | ⟨same, -⟩ := accepted_apply waits move
    · obtain old | ⟨rfl, rfl, rfl⟩ := delivers.mem_accepted there
      · exact older old
      · obtain ⟨entry, contributes, sender, site, session, offset⟩ :=
          delivers.contributes opened early free
        exact ⟨entry, contributes, site, session, by rw [sender, offset]⟩
    · rw [same] at there
      exact older there

/-- A task whose delivery is admitted in the step in which it ends has delivered. -/
theorem Leaves.mem_accepted {outcome : Outcome} {key : RoutingKey} (dispatch : Dispatch)
    (opened : start.Opened) (played : start.play? moves = some last)
    (leaves : Leaves start moves task outcome world)
    (there : world.tasks[task]? = some found)
    (concludes : found.purpose.Concludes dispatch .accepted outcome)
    (same : ∀ other, found.purpose.Concludes other .accepted outcome →
      other.site = dispatch.site ∧ other.session = dispatch.session ∧
        other.offset = dispatch.offset)
    (owned : (world.resume task).Owns dispatch.site key dispatch.session)
    (admits : world.Admits task dispatch.site dispatch.session) :
    ⟨some task, dispatch.offset⟩ ∈ last.accepted dispatch.site dispatch.session := by
  obtain ⟨early, free, late⟩ := leaves.makes.free played
  have waits : world.Waits := opened.waits.reaches early
  have laned : world.Laned := opened.laned.reaches opened.waits early
  obtain ⟨other, delivers, also⟩ :=
    laned.delivers waits free there leaves.unended leaves.ended concludes owned admits
  obtain ⟨site, session, offset⟩ := same other also
  refine (waits.apply free).mem_accepted late ?_
  have accepts := delivers.accepts dispatch.site dispatch.session
  rw [if_pos ⟨site, session⟩, offset] at accepts
  rw [apply, accepts]
  exact List.mem_append_right _ (List.mem_singleton.mpr rfl)

/-- A task that is there at the end of a run was there for the same when it ended. -/
theorem Leaves.exists_task {outcome : Outcome} (opened : start.Opened)
    (played : start.play? moves = some last) (leaves : Leaves start moves task outcome world)
    {later : Task} (there : last.tasks[task]? = some later) :
    ∃ found, world.tasks[task]? = some found ∧ found.purpose = later.purpose := by
  obtain ⟨early, free, late⟩ := leaves.makes.free played
  have sound : world.Sound := opened.sound.reaches early
  obtain ⟨ended, after, -⟩ := outcome?_eq_some_iff.mp leaves.ended
  cases before : world.tasks[task]? with
  | none =>
    rw [resume_absent before] at after
    exact absurd (before.symm.trans after) (by simp)
  | some found =>
    obtain ⟨stage, still⟩ := sound.purpose_reaches ((Reaches.move free).trans late) before
    obtain rfl := Option.some.inj (still.symm.trans there)
    exact ⟨found, rfl, rfl⟩

/-- The message with which a consume request ends has a session of its partition. -/
theorem Leaves.owns {site : SiteId} {group topic : String} {ack : Ack} {message : Message}
    (opened : start.Opened) (played : start.play? moves = some last)
    (leaves : Leaves start moves task (.returned (.ok (.message message))) world)
    (there : world.tasks[task]? = some found)
    (asks : found.purpose = .request site (.consume group topic ack)) :
    (world.resume task).Owns site ⟨group, topic, message.partition⟩ message.session := by
  obtain ⟨early, free, -⟩ := leaves.makes.free played
  have waits : world.Waits := opened.waits.reaches early
  have laned := (opened.laned.reaches opened.waits early).apply waits free
  obtain ⟨stage, still, -⟩ := kept_apply waits.sound (.resume task) there
  obtain ⟨later, after, ended⟩ := outcome?_eq_some_iff.mp leaves.ended
  obtain rfl := Option.some.inj (still.symm.trans after)
  obtain rfl : stage = .ended (.returned (.ok (.message message))) := ended
  have proper := laned.tasks task _ after
  simp only [Proper, asks] at proper
  exact proper message rfl

/-- Whatever is contributed in a run has been accepted at the end of it. -/
theorem Contributes.mem_accepted (opened : start.Opened)
    (played : start.play? moves = some last) (contributes : Contributes start moves entry) :
    ⟨some entry.sender, entry.offset⟩ ∈ last.accepted entry.site entry.session := by
  cases contributes with
  | @standalone call site group topic partition offset session before world enters routes leaves =>
    obtain ⟨early, late, rfl, first⟩ := enters.makes
    obtain ⟨actor, there⟩ := enters.there
    obtain ⟨place, here, routed⟩ := routes
    have ok := leaves.outcome? opened played
    rw [play?_append, first, Option.bind_some, play?] at played
    split at played
    · rename_i free
      have sent := sentBy_of_ok opened ⟨early, first⟩ free there rfl rfl here routed played ok
      have inside : ⟨some call, offset⟩ ∈ last.sentBy call site session := by
        rw [sent]
        exact List.mem_singleton.mpr rfl
      exact (List.mem_filter.mp inside).1
    · simp at played
  | @handedOn call sender site group topic partition offset session before begun world place
      enters routes begins here leaves admits =>
    obtain ⟨later, there, asks⟩ := begins.exists_task opened played
    obtain ⟨found, running, same⟩ := leaves.exists_task opened played there
    have purpose := same.trans asks
    obtain ⟨early, free, late⟩ := leaves.makes.free played
    have waits : world.Waits := opened.waits.reaches early
    have proper := (opened.laned.reaches opened.waits early).tasks sender found running
    rw [Proper, purpose] at proper
    refine leaves.mem_accepted ⟨site, session, offset, none⟩ opened played running ?_ ?_
      ((waits.wider (.resume sender)).owns proper) admits
    · rw [purpose]
      exact ⟨rfl, rfl, rfl, rfl⟩
    · intro other concludes
      rw [purpose] at concludes
      exact ⟨concludes.1, concludes.2.2.1, concludes.2.1⟩
  | @fetched call found site group topic message world there asks leaves admits =>
    refine leaves.mem_accepted ⟨site, message.session, message.offset, none⟩ opened played there
      ?_ ?_ (leaves.owns opened played there asks) admits
    · rw [asks]
      exact ⟨rfl, by simp, message, rfl, rfl, rfl⟩
    · intro other concludes
      rw [asks] at concludes
      obtain ⟨here, -, carried, session, offset, told⟩ := concludes
      obtain rfl : message = carried := by simpa using told
      exact ⟨here, session.symm, offset.symm⟩

/-- A session that is recorded for a key in a run is in the lane of that key at its end. -/
theorem Enters.owns {purpose : Purpose} {site : SiteId} {key : RoutingKey} {number : SessionId}
    (opened : start.Opened) (played : start.play? moves = some last)
    (enters : Enters start moves task purpose world) (routes : world.Routes site key number) :
    last.Owns site key number := by
  obtain ⟨early, free, late⟩ := enters.makes.free played
  have waits : world.Waits := opened.waits.reaches early
  obtain ⟨place, here, routed⟩ := routes
  have inside := (opened.laned.reaches opened.waits early).routes site place key number here routed
  exact waits.owns_reaches ((Reaches.move free).trans late) ⟨place, here, inside⟩

/-- What is contributed goes to a session of its own group, topic and partition. -/
theorem Contributes.owns (opened : start.Opened) (played : start.play? moves = some last)
    (contributes : Contributes start moves entry) :
    last.Owns entry.site entry.key entry.session := by
  cases contributes with
  | standalone enters routes leaves => exact enters.owns opened played routes
  | handedOn enters routes begins here leaves admits => exact enters.owns opened played routes
  | fetched there asks leaves admits =>
    have owned := leaves.owns opened played there asks
    obtain ⟨early, free, late⟩ := leaves.makes.free played
    have waits := (opened.waits.reaches early).apply free
    exact waits.owns_reaches late owned

/-- What a call of a purpose may have contributed at the end of a run. -/
def Offers (last : World) (entry : Contribution) : Purpose → Prop
  | .request site (.acknowledge group topic (.explicit partition offset)) =>
    entry.sender = entry.call ∧ entry.site = site ∧ entry.key = ⟨group, topic, partition⟩ ∧
      entry.offset = offset
  | .request site (.consume group topic (.explicit partition offset)) =>
    entry.site = site ∧ entry.key = ⟨group, topic, partition⟩ ∧ entry.offset = offset ∧
      ∃ acting, last.tasks[entry.sender]? = some acting ∧ acting.purpose =
        .deliverAck site ⟨group, topic, partition⟩ offset entry.session entry.call
  | .request site (.consume group topic .auto) =>
    entry.sender = entry.call ∧ entry.site = site ∧ ∃ message,
      last.outcome? entry.call = some (.returned (.ok (.message message))) ∧
        entry.key = ⟨group, topic, message.partition⟩ ∧ entry.session = message.session ∧
          entry.offset = message.offset
  | _ => False

/-- A call has contributed only what one of its purpose may have. -/
theorem Contributes.offers (opened : start.Opened) (played : start.play? moves = some last)
    (contributes : Contributes start moves entry) :
    ∃ found, last.tasks[entry.call]? = some found ∧ last.Offers entry found.purpose := by
  cases contributes with
  | standalone enters routes leaves =>
    obtain ⟨found, there, asks⟩ := enters.exists_task opened played
    refine ⟨found, there, ?_⟩
    rw [asks]
    exact ⟨rfl, rfl, rfl, rfl⟩
  | handedOn enters routes begins here leaves admits =>
    obtain ⟨found, there, asks⟩ := enters.exists_task opened played
    obtain ⟨acting, running, acts⟩ := begins.exists_task opened played
    refine ⟨found, there, ?_⟩
    rw [asks]
    exact ⟨rfl, rfl, rfl, acting, running, acts⟩
  | @fetched call found site group topic message world there asks leaves admits =>
    obtain ⟨early, free, late⟩ := leaves.makes.free played
    obtain ⟨stage, later⟩ := (opened.sound.reaches early).purpose_reaches
      ((Reaches.move free).trans late) there
    refine ⟨_, later, ?_⟩
    rw [asks]
    exact ⟨rfl, rfl, message, leaves.outcome? opened played, rfl, rfl, rfl⟩

/-- The sender of a contribution tells its call: the request that it acts for, or itself. -/
theorem Offers.call_eq (offers : last.Offers entry found.purpose)
    (there : last.tasks[entry.call]? = some found) : ∃ acting,
      last.tasks[entry.sender]? = some acting ∧
        entry.call = acting.purpose.principal?.getD entry.sender := by
  unfold Offers at offers
  split at offers
  · rename_i purpose
    refine ⟨found, offers.1 ▸ there, ?_⟩
    rw [purpose]
    exact offers.1.symm
  · obtain ⟨-, -, -, acting, running, acts⟩ := offers
    refine ⟨acting, running, ?_⟩
    rw [acts]
    rfl
  · rename_i purpose
    refine ⟨found, offers.1 ▸ there, ?_⟩
    rw [purpose]
    exact offers.1.symm
  · exact offers.elim

/-- A call has contributed one offset, if what it has sent itself went to one session. -/
theorem Offers.eq (kin : last.Kin) (one : last.Offers first found.purpose)
    (other : last.Offers second found.purpose) (same : first.call = second.call)
    (apart : first.sender = second.sender → first.session = second.session) :
    first = second := by
  unfold Offers at one other
  split at one
  · rename_i purpose
    rw [purpose] at other
    obtain ⟨sends, site, key, offset⟩ := one
    obtain ⟨sends', site', key', offset'⟩ := other
    have senders : first.sender = second.sender := sends.trans (same.trans sends'.symm)
    exact Contribution.ext same senders (site.trans site'.symm) (key.trans key'.symm)
      (apart senders) (offset.trans offset'.symm)
  · rename_i purpose
    rw [purpose] at other
    obtain ⟨site, key, offset, acting, running, acts⟩ := one
    obtain ⟨site', key', offset', also, goes, act⟩ := other
    have senders : first.sender = second.sender := by
      refine kin.only _ _ acting also first.call running goes ?_ ?_
      · rw [acts]
        rfl
      · rw [act, same]
        rfl
    exact Contribution.ext same senders (site.trans site'.symm) (key.trans key'.symm)
      (apart senders) (offset.trans offset'.symm)
  · rename_i purpose
    rw [purpose] at other
    obtain ⟨sends, site, message, told, key, session, offset⟩ := one
    obtain ⟨sends', site', carried, also, key', session', offset'⟩ := other
    obtain rfl : message = carried := by
      rw [same] at told
      simpa using told.symm.trans also
    exact Contribution.ext same (sends.trans (same.trans sends'.symm)) (site.trans site'.symm)
      (key.trans key'.symm) (session.trans session'.symm) (offset.trans offset'.symm)
  · exact one.elim

/-- In every run sessions accept what its calls contribute. -/
theorem accounts (opened : start.Opened) (played : start.play? moves = some last) :
    Accounts start moves last := by
  have signed : last.Signed := opened.signed ⟨moves, played⟩
  have laned : last.Laned := opened.laned.reaches opened.waits ⟨moves, played⟩
  refine ⟨?_, signed.distinct, ?_, ?_⟩
  · intro site number event
    constructor
    · exact exists_contributes opened played
    · rintro ⟨entry, contributes, rfl, rfl, rfl⟩
      exact contributes.mem_accepted opened played
  · intro first second one other same
    obtain ⟨found, there, offers⟩ := one.offers opened played
    obtain ⟨later, here, also⟩ := other.offers opened played
    -- the sender tells the call, so the calls are the same in either case
    have calls : first.call = second.call := by
      obtain same | same := same
      · exact same
      · obtain ⟨acting, running, mine⟩ := offers.call_eq there
        obtain ⟨goes, runs, theirs⟩ := also.call_eq here
        rw [same] at running mine
        obtain rfl := Option.some.inj (running.symm.trans runs)
        exact mine.trans theirs.symm
    rw [calls] at there
    obtain rfl := Option.some.inj (there.symm.trans here)
    refine offers.eq (opened.kin ⟨moves, played⟩) also calls fun sender => ?_
    have accepted := one.mem_accepted opened played
    have accepted' := other.mem_accepted opened played
    exact (signed.apart _ _ _ _ _ _ accepted accepted' (congrArg some sender)).2
  · intro entry contributes key
    have owned := contributes.owns opened played
    constructor
    · exact fun other => laned.apart other owned
    · rintro rfl
      exact owned

/-- A message is fetched, and the request for the next one acknowledges it. -/
def nextFetch : List Move :=
  [.enqueue 0 "g" "t" [⟨.message none 0 0 2 none [97], 0⟩],
    .request 0 (.consume "g" "t" .none), .resume 0,
    .request 0 (.consume "g" "t" (.explicit 0 0)), .resume 1, .resume 2]

/-- The session has accepted the offset that the second request has handed on. -/
theorem accounts_nextFetch : ∃ last, narrowGateway.play? nextFetch = some last ∧
    last.accepted 0 0 = [⟨some 2, 0⟩] ∧ Accounts narrowGateway nextFetch last := by
  have accepts : (narrowGateway.play? nextFetch).map (fun last => last.accepted 0 0) =
      some [⟨some 2, 0⟩] := by
    decide +kernel
  obtain ⟨last, played, accepted⟩ := Option.map_eq_some_iff.mp accepts
  exact ⟨last, played, accepted, accounts opened_narrowGateway played⟩

end ClusterGateway.World
