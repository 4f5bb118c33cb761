import ClusterGateway.Proofs.Serving.Calls

/-!
# What requests do with their answers

A request that goes on with an answer changes nothing about the tasks but where it stands
itself: it has returned what was answered, or, with a message to acknowledge, it waits for
room to do so and keeps the message. Main statements: `tasks_receiveMessage`,
`tasks_continueAutoAck`.
-/

namespace ClusterGateway

/-- What a request to produce returns, given the answer to it. -/
def Answer.produced : Answer Receipt → Except Error Reply
  | .reply result => result.map .receipt
  | .dropped => .error (.internal "producer dropped produce request")

/-- What a request to consume returns, given the answer to it. -/
def Answer.consumed : Answer Message → Except Error Reply
  | .reply result => result.map .message
  | .dropped => .error (.internal "consumer dropped consume request")

/-- Where a consume request stands that has gone on with an answer. -/
inductive Answer.LeadsTo : Answer Message → Stage → Prop
  | returned (answer : Answer Message) : LeadsTo answer (.ended (.returned answer.consumed))
  | acknowledging (message : Message) : LeadsTo (.reply (.ok message)) (.acknowledging message)

namespace World

variable {world : World} {me : TaskId} {site : SiteId} {group topic : String}

/-- An attempt to send leaves the tasks alone. -/
theorem tasks_trySend (world : World) (me : TaskId) (site : SiteId) (session : SessionId)
    (offset : Int64) : (world.trySend me site session offset).1.tasks = world.tasks := by
  obtain ⟨_, -, -, same⟩ | ⟨_, -, -, same⟩ | ⟨-, same⟩ :=
    trySend_cases world me site session offset
  · rw [same]
    exact tasks_onSession world site session _
  · rw [same]
    exact tasks_onSession world site session _
  · rw [same]

/-- A further attempt to send leaves the tasks alone. -/
theorem tasks_retrySend (world : World) (me : TaskId) (site : SiteId) (session : SessionId)
    (offset : Int64) : (world.retrySend me site session offset).1.tasks = world.tasks := by
  obtain ⟨_, -, -, -, same⟩ | ⟨_, -, -, -, same⟩ | ⟨-, same⟩ :=
    retrySend_cases world me site session offset
  · rw [same]
    exact tasks_onSession world site session _
  · rw [same]
  · rw [same]

/-- Handing an acknowledgement on leaves the script alone. -/
theorem script_beginBackgroundAck (world : World) (me : TaskId) (site : SiteId) (place : Site)
    (actor : Option String) (key : RoutingKey) (offset : Int64) :
    (world.beginBackgroundAck me site place actor key offset).script = world.script := by
  unfold beginBackgroundAck
  split <;> rfl

/-- Where the tasks are the same, they are so after one of them has moved. -/
theorem tasks_setStage_congr {first second : World} (same : first.tasks = second.tasks)
    (task : TaskId) (stage : Stage) :
    (first.setStage task stage).tasks = (second.setStage task stage).tasks := by
  rw [setStage, setStage, same]

/-- After an attempt to acknowledge a fetched message the request has returned the message, or it
waits for room and keeps it. -/
theorem tasks_settleAutoAck (world : World) (me : TaskId) (actor : Option String)
    (group topic : String) (message : Message) (attempt : SendAttempt) :
    ∃ stage, (Answer.reply (.ok message)).LeadsTo stage ∧
      (world.settleAutoAck me actor group topic message attempt).tasks =
        (world.setStage me stage).tasks := by
  cases attempt with
  | accepted => exact ⟨_, .returned (.reply (.ok message)), rfl⟩
  | closed => exact ⟨_, .returned (.reply (.ok message)), rfl⟩
  | full => exact ⟨_, .acknowledging message, rfl⟩

/-- A request to produce that gets its answer returns it. -/
theorem tasks_receiveReceipt (world : World) (me : TaskId) (answer : Answer Receipt) :
    (world.receiveReceipt me answer).tasks =
      (world.setStage me (.ended (.returned answer.produced))).tasks := by
  cases answer <;> rfl

/-- A consume request that gets its answer returns it, or it keeps the message to acknowledge. -/
theorem tasks_receiveMessage (world : World) (me : TaskId) (actor : Option String) (site : SiteId)
    (group topic : String) (ack : Ack) (answer : Answer Message) :
    ∃ stage, answer.LeadsTo stage ∧
      (world.receiveMessage me actor site group topic ack answer).tasks =
        (world.setStage me stage).tasks := by
  cases answer with
  | dropped => exact ⟨_, .returned .dropped, rfl⟩
  | reply result =>
    cases result with
    | error error => exact ⟨_, .returned (.reply (.error error)), rfl⟩
    | ok message =>
      simp only [receiveMessage]
      split
      · obtain ⟨stage, leads, settles⟩ := tasks_settleAutoAck
          ((world.onGateway site (·.route group topic message)).trySend me site message.session
            message.offset).1 me actor group topic message
          ((world.onGateway site (·.route group topic message)).trySend me site message.session
            message.offset).2
        refine ⟨stage, leads, settles.trans (tasks_setStage_congr ?_ me stage)⟩
        exact tasks_trySend _ me site message.session message.offset
      · exact ⟨_, .returned (.reply (.ok message)), rfl⟩

/-- A consume request that goes on with its acknowledgement returns its message, or it keeps it. -/
theorem tasks_continueAutoAck (world : World) (me : TaskId) (actor : Option String)
    (site : SiteId) (group topic : String) (message : Message) :
    ∃ stage, (Answer.reply (.ok message)).LeadsTo stage ∧
      (world.continueAutoAck me actor site group topic message).tasks =
        (world.setStage me stage).tasks := by
  obtain ⟨stage, leads, settles⟩ := tasks_settleAutoAck
    (world.retrySend me site message.session message.offset).1 me actor group topic message
    (world.retrySend me site message.session message.offset).2
  exact ⟨stage, leads, settles.trans (tasks_setStage_congr
    (tasks_retrySend world me site message.session message.offset) me stage)⟩

end World

end ClusterGateway
