import ClusterGateway.Broker.State

/-!
# Lanes of a cluster

Every session of a cluster belongs to one partition of one topic and group: it is made for
its lane and stays there. What the cluster does with its lanes never takes a session out of
one, and a fetched message carries a session of its own lane.
-/

namespace ClusterGateway.Broker

variable {script : BrokerScript} {broker before middle after : Broker} {key : RoutingKey}
  {number : SessionId}

/-- A session belongs to the lane of a key. -/
def Owns (broker : Broker) (key : RoutingKey) (number : SessionId) : Prop :=
  number ∈ (broker.lane key).generations

/-- The lanes share no session, and all sessions in them are there. -/
structure Laned (broker : Broker) : Prop where
  bounded : ∀ {key number}, broker.Owns key number → number < broker.sessions.length
  apart : ∀ {key other number}, broker.Owns key number → broker.Owns other number → key = other

/-- What happens to a cluster as far as its lanes are concerned. -/
structure Widens (before after : Broker) : Prop where
  laned : before.Laned → after.Laned
  owns : ∀ {key number}, before.Owns key number → after.Owns key number

/-- A cluster without sessions has no lanes. -/
theorem laned_empty : ({} : Broker).Laned where
  bounded := fun owned => absurd owned List.not_mem_nil
  apart := fun owned => absurd owned List.not_mem_nil

/-- Lanes and the number of sessions stay. -/
theorem Widens.of_eq (lanes : after.lanes = before.lanes)
    (length : after.sessions.length = before.sessions.length) : before.Widens after where
  laned := by
    have back {key : RoutingKey} {number : SessionId} (owned : after.Owns key number) :
        before.Owns key number := by
      simpa only [Owns, lane, lanes] using owned
    intro laned
    refine ⟨fun owned => ?_, fun first second => laned.apart (back first) (back second)⟩
    rw [length]
    exact laned.bounded (back owned)
  owns := by
    intro key number owned
    simpa only [Owns, lane, lanes] using owned

/-- One change after the other. -/
theorem Widens.trans (first : before.Widens middle) (second : middle.Widens after) :
    before.Widens after where
  laned := fun laned => second.laned (first.laned laned)
  owns := fun owned => second.owns (first.owns owned)

/-- The lane of a key after one was assigned. -/
theorem lane_assign (broker : Broker) (sessions : List Session) (key other : RoutingKey)
    (lane : Lane) :
    ({ broker with sessions := sessions, lanes := assign key lane broker.lanes } : Broker).lane
      other = if other = key then lane else broker.lane other := by
  unfold Broker.lane
  split
  · rename_i same
    rw [same, lookup_assign_self]
    rfl
  · rename_i differ
    rw [lookup_assign_of_ne lane broker.lanes differ]

/-- A lane gets a new session. -/
theorem widens_grow (broker : Broker) (key : RoutingKey) (session : Session) (current : Bool) :
    broker.Widens { broker with
      sessions := broker.sessions ++ [session]
      lanes := assign key ⟨(broker.lane key).generations ++ [broker.sessions.length], current⟩
        broker.lanes } := by
  -- a session of a lane is an old one, or the new one in the lane of the key
  have owned {other : RoutingKey} {number : SessionId}
      (owned : ({ broker with
        sessions := broker.sessions ++ [session]
        lanes := assign key ⟨(broker.lane key).generations ++ [broker.sessions.length], current⟩
          broker.lanes } : Broker).Owns other number) :
      broker.Owns other number ∨ other = key ∧ number = broker.sessions.length := by
    unfold Owns at owned
    rw [lane_assign] at owned
    split at owned
    · rename_i same
      rcases List.mem_append.mp owned with old | new
      · exact .inl (same ▸ old)
      · exact .inr ⟨same, List.mem_singleton.mp new⟩
    · exact .inl owned
  refine ⟨fun laned => ⟨?_, ?_⟩, ?_⟩
  · intro other number there
    rw [List.length_append, List.length_singleton]
    rcases owned there with old | ⟨-, rfl⟩
    · exact Nat.lt_succ_of_lt (laned.bounded old)
    · exact Nat.lt_succ_self _
  · intro other third number first second
    rcases owned first with old | ⟨rfl, rfl⟩
    · rcases owned second with older | ⟨rfl, rfl⟩
      · exact laned.apart old older
      · exact absurd (laned.bounded old) (Nat.lt_irrefl _)
    · rcases owned second with older | ⟨rfl, -⟩
      · exact absurd (laned.bounded older) (Nat.lt_irrefl _)
      · rfl
  · intro other number old
    unfold Owns
    rw [lane_assign]
    split
    · rename_i same
      exact List.mem_append_left _ (same ▸ old)
    · exact old

/-- The next message of a partition gets a session of its own. -/
theorem widens_renewSession (broker : Broker) (key : RoutingKey) :
    broker.Widens (broker.renewSession key).1 := by
  have same {other : RoutingKey} {number : SessionId} :
      (broker.renewSession key).1.Owns other number ↔ broker.Owns other number := by
    unfold Owns renewSession
    dsimp only
    rw [lane_assign broker broker.sessions]
    split
    · rename_i here
      rw [here]
    · rfl
  refine ⟨fun laned => ⟨?_, ?_⟩, same.mpr⟩
  · exact fun owned => laned.bounded (same.mp owned)
  · exact fun first second => laned.apart (same.mp first) (same.mp second)

/-- The session that the next message of a partition carries belongs to its lane. -/
theorem widens_currentSession (script : BrokerScript) (broker : Broker) (key : RoutingKey) :
    broker.Widens (broker.currentSession script key).1 ∧
      (broker.currentSession script key).1.Owns key (broker.currentSession script key).2 := by
  unfold currentSession
  dsimp only
  split
  · rename_i session _ last
    exact ⟨.of_eq rfl rfl, List.mem_of_getLast? last⟩
  · refine ⟨widens_grow broker key (.new script.sessionBuffer) true, ?_⟩
    unfold Owns
    rw [lane_assign, if_pos rfl]
    exact List.mem_append_right _ (List.mem_singleton.mpr rfl)

/-- A message that a consumer gets carries a session of its lane. -/
theorem widens_fetch (script : BrokerScript) (broker : Broker) (group topic : String) :
    broker.Widens (broker.fetch script group topic).1 ∧
      ∀ message, (broker.fetch script group topic).2.1 = .reply (.ok message) →
        (broker.fetch script group topic).1.Owns ⟨group, topic, message.partition⟩
          message.session := by
  unfold fetch
  dsimp only
  split
  · exact ⟨.of_eq rfl rfl, fun message told => by simp at told⟩
  · rename_i item rest _
    generalize popped_eq : ({ broker with
      requests := broker.requests ++ [(group, topic)]
      queues := assign (group, topic) rest broker.queues } : Broker) = popped
    have same : broker.Widens popped := by
      rw [← popped_eq]
      exact .of_eq rfl rfl
    cases delivery : item.delivery with
    | drop => exact ⟨same, fun message told => by simp [deliver] at told⟩
    | failure error => exact ⟨same, fun message told => by simp [deliver] at told⟩
    | message given partition offset highWaterMark key value =>
      obtain ⟨widens, owns⟩ := widens_currentSession script popped ⟨group, topic, partition⟩
      refine ⟨same.trans widens, fun message told => ?_⟩
      simp only [deliver, Answer.reply.injEq, Except.ok.injEq] at told
      rw [← told]
      exact owns

/-- A submitted message leaves the lanes alone. -/
theorem widens_submit (script : BrokerScript) (broker : Broker) (submission : Submission) :
    broker.Widens (broker.submit script submission).1 := by
  obtain ⟨nextOffset, same⟩ := broker.exists_submit script submission
  rw [same]
  exact .of_eq rfl rfl

/-- An answered call leaves the lanes alone. -/
theorem widens_answer (script : BrokerScript) (broker : Broker) (call : AdminCall) :
    broker.Widens (broker.answer script call).1 := by
  unfold answer
  split
  · exact .of_eq rfl rfl
  · cases call with
    | groupOffsets => dsimp only; split <;> exact .of_eq rfl rfl
    | topicMetadata => dsimp only; split <;> exact .of_eq rfl rfl
    | _ => exact .of_eq rfl rfl

end ClusterGateway.Broker
