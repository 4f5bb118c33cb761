import ClusterGateway.Proofs.Lifecycle.States
import ClusterGateway.Scenario.Audience

/-!
# What a subscriber is told

A subscriber reads the events that are sent from the moment on at which it joins, in their
order and each of them once. Of those that it has not read, the last 64 are kept; the number of
the others is told in their place. So what it has read accounts for every event up to the
place that it has come to, whoever else joins, reads or leaves in between. Main statement:
`subscriber_accounts`.
-/

namespace ClusterGateway

section Keys

variable {κ α : Type} [BEq κ] [LawfulBEq κ] {key other : κ}

/-- An entry that goes is not found any more. -/
theorem lookup_filter_self (key : κ) (entries : List (κ × α)) :
    (entries.filter fun entry => entry.1 != key).lookup key = none := by
  rw [List.lookup_eq_none_iff]
  intro entry there
  have apart : entry.1 ≠ key := by simpa using (List.mem_filter.mp there).2
  simpa using apart.symm

/-- The entries of a key that go leave those of every other key. -/
theorem lookup_filter_of_ne (entries : List (κ × α)) (differ : key ≠ other) :
    (entries.filter fun entry => entry.1 != other).lookup key = entries.lookup key := by
  induction entries with
  | nil => rfl
  | cons entry rest ih =>
    obtain ⟨found, value⟩ := entry
    cases goes : found != other with
    | true => simp only [List.filter_cons, goes, ↓reduceIte, List.lookup_cons, ih]
    | false =>
      have gone : found = other := by simpa using goes
      have apart : (key == found) = false := by simpa [gone] using differ
      simp only [List.filter_cons, goes, Bool.false_eq_true, ↓reduceIte, List.lookup_cons, apart, ih]

end Keys

/-- How many events a notice stands for. -/
def Notice.span : Notice → Nat
  | event _ => 1
  | lagged missed => missed

/-- How many events notices stand for. -/
def spans : List Notice → Nat
  | [] => 0
  | notice :: rest => notice.span + spans rest

/-- Notices tell of events in their order: each of them tells of the next one, or of how many are
missing at its place. -/
inductive Tells : List Notice → List LifecycleEvent → Prop
  | nothing : Tells [] []
  | event (event : LifecycleEvent) {notices : List Notice} {events : List LifecycleEvent}
    (rest : Tells notices events) : Tells (.event event :: notices) (event :: events)
  | lagged (missed : List LifecycleEvent) (some_missed : missed ≠ []) {notices : List Notice}
    {events : List LifecycleEvent} (rest : Tells notices events) :
    Tells (.lagged missed.length :: notices) (missed ++ events)

/-- The events that are kept for a subscriber, of those that it has not read. -/
def kept (unread : List LifecycleEvent) : List LifecycleEvent :=
  unread.drop (unread.length - Lifecycle.capacity)

/-- What a subscriber reads next: how many events are missing, if any are, and then those that are
kept. -/
def pending (unread : List LifecycleEvent) : List Notice :=
  (if unread.length ≤ Lifecycle.capacity then []
    else [.lagged (unread.length - Lifecycle.capacity)]) ++ (kept unread).map .event

variable {notices first second : List Notice} {unread early late : List LifecycleEvent}

/-- Notices stand for as many events as their parts. -/
theorem spans_append (first second : List Notice) :
    spans (first ++ second) = spans first + spans second := by
  induction first with
  | nil => simp [spans]
  | cons notice rest ih => rw [List.cons_append, spans, spans, ih, Nat.add_assoc]

/-- Notices of single events stand for one event each. -/
theorem spans_map_event (events : List LifecycleEvent) :
    spans (events.map .event) = events.length := by
  induction events with
  | nil => rfl
  | cons event rest ih => rw [List.map_cons, spans, ih, Notice.span, List.length_cons, Nat.add_comm]

/-- Notices of single events tell of these events. -/
theorem tells_map_event (events : List LifecycleEvent) : Tells (events.map .event) events := by
  induction events with
  | nil => exact .nothing
  | cons event rest ih => exact .event event ih

/-- What is told later follows on what was told before. -/
theorem Tells.append (before : Tells first early) (after : Tells second late) :
    Tells (first ++ second) (early ++ late) := by
  induction before with
  | nothing => exact after
  | event event rest ih => exact .event event ih
  | lagged missed some_missed rest ih =>
    rw [List.append_assoc]
    exact .lagged missed some_missed ih

/-- At most the last events are kept. -/
theorem length_kept_le (unread : List LifecycleEvent) :
    (kept unread).length ≤ Lifecycle.capacity := by
  rw [kept, List.length_drop]
  omega

/-- Where no more events are unread than are kept, all of them are kept and none is missing. -/
theorem pending_of_le (few : unread.length ≤ Lifecycle.capacity) :
    pending unread = unread.map .event := by
  have all : kept unread = unread := by rw [kept, Nat.sub_eq_zero_of_le few, List.drop_zero]
  rw [pending, if_pos few, all, List.nil_append]

/-- Where more events are unread than are kept, the number of the missing ones is told first. -/
theorem pending_of_lt (many : Lifecycle.capacity < unread.length) :
    pending unread = .lagged (unread.length - Lifecycle.capacity) :: (kept unread).map .event := by
  rw [pending, if_neg (Nat.not_le.mpr many), List.singleton_append]

/-- Any number of reads tells of the first events that are unread. -/
theorem tells_take_pending (unread : List LifecycleEvent) (limit : Nat) :
    spans ((pending unread).take limit) ≤ unread.length ∧
      Tells ((pending unread).take limit) (unread.take (spans ((pending unread).take limit))) := by
  by_cases few : unread.length ≤ Lifecycle.capacity
  · have read : (pending unread).take limit = (unread.take limit).map .event := by
      rw [pending_of_le few, List.map_take]
    have count : spans ((pending unread).take limit) = (unread.take limit).length := by
      rw [read, spans_map_event]
    have same : unread.take (unread.take limit).length = unread.take limit := by
      rw [List.length_take, ← List.take_take, List.take_length]
    rw [count, same, read]
    exact ⟨List.length_take_le' limit unread, tells_map_event _⟩
  · have many : Lifecycle.capacity < unread.length := Nat.not_le.mp few
    cases limit with
    | zero => exact ⟨Nat.zero_le _, .nothing⟩
    | succ limit =>
      have missing : 0 < unread.length - Lifecycle.capacity := Nat.sub_pos_of_lt many
      have told : ((kept unread).take limit).length ≤ unread.length -
          (unread.length - Lifecycle.capacity) := by
        rw [← List.length_drop, ← kept]
        exact List.length_take_le' limit (kept unread)
      -- the missing events and those that are read after them stand together
      have read : (pending unread).take (limit + 1) =
          .lagged (unread.take (unread.length - Lifecycle.capacity)).length ::
            ((kept unread).take limit).map .event := by
        rw [pending_of_lt many, List.take_succ_cons, ← List.map_take, List.length_take,
          Nat.min_eq_left (Nat.sub_le _ _)]
      have count : spans ((pending unread).take (limit + 1)) =
          unread.length - Lifecycle.capacity + ((kept unread).take limit).length := by
        rw [read, spans, spans_map_event, Notice.span, List.length_take,
          Nat.min_eq_left (Nat.sub_le _ _)]
      have events : unread.take (unread.length - Lifecycle.capacity +
          ((kept unread).take limit).length) =
            unread.take (unread.length - Lifecycle.capacity) ++ (kept unread).take limit := by
        rw [List.take_add, kept, List.length_take, ← List.take_take, List.take_length]
      have some_missed : unread.take (unread.length - Lifecycle.capacity) ≠ [] := by
        rw [← List.length_pos_iff, List.length_take]
        omega
      refine ⟨by omega, ?_⟩
      rw [count, events, read]
      exact .lagged _ some_missed (tells_map_event _)

/-- As many of the notices as a read may yield. -/
def upTo : Option Nat → List Notice → List Notice
  | some limit, notices => notices.take limit
  | none, notices => notices

/-- What a read yields is there to be read. -/
theorem mem_of_mem_upTo {limit : Option Nat} {notice : Notice}
    (there : notice ∈ upTo limit notices) : notice ∈ notices := by
  cases limit with
  | none => exact there
  | some limit => exact List.mem_of_mem_take there

/-- A read tells of the first events that are unread. -/
theorem tells_upTo_pending (unread : List LifecycleEvent) (limit : Option Nat) :
    spans (upTo limit (pending unread)) ≤ unread.length ∧
      Tells (upTo limit (pending unread)) (unread.take (spans (upTo limit (pending unread)))) := by
  cases limit with
  | some limit => exact tells_take_pending unread limit
  | none =>
    have all := tells_take_pending unread (pending unread).length
    rwa [List.take_length] at all

namespace Lifecycle

variable {lifecycle : Lifecycle}

/-- What a place in the journal leaves unread. -/
def unreadFrom (lifecycle : Lifecycle) (place : Subscription) : List LifecycleEvent :=
  lifecycle.journal.drop place.next

/-- A read yields the first of what is pending, and leaves the rest pending. -/
theorem receive?_eq (lifecycle : Lifecycle) (place : Subscription) :
    match lifecycle.receive? place with
    | none => pending (lifecycle.unreadFrom place) = []
    | some (notice, after) => after.next = place.next + notice.span ∧
        pending (lifecycle.unreadFrom place) = notice :: pending (lifecycle.unreadFrom after) := by
  have length : (lifecycle.unreadFrom place).length = lifecycle.journal.length - place.next :=
    List.length_drop
  unfold receive?
  by_cases gap : place.next < lifecycle.journal.length - capacity
  · have many : capacity < (lifecycle.unreadFrom place).length := by omega
    have missing : (lifecycle.unreadFrom place).length - capacity =
        lifecycle.journal.length - capacity - place.next := by omega
    have rest : lifecycle.unreadFrom ⟨lifecycle.journal.length - capacity⟩ =
        kept (lifecycle.unreadFrom place) := by
      have beyond : place.next + (lifecycle.journal.length - capacity - place.next) =
          lifecycle.journal.length - capacity := by omega
      rw [kept, missing, unreadFrom, unreadFrom, List.drop_drop, beyond]
    have few : (kept (lifecycle.unreadFrom place)).length ≤ capacity := length_kept_le _
    simp only [gap, ↓reduceIte]
    rw [pending_of_lt many, missing, rest, pending_of_le few]
    exact ⟨by rw [Notice.span]; omega, rfl⟩
  · have few : (lifecycle.unreadFrom place).length ≤ capacity := by omega
    simp only [gap, ↓reduceIte]
    rw [pending_of_le few]
    cases here : lifecycle.journal[place.next]? with
    | none =>
      have beyond : lifecycle.journal.length ≤ place.next := List.getElem?_eq_none_iff.mp here
      show (lifecycle.unreadFrom place).map Notice.event = []
      rw [unreadFrom, List.drop_eq_nil_of_le beyond, List.map_nil]
    | some event =>
      obtain ⟨inside, at_place⟩ := List.getElem?_eq_some_iff.mp here
      have split : lifecycle.unreadFrom place = event :: lifecycle.unreadFrom ⟨place.next + 1⟩ := by
        rw [unreadFrom, unreadFrom, List.drop_eq_getElem_cons inside, at_place]
      have fewer : (lifecycle.unreadFrom ⟨place.next + 1⟩).length ≤ capacity := by
        rw [split, List.length_cons] at few
        omega
      show _ ∧ (lifecycle.unreadFrom place).map Notice.event = _
      rw [split, List.map_cons, pending_of_le fewer]
      exact ⟨rfl, rfl⟩

section Reads

-- a single read stays closed here: unfolded, it compares a number with the capacity in unary
attribute [local irreducible] receive?

/-- Some reads are one read, and those that follow it. -/
theorem receive_succ (lifecycle : Lifecycle) (place : Subscription) (limit : Nat) :
    lifecycle.receive place (limit + 1) =
      match lifecycle.receive? place with
      | none => ([], place)
      | some (notice, after) =>
        (notice :: (lifecycle.receive after limit).1, (lifecycle.receive after limit).2) :=
  rfl

/-- Some reads yield the first of what is pending, and go as far as it tells. -/
theorem receive_eq (lifecycle : Lifecycle) (place : Subscription) (limit : Nat) :
    lifecycle.receive place limit = ((pending (lifecycle.unreadFrom place)).take limit,
      ⟨place.next + spans ((pending (lifecycle.unreadFrom place)).take limit)⟩) := by
  induction limit generalizing place with
  | zero =>
    rw [List.take_zero, spans, Nat.add_zero]
    rfl
  | succ limit ih =>
    have next := lifecycle.receive?_eq place
    rw [receive_succ]
    cases read : lifecycle.receive? place with
    | none =>
      rw [read] at next
      rw [next, List.take_nil, spans, Nat.add_zero]
    | some told =>
      obtain ⟨notice, after⟩ := told
      rw [read] at next
      obtain ⟨further, split⟩ := next
      simp only [ih after]
      rw [split, List.take_succ_cons, spans, ← Nat.add_assoc, ← further]

end Reads

/-- All reads yield all that is pending. -/
theorem receiveAll_eq (lifecycle : Lifecycle) (place : Subscription) :
    lifecycle.receiveAll place = (pending (lifecycle.unreadFrom place),
      ⟨place.next + spans (pending (lifecycle.unreadFrom place))⟩) := by
  have enough : (pending (lifecycle.unreadFrom place)).length ≤
      lifecycle.journal.length + 1 - place.next := by
    have length : (lifecycle.unreadFrom place).length = lifecycle.journal.length - place.next :=
      List.length_drop
    by_cases few : (lifecycle.unreadFrom place).length ≤ capacity
    · rw [pending_of_le few, List.length_map]
      omega
    · have many : capacity < (lifecycle.unreadFrom place).length := Nat.not_le.mp few
      have most := length_kept_le (lifecycle.unreadFrom place)
      rw [pending_of_lt many, List.length_cons, List.length_map]
      omega
  rw [receiveAll, receive_eq, List.take_of_length_le enough]

/-- Setting a state some times announces as many changes: the first one starts from the state that
is there, and every later one from the state that was set. -/
theorem journal_repeat_setState (lifecycle : Lifecycle) (name : String) (state : ComponentState)
    (more : Nat) :
    ((more + 1).repeat (·.setState name state) lifecycle).journal = lifecycle.journal ++
      .stateChanged name ((lifecycle.state? name).getD .starting) state ::
        List.replicate more (.stateChanged name state state) := by
  induction more with
  | zero => exact lifecycle.journal_setState_from state
  | succ more ih =>
    have entered : ((more + 1).repeat (·.setState name state) lifecycle).state? name =
        some state := by rw [Nat.repeat, state?_setState, if_pos rfl]
    rw [Nat.repeat, journal_setState_from, ih, entered, List.replicate_succ']
    simp

/-- Announcing an event some times adds it to the journal as often. -/
theorem journal_repeat_notify (lifecycle : Lifecycle) (event : LifecycleEvent) (times : Nat) :
    (times.repeat (·.notify event) lifecycle).journal =
      lifecycle.journal ++ List.replicate times event := by
  induction times with
  | zero => exact (List.append_nil _).symm
  | succ times ih => rw [Nat.repeat, notify, ih, List.replicate_succ', List.append_assoc]

end Lifecycle

namespace Audience

variable {audience other : Audience} {id : String} {base news : List LifecycleEvent}
  {told : List Notice} {action : Audience.Step} {steps : List Audience.Step}

/-- The events that a step sends. -/
def sends (audience : Audience) : Audience.Step → List LifecycleEvent
  | .setState _ _ 0 => []
  | .setState name state (more + 1) =>
    .stateChanged name ((audience.lifecycle.state? name).getD .starting) state ::
      List.replicate more (.stateChanged name state state)
  | .markFailed name _ =>
    [.stateChanged name ((audience.lifecycle.state? name).getD .starting) .failed]
  | .notify event times => List.replicate times event
  | _ => []

/-- What a subscriber reads in a step. -/
def hears (audience : Audience) (id : String) (step : Audience.Step) : List Notice :=
  match step, (audience.step step).2 with
  | .events reader _, .notices (some notices) => if reader = id then notices else []
  | _, _ => []

/-- The audience after steps. -/
def after (audience : Audience) (steps : List Audience.Step) : Audience :=
  steps.foldl (fun audience step => (audience.step step).1) audience

/-- The events that steps send. -/
def sent (audience : Audience) : List Audience.Step → List LifecycleEvent
  | [] => []
  | step :: rest => audience.sends step ++ (audience.step step).1.sent rest

/-- What a subscriber reads in steps. -/
def heard (audience : Audience) (id : String) : List Audience.Step → List Notice
  | [] => []
  | step :: rest => audience.hears id step ++ (audience.step step).1.heard id rest

/-- A step is one by which another subscriber joins, leaves or reads. -/
def Step.isOfOther (id : String) : Audience.Step → Bool
  | .subscribe reader => reader != id
  | .unsubscribe reader => reader != id
  | .events reader _ => reader != id
  | _ => false

/-- What has been sent since a subscriber joined and what it has read of it. -/
structure Attends (audience : Audience) (id : String) (base news : List LifecycleEvent)
    (told : List Notice) : Prop where
  journal : audience.lifecycle.journal = base ++ news
  place : audience.subscribers.lookup id = some ⟨base.length + spans told⟩
  counted : spans told ≤ news.length
  tells : Tells told (news.take (spans told))

/-- A read sends nothing. -/
theorem lifecycle_events (audience : Audience) (reader : String) (limit : Option Nat) :
    (audience.events reader limit).1.lifecycle = audience.lifecycle := by
  unfold events
  split <;> rfl

/-- The events that a step sends are added to the journal. -/
theorem journal_step (audience : Audience) (step : Audience.Step) :
    (audience.step step).1.lifecycle.journal =
      audience.lifecycle.journal ++ audience.sends step := by
  cases step with
  | setState name state times =>
    cases times with
    | zero => exact (List.append_nil _).symm
    | succ more => exact audience.lifecycle.journal_repeat_setState name state more
  | markFailed name error =>
    have failed : (audience.lifecycle.markFailed name error).journal = _ :=
      (audience.lifecycle.blame name error).journal_setState_from .failed
    rw [Lifecycle.state?_blame] at failed
    exact failed
  | notify event times => exact audience.lifecycle.journal_repeat_notify event times
  | events reader limit =>
    show (audience.events reader limit).1.lifecycle.journal = _
    rw [lifecycle_events]
    exact (List.append_nil _).symm
  | _ => exact (List.append_nil _).symm

/-- What a subscriber has not read of the events that were sent since it joined. -/
theorem Attends.unreadFrom (attends : audience.Attends id base news told) :
    audience.lifecycle.unreadFrom ⟨base.length + spans told⟩ = news.drop (spans told) := by
  have beyond : base.length ≤ base.length + spans told := Nat.le_add_right _ _
  have further : base.length + spans told - base.length = spans told := Nat.add_sub_cancel_left _ _
  rw [Lifecycle.unreadFrom, attends.journal, List.drop_append, List.drop_of_length_le beyond,
    List.nil_append]
  exact congrArg (news.drop ·) further

/-- A subscriber that reads is told of the events that are pending for it, as many of them as it
asks for. -/
theorem Attends.events_eq (attends : audience.Attends id base news told) (limit : Option Nat) :
    audience.events id limit =
      ({ audience with
          subscribers := assign id
            ⟨base.length + spans (told ++ upTo limit (pending (news.drop (spans told))))⟩
              audience.subscribers },
        some (upTo limit (pending (news.drop (spans told))))) := by
  unfold Audience.events
  rw [attends.place]
  cases limit with
  | none =>
    simp only [Lifecycle.receiveAll_eq, attends.unreadFrom, upTo, spans_append, Nat.add_assoc]
  | some limit =>
    simp only [Lifecycle.receive_eq, attends.unreadFrom, upTo, spans_append, Nat.add_assoc]

/-- A step that is not a read of the subscriber, and by which it neither joins nor leaves, keeps
its place, and tells it nothing. -/
theorem lookup_step (audience : Audience) (stays : action ≠ .subscribe id ∧ action ≠ .unsubscribe id)
    (no_read : ∀ limit, action ≠ .events id limit) :
    (audience.step action).1.subscribers.lookup id = audience.subscribers.lookup id ∧
      audience.hears id action = [] := by
  cases action with
  | subscribe reader =>
    have differ : id ≠ reader := fun same => stays.1 (same ▸ rfl)
    exact ⟨lookup_assign_of_ne audience.lifecycle.subscribe audience.subscribers differ, rfl⟩
  | unsubscribe reader =>
    have differ : id ≠ reader := fun same => stays.2 (same ▸ rfl)
    exact ⟨lookup_filter_of_ne audience.subscribers differ, rfl⟩
  | events reader limit =>
    have differ : id ≠ reader := fun same => no_read limit (same ▸ rfl)
    have nothing : audience.hears id (.events reader limit) = [] := by
      unfold hears
      split
      · rename_i reader' limit' notices reading _
        have same : reader = reader' := (Step.events.inj reading).1
        rw [if_neg (same ▸ Ne.symm differ)]
      · rfl
    refine ⟨?_, nothing⟩
    show (audience.events reader limit).1.subscribers.lookup id = _
    unfold Audience.events
    split
    · rfl
    · exact lookup_assign_of_ne _ audience.subscribers differ
  | _ => exact ⟨rfl, rfl⟩

/-- A read of a subscriber yields what is pending, as far as it asks. -/
theorem Attends.hears_events (attends : audience.Attends id base news told) (limit : Option Nat) :
    audience.hears id (.events id limit) = upTo limit (pending (news.drop (spans told))) := by
  simp only [hears, Audience.step, attends.events_eq limit, ↓reduceIte]

/-- What a subscriber has been told goes on accounting for what has been sent. -/
theorem Attends.step (attends : audience.Attends id base news told)
    (stays : action ≠ .subscribe id ∧ action ≠ .unsubscribe id) :
    (audience.step action).1.Attends id base (news ++ audience.sends action)
      (told ++ audience.hears id action) := by
  have journal : (audience.step action).1.lifecycle.journal =
      base ++ (news ++ audience.sends action) := by
    rw [journal_step, attends.journal, List.append_assoc]
  by_cases reads : ∃ limit, action = .events id limit
  · obtain ⟨limit, rfl⟩ := reads
    have read := attends.events_eq limit
    have nothing : audience.sends (.events id limit) = [] := rfl
    have new := tells_upTo_pending (news.drop (spans told)) limit
    rw [List.length_drop] at new
    have counted := attends.counted
    have place : (audience.step (.events id limit)).1.subscribers.lookup id =
        some ⟨base.length + spans (told ++ upTo limit (pending (news.drop (spans told))))⟩ := by
      show (audience.events id limit).1.subscribers.lookup id = _
      rw [read]
      exact lookup_assign_self id _ audience.subscribers
    rw [nothing, List.append_nil] at journal ⊢
    rw [attends.hears_events limit]
    refine ⟨journal, place, ?_, ?_⟩
    · rw [spans_append]
      omega
    · rw [spans_append, List.take_add]
      exact attends.tells.append new.2
  · have quiet := audience.lookup_step stays fun limit same => reads ⟨limit, same⟩
    have longer : spans told ≤ (news ++ audience.sends action).length := by
      rw [List.length_append]
      exact Nat.le_add_right_of_le attends.counted
    rw [quiet.2, List.append_nil]
    refine ⟨journal, quiet.1.trans attends.place, longer, ?_⟩
    rw [List.take_append_of_le_length attends.counted]
    exact attends.tells

/-- What a subscriber is told in a run accounts for what is sent in it. -/
theorem Attends.after (attends : audience.Attends id base news told)
    (stays : ∀ step ∈ steps, step ≠ .subscribe id ∧ step ≠ .unsubscribe id) :
    (audience.after steps).Attends id base (news ++ audience.sent steps)
      (told ++ audience.heard id steps) := by
  induction steps generalizing audience news told with
  | nil => simpa only [sent, heard, List.append_nil, Audience.after, List.foldl_nil] using attends
  | cons action rest ih =>
    have first := attends.step (stays action List.mem_cons_self)
    have later := ih first fun next there => stays next (List.mem_cons_of_mem _ there)
    rw [sent, heard, ← List.append_assoc, ← List.append_assoc]
    exact later

/-- A subscriber that is never further behind than events are kept is never told that some are
missing. -/
theorem Attends.keeps_up (attends : audience.Attends id base news told)
    (stays : ∀ step ∈ steps, step ≠ .subscribe id ∧ step ≠ .unsubscribe id)
    (close : ∀ early, early <+: steps → (news ++ audience.sent early).length ≤
      spans (told ++ audience.heard id early) + Lifecycle.capacity) (missed : Nat) :
    .lagged missed ∉ audience.heard id steps := by
  induction steps generalizing audience news told with
  | nil => exact List.not_mem_nil
  | cons action rest ih =>
    have first := attends.step (stays action List.mem_cons_self)
    have later : .lagged missed ∉ (audience.step action).1.heard id rest := by
      refine ih first (fun next there => stays next (List.mem_cons_of_mem _ there)) ?_
      intro early inside
      have close := close (action :: early) (List.cons_prefix_cons.mpr ⟨rfl, inside⟩)
      rwa [sent, heard, ← List.append_assoc, ← List.append_assoc] at close
    have now : .lagged missed ∉ audience.hears id action := by
      have close := close [] List.nil_prefix
      rw [sent, heard, List.append_nil, List.append_nil] at close
      by_cases reads : ∃ limit, action = .events id limit
      · obtain ⟨limit, rfl⟩ := reads
        have few : (news.drop (spans told)).length ≤ Lifecycle.capacity := by
          rw [List.length_drop]
          omega
        rw [attends.hears_events limit, pending_of_le few]
        intro there
        have single := mem_of_mem_upTo there
        rw [List.mem_map] at single
        obtain ⟨event, inside, differ⟩ := single
        cases differ
      · have quiet := audience.lookup_step (stays action List.mem_cons_self)
          fun limit same => reads ⟨limit, same⟩
        rw [quiet.2]
        exact List.not_mem_nil
    rw [heard, List.mem_append]
    exact not_or.mpr ⟨now, later⟩

/-- Two audiences are alike for a subscriber: the same lifecycle, and the same place in it. -/
structure Alike (id : String) (audience other : Audience) : Prop where
  lifecycle : audience.lifecycle = other.lifecycle
  place : audience.subscribers.lookup id = other.subscribers.lookup id

/-- Where audiences are alike for a subscriber, a read of it goes the same way. -/
theorem Alike.events (alike : Alike id audience other) (limit : Option Nat) :
    Alike id (audience.events id limit).1 (other.events id limit).1 ∧
      (audience.events id limit).2 = (other.events id limit).2 := by
  unfold Audience.events
  rw [alike.lifecycle, alike.place]
  cases other.subscribers.lookup id with
  | none => exact ⟨alike, rfl⟩
  | some place =>
    refine ⟨⟨rfl, ?_⟩, rfl⟩
    exact (lookup_assign_self id _ audience.subscribers).trans
      (lookup_assign_self id _ other.subscribers).symm

/-- A step by which another subscriber joins, leaves or reads sends nothing, and is not seen by
the subscriber. -/
theorem step_of_other (audience : Audience) (others : action.isOfOther id = true) :
    Alike id (audience.step action).1 audience ∧ audience.sends action = [] ∧
      audience.hears id action = [] := by
  have stays : action ≠ .subscribe id ∧ action ≠ .unsubscribe id := by
    constructor <;> rintro rfl <;> simp [Step.isOfOther] at others
  have no_read : ∀ limit, action ≠ .events id limit := by
    rintro limit rfl
    simp [Step.isOfOther] at others
  have quiet := audience.lookup_step stays no_read
  have silent : audience.sends action = [] := by
    cases action <;> first | rfl | simp [Step.isOfOther] at others
  have unchanged : (audience.step action).1.lifecycle = audience.lifecycle := by
    cases action with
    | subscribe reader => rfl
    | unsubscribe reader => rfl
    | events reader limit => exact audience.lifecycle_events reader limit
    | _ => simp [Step.isOfOther] at others
  exact ⟨⟨unchanged, quiet.1⟩, silent, quiet.2⟩

/-- A step that is not of another subscriber goes the same way in audiences that are alike. -/
theorem Alike.step (alike : Alike id audience other) (own : action.isOfOther id = false) :
    Alike id (audience.step action).1 (other.step action).1 ∧
      audience.sends action = other.sends action ∧ audience.hears id action = other.hears id action := by
  have sends : audience.sends action = other.sends action := by
    cases action <;> simp only [Audience.sends, alike.lifecycle]
  cases action with
  | subscribe reader =>
    have same : reader = id := by simpa [Step.isOfOther] using own
    subst same
    refine ⟨⟨alike.lifecycle, ?_⟩, sends, rfl⟩
    show (assign reader _ audience.subscribers).lookup reader =
      (assign reader _ other.subscribers).lookup reader
    rw [lookup_assign_self, lookup_assign_self, alike.lifecycle]
  | unsubscribe reader =>
    have same : reader = id := by simpa [Step.isOfOther] using own
    subst same
    refine ⟨⟨alike.lifecycle, ?_⟩, sends, rfl⟩
    exact (lookup_filter_self reader audience.subscribers).trans
      (lookup_filter_self reader other.subscribers).symm
  | events reader limit =>
    have same : reader = id := by simpa [Step.isOfOther] using own
    subst same
    obtain ⟨after, notices⟩ := alike.events limit
    refine ⟨after, sends, ?_⟩
    simp only [hears, Audience.step, notices]
  | _ =>
    refine ⟨⟨?_, alike.place⟩, sends, rfl⟩
    simp only [Audience.step, repeatedly, alike.lifecycle]

/-- Without the steps of the others the same is sent, and the subscriber reads the same. -/
theorem Alike.without_others (alike : Alike id audience other) :
    audience.sent steps = other.sent (steps.filter (!·.isOfOther id)) ∧
      audience.heard id steps = other.heard id (steps.filter (!·.isOfOther id)) := by
  induction steps generalizing audience other with
  | nil => exact ⟨rfl, rfl⟩
  | cons action rest ih =>
    cases others : action.isOfOther id with
    | true =>
      obtain ⟨same, silent, quiet⟩ := audience.step_of_other others
      have unseen : Alike id (audience.step action).1 other :=
        ⟨same.lifecycle.trans alike.lifecycle, same.place.trans alike.place⟩
      rw [List.filter_cons_of_neg (by simp [others]), sent, heard, silent, quiet]
      exact ih unseen
    | false =>
      obtain ⟨same, sends, hears⟩ := alike.step others
      rw [List.filter_cons_of_pos (by simp [others]), sent, heard, sent, heard, sends, hears,
        (ih same).1, (ih same).2]
      exact ⟨rfl, rfl⟩

/-- From the moment on at which a subscriber joins and as long as it stays, what it has read tells
of the events sent since, in their order and up to its place, each of them once or counted among
those missing at its place. What it reads next is pending: the last 64 of the unread events, and
before them the number of the others. Never further behind than that, it is never told of missing
events, and without the joining, leaving and reading of the others it reads the same. -/
theorem subscriber_accounts (start : Audience) (id : String) (steps : List Audience.Step)
    (stays : ∀ step ∈ steps, step ≠ .subscribe id ∧ step ≠ .unsubscribe id) :
    let joined := (start.step (.subscribe id)).1
    let sent := joined.sent steps
    let heard := joined.heard id steps
    let unread := sent.drop (spans heard)
    (joined.after steps).lifecycle.journal = start.lifecycle.journal ++ sent ∧
      spans heard ≤ sent.length ∧ Tells heard (sent.take (spans heard)) ∧
      (∀ limit, ((joined.after steps).events id limit).2 = some (upTo limit (pending unread))) ∧
      kept unread <:+ sent ∧ (kept unread).length ≤ 64 ∧
      ((∀ early, early <+: steps →
          (joined.sent early).length ≤ spans (joined.heard id early) + 64) →
        ∀ missed, .lagged missed ∉ heard) ∧
      sent = joined.sent (steps.filter (!·.isOfOther id)) ∧
      heard = joined.heard id (steps.filter (!·.isOfOther id)) := by
  intro joined sent heard unread
  have attends : joined.Attends id start.lifecycle.journal [] [] := by
    refine ⟨(List.append_nil _).symm, ?_, Nat.le_refl _, .nothing⟩
    exact lookup_assign_self id start.lifecycle.subscribe start.subscribers
  have now : (joined.after steps).Attends id start.lifecycle.journal sent heard :=
    attends.after stays
  have suffix : kept unread <:+ sent :=
    (List.drop_suffix _ _).trans (List.drop_suffix _ _)
  have alone : Alike id joined joined := ⟨rfl, rfl⟩
  refine ⟨now.journal, now.counted, now.tells, ?_, suffix, length_kept_le unread, ?_,
    alone.without_others.1, alone.without_others.2⟩
  · intro limit
    rw [now.events_eq limit]
  · intro close missed
    exact attends.keeps_up stays close missed

/-- A subscriber that is two events too late is told of the two, then of the first one that is
kept, and then, with one more event sent in between, of one more missing. -/
theorem late_subscriber_accounts :
    let steps : List Audience.Step :=
      [.notify .shutdownInitiated 66, .subscribe "other", .events "late" (some 2),
        .notify (.shutdownCompleted 0) 2, .events "other" none, .events "late" (some 2)]
    let joined := ((⟨.new "test", []⟩ : Audience).step (.subscribe "late")).1
    let heard : List Notice := [.lagged 2, .event .shutdownInitiated, .lagged 1,
      .event .shutdownInitiated]
    (∀ step ∈ steps, step ≠ .subscribe "late" ∧ step ≠ .unsubscribe "late") ∧
      joined.heard "late" steps = heard ∧ spans heard = 5 ∧
      Tells heard ((joined.sent steps).take 5) ∧
      joined.heard "late" (steps.filter (!·.isOfOther "late")) = heard := by
  intro steps joined heard
  have stays : ∀ step ∈ steps, step ≠ .subscribe "late" ∧ step ≠ .unsubscribe "late" := by
    simp [steps]
  have read : joined.heard "late" steps = heard := by decide +kernel
  have account := subscriber_accounts ⟨.new "test", []⟩ "late" steps stays
  have tells := account.2.2.1
  have alone := account.2.2.2.2.2.2.2.2
  rw [read] at tells alone
  exact ⟨stays, read, rfl, tells, alone.symm⟩

end Audience

end ClusterGateway
