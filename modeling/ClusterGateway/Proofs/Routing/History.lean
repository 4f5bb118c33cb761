import ClusterGateway.Scenario.Switchboard
import Mathlib.Data.List.Dedup

/-!
# What the past of a switchboard says

A switchboard is determined by the steps that were taken at it. The functions of this module
read off those steps, without a table and without buffers, which session a key was last routed
to, whether it is still open, and which of the offsets that it accepted have not been read.
-/

namespace ClusterGateway

namespace Switchboard

/-- Steps that have been taken, the latest first. -/
abbrev History := List Switchboard.Step

namespace History

/-- How many sessions have been opened. -/
def opened : History → Nat
  | [] => 0
  | .openSession _ _ :: past => opened past + 1
  | _ :: past => opened past

/-- The session that was last opened under a name. -/
def holder? (name : String) : History → Option SessionId
  | [] => none
  | .openSession other _ :: past => if other = name then some (opened past) else holder? name past
  | _ :: past => holder? name past

/-- The name and the capacity with which a session was opened. -/
def opening? (number : SessionId) : History → Option (String × Nat)
  | [] => none
  | .openSession name capacity :: past =>
    if opened past = number then some (name, capacity) else opening? number past
  | _ :: past => opening? number past

/-- A session has been closed: by its name, or because another one was opened under it. -/
def isClosed (number : SessionId) : History → Bool
  | [] => false
  | .openSession name _ :: past => holder? name past == some number || isClosed number past
  | .close name :: past => holder? name past == some number || isClosed number past
  | _ :: past => isClosed number past

/-- The session that a key was last routed to. -/
def routed? (key : RoutingKey) : History → Option SessionId
  | [] => none
  | .insert name other :: past =>
    if other = key then (holder? name past).or (routed? key past) else routed? key past
  | _ :: past => routed? key past

/-- The keys that have been routed to sessions. -/
def keys : History → List RoutingKey
  | [] => []
  | .insert name key :: past =>
    if (holder? name past).isSome then key :: keys past else keys past
  | _ :: past => keys past

/-- A session that can hold some offsets and holds some: it takes one more while it is open and
not full. -/
def admits (number : SessionId) (unread : List Int64) (past : History) : Bool :=
  !isClosed number past && (opening? number past).any (unread.length < ·.2)

/-- The offsets that a session has accepted since it was last read: those that were sent by a key
that was routed to it then, while it was open and not full. -/
def unread (number : SessionId) : History → List Int64
  | [] => []
  | .send key offset :: past =>
    if routed? key past = some number ∧ admits number (unread number past) past = true then
      unread number past ++ [offset]
    else unread number past
  | .read name :: past =>
    if holder? name past = some number ∧ isClosed number past = false then []
    else unread number past
  | _ :: past => unread number past

/-- All offsets that a session has accepted. -/
def accepted (number : SessionId) : History → List Int64
  | [] => []
  | .send key offset :: past =>
    if routed? key past = some number ∧ admits number (unread number past) past = true then
      accepted number past ++ [offset]
    else accepted number past
  | _ :: past => accepted number past

/-- All offsets that have been read from a session. -/
def taken (number : SessionId) : History → List Int64
  | [] => []
  | .read name :: past =>
    if holder? name past = some number ∧ isClosed number past = false then
      taken number past ++ unread number past
    else taken number past
  | _ :: past => taken number past

/-- How an offer to a session ends. -/
def attempt (number : SessionId) (past : History) : SendAttempt :=
  if isClosed number past then .closed
  else if admits number (unread number past) past then .accepted
  else .full

/-- What a step tells after the steps before it. -/
def report (past : History) : Switchboard.Step → Report
  | .openSession _ _ => .nothing
  | .insert name key => .size (keys (.insert name key :: past)).dedup.length
  | .get key => .route ((routed? key past).bind fun number =>
      (opening? number past).map fun opening => (opening.1, isClosed number past))
  | .send key _ => .sent ((routed? key past).map fun number => attempt number past)
  | .read name => .offsets ((holder? name past).bind fun number =>
      if isClosed number past then none else some (unread number past))
  | .close _ => .nothing
  | .size => .size (keys past).dedup.length

/-- What steps tell, one after the other. -/
def reports (past : History) : List Switchboard.Step → List Report
  | [] => []
  | step :: rest => report past step :: reports (step :: past) rest

variable {past : History} {number : SessionId} {name : String} {key : RoutingKey}

/-- A name stands for a session that has been opened. -/
theorem holder?_lt (held : holder? name past = some number) : number < opened past := by
  induction past with
  | nil => simp [holder?] at held
  | cons step past ih =>
    cases step with
    | openSession other capacity =>
      rw [holder?] at held
      split at held
      · have last : opened past = number := Option.some.inj held
        exact last ▸ Nat.lt_succ_self (opened past)
      · exact Nat.lt_succ_of_lt (ih held)
    | _ => exact ih held

/-- A key is routed to a session that has been opened. -/
theorem routed?_lt (routed : routed? key past = some number) : number < opened past := by
  induction past with
  | nil => simp [routed?] at routed
  | cons step past ih =>
    cases step with
    | openSession other capacity => exact Nat.lt_succ_of_lt (ih routed)
    | insert name other =>
      rw [routed?] at routed
      split at routed
      · cases held : holder? name past with
        | none =>
          rw [held, Option.none_or] at routed
          exact ih routed
        | some holder =>
          rw [held, Option.some_or] at routed
          exact holder?_lt (held.trans routed)
      · exact ih routed
    | _ => exact ih routed

/-- A key is routed to a session exactly if it has been inserted. -/
theorem isSome_routed?_iff (past : History) (key : RoutingKey) :
    (routed? key past).isSome = true ↔ key ∈ keys past := by
  induction past with
  | nil => simp [routed?, keys]
  | cons step past ih =>
    cases step with
    | insert name other =>
      rw [routed?, keys]
      cases held : holder? name past with
      | none => simpa using ih
      | some holder =>
        by_cases same : other = key
        · simp [same]
        · have differ : key ≠ other := Ne.symm same
          simp only [same, ↓reduceIte, Option.isSome_some, List.mem_cons, differ, false_or]
          exact ih
    | _ => exact ih

/-- Keys are never forgotten. -/
theorem length_keys_le (past : History) (step : Switchboard.Step) :
    (keys past).dedup.length ≤ (keys (step :: past)).dedup.length := by
  cases step with
  | insert name key =>
    rw [keys]
    split
    · by_cases known : key ∈ keys past
      · exact Nat.le_of_eq (congrArg List.length (List.dedup_cons_of_mem known).symm)
      · rw [List.dedup_cons_of_notMem known, List.length_cons]
        exact Nat.le_succ _
    · exact Nat.le_refl _
  | _ => exact Nat.le_refl _

/-- What a session has accepted has been read from it, once, or is still unread. -/
theorem taken_append_unread (past : History) (number : SessionId) :
    taken number past ++ unread number past = accepted number past := by
  induction past with
  | nil => rfl
  | cons step past ih =>
    cases step with
    | send key offset =>
      simp only [taken, unread, accepted]
      split
      · rw [← List.append_assoc, ih]
      · exact ih
    | read name =>
      simp only [taken, unread, accepted]
      split
      · rw [List.append_nil, ih]
      · exact ih
    | _ => exact ih

/-- Only a session that has been opened can be closed. -/
theorem lt_of_isClosed (ended : isClosed number past = true) : number < opened past := by
  induction past with
  | nil => simp [isClosed] at ended
  | cons step past ih =>
    cases step with
    | openSession other capacity =>
      rw [isClosed, Bool.or_eq_true, beq_iff_eq] at ended
      exact Nat.lt_succ_of_lt (ended.elim holder?_lt ih)
    | close other =>
      rw [isClosed, Bool.or_eq_true, beq_iff_eq] at ended
      exact ended.elim holder?_lt ih
    | _ => exact ih ended

/-- A session that is still open is the one that its name stands for. -/
theorem holder?_of_open {capacity : Nat} (opening : opening? number past = some (name, capacity))
    (is_open : isClosed number past = false) : holder? name past = some number := by
  induction past with
  | nil => simp [opening?] at opening
  | cons step past ih =>
    cases step with
    | openSession other room =>
      rw [isClosed, Bool.or_eq_false_iff, beq_eq_false_iff_ne] at is_open
      rw [opening?] at opening
      rw [holder?]
      split at opening
      · rename_i last
        have same : other = name := congrArg Prod.fst (Option.some.inj opening)
        rw [if_pos same, last]
      · have held := ih opening is_open.2
        have differ : other ≠ name := fun same => is_open.1 (same ▸ held)
        rw [if_neg differ, held]
    | close other =>
      rw [isClosed, Bool.or_eq_false_iff] at is_open
      exact ih opening is_open.2
    | _ => exact ih opening is_open

/-- A session that has not been opened has accepted nothing. -/
theorem accepted_of_le (unopened : opened past ≤ number) : accepted number past = [] := by
  induction past with
  | nil => rfl
  | cons step past ih =>
    cases step with
    | openSession other capacity => exact ih (Nat.le_of_succ_le unopened)
    | send key offset =>
      have elsewhere : routed? key past ≠ some number := fun routed =>
        absurd (routed?_lt routed) (Nat.not_lt.mpr unopened)
      simp only [accepted, elsewhere, false_and, ↓reduceIte]
      exact ih unopened
    | _ => exact ih unopened

/-- A session that has not been opened has nothing to be read. -/
theorem unread_of_le (unopened : opened past ≤ number) : unread number past = [] := by
  have all := taken_append_unread past number
  rw [accepted_of_le unopened] at all
  exact (List.append_eq_nil_iff.mp all).2

end History

end Switchboard

end ClusterGateway
