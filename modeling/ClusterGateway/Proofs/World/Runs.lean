import ClusterGateway.World.Moves
import Mathlib.Data.List.Induction

/-!
# Runs

A run is a list of moves that are open one after the other. What holds at its start and is
kept by every open move holds of all the worlds it goes through; what depends on the moves made
so far, too, is shown move by move (`run_induction`).
-/

namespace ClusterGateway.World

/-- A run from a world goes through another. -/
def Visits (start : World) (moves : List Move) (world : World) : Prop :=
  ∃ early late, moves = early ++ late ∧ start.play? early = some world

/-- What every open move keeps holds at the end of a run. -/
theorem play?_keeps {P : World → Prop}
    (step : ∀ world move, P world → world.isOpen move = true → P (world.apply move))
    {start last : World} {moves : List Move} (holds : P start)
    (played : start.play? moves = some last) : P last := by
  induction moves generalizing start with
  | nil =>
    obtain rfl := Option.some.inj played
    exact holds
  | cons move rest ih =>
    unfold play? at played
    split at played
    · rename_i free
      exact ih (step start move holds free) played
    · simp at played

/-- What every open move keeps holds of every reachable world. -/
theorem Reaches.keeps {P : World → Prop}
    (step : ∀ world move, P world → world.isOpen move = true → P (world.apply move))
    {start last : World} (holds : P start) (reaches : start.Reaches last) : P last := by
  obtain ⟨moves, played⟩ := reaches
  exact play?_keeps step holds played

/-- Distinct gateways may be shut down at any time. -/
theorem isOpen_shutdown (world : World) {sites : List SiteId} (distinct : sites.Nodup)
    (logged : Bool) : world.isOpen (.shutdown sites logged) = true := by
  simpa [isOpen] using distinct

/-- Nobody makes or cancels a call: a task runs, or time passes. -/
inductive Unattended : Move → Prop
  | resume (task : TaskId) : Unattended (.resume task)
  | pass (moment : Nat) : Unattended (.pass moment)

/-- What tasks that run and time that passes keep holds when the world has been left to run. -/
theorem runFor_keeps {P : World → Prop}
    (step : ∀ world move, P world → world.isOpen move = true → Unattended move →
      P (world.apply move))
    (limit : Option Nat) (foreground : Option TaskId) (fuel : Nat) {world : World}
    (holds : P world) : P (runFor limit foreground fuel world) := by
  induction fuel generalizing world with
  | zero => exact holds
  | succ fuel ih =>
    unfold runFor
    split
    · rename_i task picked
      have free : world.isOpen (.resume task) = true := by
        simpa [isOpen] using mem_ready_of_pick? picked
      exact ih (step world (.resume task) holds free (.resume task))
    · rename_i nobody
      split
      · exact holds
      · split
        · rename_i due next
          split
          · have free : world.isOpen (.pass due) = true :=
              mayPass_of_nextDue? (ready_eq_nil_of_pick? nobody) next
            exact ih (step world (.pass due) holds free (.pass due))
          · exact holds
        · exact holds

/-- A run goes through its end. -/
theorem visits_last {start last : World} {moves : List Move}
    (played : start.play? moves = some last) : start.Visits moves last :=
  ⟨moves, [], (List.append_nil moves).symm, played⟩

/-- What a run goes through can be reached. -/
theorem Visits.reaches {start world : World} {moves : List Move}
    (visits : start.Visits moves world) : start.Reaches world := by
  obtain ⟨early, -, -, played⟩ := visits
  exact ⟨early, played⟩

/-- A run is either over, or its last move was open in a world it goes through. -/
theorem play?_concat {start last : World} {moves : List Move} {move : Move}
    (played : start.play? (moves ++ [move]) = some last) : ∃ world,
      start.play? moves = some world ∧ world.isOpen move = true ∧ last = world.apply move := by
  rw [play?_append] at played
  cases before : start.play? moves with
  | none => simp [before] at played
  | some world =>
    simp only [before, Option.bind_some, play?] at played
    split at played
    · rename_i free
      exact ⟨world, rfl, free, (Option.some.inj played).symm⟩
    · simp at played

/-- A run goes on with a move that is open where it has led to. -/
theorem play?_append_singleton {start world : World} {moves : List Move} {move : Move}
    (played : start.play? moves = some world) (free : world.isOpen move = true) :
    start.play? (moves ++ [move]) = some (world.apply move) := by
  rw [play?_append, played, Option.bind_some, play?, if_pos free, play?]

/-- Induction on a run, one move after the other, with the moves that were made so far. -/
theorem run_induction {start : World}
    {motive : (moves : List Move) → (last : World) → start.play? moves = some last → Prop}
    (nil : motive [] start rfl)
    (concat : ∀ moves world move (first : start.play? moves = some world)
      (free : world.isOpen move = true), motive moves world first →
        motive (moves ++ [move]) (world.apply move) (play?_append_singleton first free))
    (moves : List Move) (last : World) (played : start.play? moves = some last) :
    motive moves last played := by
  induction moves using List.reverseRecOn generalizing last with
  | nil =>
    obtain rfl := Option.some.inj played
    exact nil
  | append_singleton moves move ih =>
    obtain ⟨world, first, free, rfl⟩ := play?_concat played
    exact concat moves world move first free (ih world first)

/-- In a run a move is made in a world. -/
def Makes (start : World) (moves : List Move) (move : Move) (world : World) : Prop :=
  ∃ early late, moves = early ++ move :: late ∧ start.play? early = some world

/-- The last move of a run is made at its end. -/
theorem makes_last {start world : World} {moves : List Move} (move : Move)
    (played : start.play? moves = some world) : start.Makes (moves ++ [move]) move world :=
  ⟨moves, [], rfl, played⟩

/-- A move that is made in a run is made in a longer one. -/
theorem Makes.concat {start world : World} {moves : List Move} {move : Move}
    (makes : start.Makes moves move world) (other : Move) :
    start.Makes (moves ++ [other]) move world := by
  obtain ⟨early, late, rfl, played⟩ := makes
  exact ⟨early, late ++ [other], by simp, played⟩

/-- A move that is made in a run was open, and leads on to the end of the run. -/
theorem Makes.free {start world last : World} {moves : List Move} {move : Move}
    (makes : start.Makes moves move world) (played : start.play? moves = some last) :
    start.Reaches world ∧ world.isOpen move = true ∧ (world.apply move).Reaches last := by
  obtain ⟨early, late, rfl, first⟩ := makes
  rw [play?_append, first, Option.bind_some, play?] at played
  split at played
  · rename_i free
    exact ⟨⟨early, first⟩, free, ⟨late, played⟩⟩
  · simp at played

/-- A move that is made in a run is its last one, or is made before that. -/
theorem Makes.of_concat {start world last : World} {moves : List Move} {move other : Move}
    (played : start.play? moves = some last) (makes : start.Makes (moves ++ [other]) move world) :
    move = other ∧ world = last ∨ start.Makes moves move world := by
  obtain ⟨early, late, split, first⟩ := makes
  rcases List.eq_nil_or_concat late with rfl | ⟨shorter, final, rfl⟩
  · obtain ⟨rfl, same⟩ := List.append_inj' split rfl
    obtain rfl := (List.cons.inj same).1
    exact .inl ⟨rfl, Option.some.inj (first.symm.trans played)⟩
  · rw [List.concat_eq_append, ← List.cons_append, ← List.append_assoc] at split
    obtain ⟨rfl, -⟩ := List.append_inj' split rfl
    exact .inr ⟨early, shorter, rfl, first⟩

/-- What the moves of a run bring, in their order. -/
def chronicle {α : Type} (brings : World → Move → List α) (world : World) : List Move → List α
  | [] => []
  | move :: moves => brings world move ++ (world.apply move).chronicle brings moves

/-- What a longer run brings. -/
theorem chronicle_concat {α : Type} (brings : World → Move → List α) {start world : World}
    {moves : List Move} (played : start.play? moves = some world) (move : Move) :
    start.chronicle brings (moves ++ [move]) =
      start.chronicle brings moves ++ brings world move := by
  induction moves generalizing start with
  | nil =>
    obtain rfl := Option.some.inj played
    simp [chronicle]
  | cons first rest ih =>
    simp only [play?, Option.ite_none_right_eq_some] at played
    rw [List.cons_append, chronicle, chronicle, ih played.2, List.append_assoc]

/-- What is made of all that a run brings is what is made of it move by move. -/
theorem map_chronicle {α β : Type} (make : α → β) (brings : World → Move → List α) (world : World)
    (moves : List Move) : (world.chronicle brings moves).map make =
      world.chronicle (fun world move => (brings world move).map make) moves := by
  induction moves generalizing world with
  | nil => rfl
  | cons move rest ih => rw [chronicle, chronicle, List.map_append, ih]

/-- What a run brings is brought by one of its moves. -/
theorem mem_chronicle {α : Type} {brings : World → Move → List α} {start last : World}
    {moves : List Move} (played : start.play? moves = some last) {entry : α} :
    entry ∈ start.chronicle brings moves ↔
      ∃ move world, start.Makes moves move world ∧ entry ∈ brings world move := by
  induction moves, last, played using run_induction with
  | nil =>
    constructor
    · intro there
      exact absurd there List.not_mem_nil
    · rintro ⟨move, world, ⟨early, late, split, -⟩, -⟩
      simp at split
  | concat moves world move first _ ih =>
    rw [chronicle_concat brings first move, List.mem_append, ih]
    constructor
    · rintro (⟨earlier, before, makes, brought⟩ | brought)
      · exact ⟨earlier, before, makes.concat move, brought⟩
      · exact ⟨move, world, makes_last move first, brought⟩
    · rintro ⟨other, before, makes, brought⟩
      obtain ⟨rfl, rfl⟩ | earlier := makes.of_concat first
      · exact .inr brought
      · exact .inl ⟨other, before, earlier, brought⟩

/-- What holds at the start of a run, and is kept by each of its moves, holds of all the
worlds that it goes through. -/
theorem Visits.keeps {P : World → Prop} {start world : World} {moves : List Move}
    (step : ∀ early move late before, moves = early ++ move :: late →
      start.play? early = some before → before.isOpen move = true → P before →
        P (before.apply move))
    (holds : P start) (visits : start.Visits moves world) : P world := by
  obtain ⟨early, late, rfl, played⟩ := visits
  induction early, world, played using run_induction generalizing late with
  | nil => exact holds
  | concat early before move first free ih =>
    have same : early ++ [move] ++ late = early ++ move :: late := by simp
    refine step early move late before same first free ?_
    refine ih (move :: late) ?_
    rw [← same]
    exact step

end ClusterGateway.World
