import ClusterGateway.Proofs.Shutdown.Alone
import ClusterGateway.Proofs.Shutdown.Moves

/-!
# The order of the stops along a run

Main statement: `keepsOrder_iff`. Along a run from the opening of the gateways, with any
calls at any time, the components of a gateway stop in their order exactly if no shutdown
goes past a component that is still stopping; and shutdowns that run one after the other
keep the order. Shutdowns that overlap do not: `overlapping_stops_break_order`.
-/

namespace ClusterGateway.World

variable {start world : World} {moves : List Move} {site : SiteId}

/-- A shutdown of a gateway begins only while every other one has not begun, or is over. -/
def StartsAlone (world : World) (site : SiteId) (move : Move) : Prop :=
  ∀ task, move = .resume task → (world.ledger site).Alone task

/-- The shutdowns of a gateway run one after the other. -/
def OneByOne (start : World) (site : SiteId) (moves : List Move) : Prop :=
  ∀ early move late, moves = early ++ move :: late →
    ∀ world, start.play? early = some world → world.StartsAlone site move

/-- What is known of a gateway at all times, when no stop breaks down. -/
structure Orderly (site : SiteId) (world : World) : Prop where
  sound : world.Sound
  sturdy : world.script.stopFaults = []
  inside : site < world.sites.length
  consistent : (world.ledger site).Consistent

/-- What is known of a gateway stays known. -/
theorem Orderly.apply (orderly : world.Orderly site) {move : Move}
    (free : world.isOpen move = true) :
    (world.apply move).Orderly site ∧
      Ledger.Change (world.ledger site) ((world.apply move).ledger site) := by
  obtain ⟨sound, sturdy, inside, consistent⟩ := orderly
  obtain ⟨script, length⟩ := apply_fields sound move
  have change : Ledger.Change (world.ledger site) ((world.apply move).ledger site) := by
    rcases ledger_apply_cases sound free inside (fun faulty => faulty sturdy) with
      ⟨me, -, strides⟩ | ⟨task, new, other, same⟩ | ⟨task, progress, there, same⟩ | same
    · exact .steps me (Ledger.steps_of_strides strides)
    · rw [same]
      exact .call new other
    · rw [same]
      exact .drop there
    · rw [same]
      exact .steps 0 .refl
  exact ⟨⟨sound.apply free, script ▸ sturdy, length.symm ▸ inside, consistent.change change⟩,
    change⟩

/-- The teardown of an untouched gateway in a world without tasks: everything is held, nothing has
begun. -/
theorem ledger_of_untouched (idle : world.tasks = []) {place : Site}
    (there : world.sites[site]? = some place) (untouched : Site.Untouched place) :
    (∀ component, (world.ledger site).holds component = true) ∧
      (world.ledger site).lines = [] ∧ (∀ task, (world.ledger site).stops task = none) ∧
        ∀ task, (world.ledger site).shutdowns task = none := by
  refine ⟨?_, ?_, ?_, ?_⟩
  · intro component
    simp [World.ledger, there, untouched.holds component]
  · simp [World.ledger, there, untouched.broker]
  · simp [World.ledger, idle]
  · simp [World.ledger, idle]

/-- The teardown of a gateway that was just opened: everything is held, nothing has begun. -/
theorem Opened.ledger (opened : start.Opened) (inside : site < start.sites.length) :
    (∀ component, (start.ledger site).holds component = true) ∧
      (start.ledger site).lines = [] ∧ (∀ task, (start.ledger site).stops task = none) ∧
        ∀ task, (start.ledger site).shutdowns task = none := by
  obtain ⟨tasks, -, -, sites⟩ := opened.untouched
  exact ledger_of_untouched tasks (List.getElem?_eq_getElem inside)
    (sites start.sites[site] (List.getElem_mem inside))

/-- An untouched gateway in a world without tasks is orderly. -/
theorem orderly_of_untouched (sturdy : world.script.stopFaults = []) (idle : world.tasks = [])
    {place : Site} (there : world.sites[site]? = some place) (untouched : Site.Untouched place) :
    world.Orderly site := by
  obtain ⟨holds, lines, stops, shutdowns⟩ := ledger_of_untouched idle there untouched
  exact ⟨sound_of_idle idle, sturdy, (List.getElem?_eq_some_iff.mp there).1,
    Ledger.consistent_of_whole holds lines stops shutdowns⟩

/-- A gateway that was just opened is orderly. -/
theorem Opened.orderly (opened : start.Opened) (sturdy : start.script.stopFaults = [])
    (inside : site < start.sites.length) : start.Orderly site := by
  obtain ⟨tasks, -, -, sites⟩ := opened.untouched
  exact orderly_of_untouched sturdy tasks (List.getElem?_eq_getElem inside)
    (sites start.sites[site] (List.getElem_mem inside))

/-- At an untouched gateway in a world without tasks no shutdown goes on. -/
theorem single_of_untouched (idle : world.tasks = []) {place : Site}
    (there : world.sites[site]? = some place) (untouched : Site.Untouched place) :
    (world.ledger site).Single := by
  obtain ⟨holds, lines, stops, shutdowns⟩ := ledger_of_untouched idle there untouched
  exact {
    one := fun first second early late there => by simp [shutdowns] at there
    owned := fun stop entry there => by simp [stops] at there
    mine := fun task progress stop entry there => by simp [shutdowns] at there
    runs := fun component _ running => by simp [Ledger.InProgress, lines, Begun] at running
    closes := fun component _ running => by simp [Ledger.InProgress, lines, Begun] at running
    closer := fun task progress component there => by simp [shutdowns] at there
    complete := fun task there => by simp [shutdowns] at there }

/-- At a gateway that was just opened no shutdown goes on. -/
theorem Opened.single (opened : start.Opened) (inside : site < start.sites.length) :
    (start.ledger site).Single := by
  obtain ⟨tasks, -, -, sites⟩ := opened.untouched
  exact single_of_untouched tasks (List.getElem?_eq_getElem inside)
    (sites start.sites[site] (List.getElem_mem inside))

/-- Between two moves no shutdown stands between two waits. -/
theorem rests_ledger (world : World) (site : SiteId) : (world.ledger site).Rests := by
  intro task component there
  obtain ⟨found, -, stands⟩ := Option.bind_eq_some_iff.mp there
  obtain ⟨actor, purpose, stage⟩ := found
  unfold Task.progress? at stands
  split at stands
  · have turn : stage.progress site = .turn component := Option.some.inj stands
    unfold Stage.progress at turn
    split at turn
    · simp at turn
    · split at turn
      · rename_i part _
        cases phase : part.phase <;> simp [phase, ShutdownPhase.progress] at turn
      · simp at turn
    · simp at turn
    · simp at turn
  · simp at stands

/-- Along a run that overtakes nothing, the record of stops stays in order. -/
theorem inOrder_of_straight (opened : start.Opened) (sturdy : start.script.stopFaults = [])
    (inside : site < start.sites.length)
    (straight : ∀ world, start.Visits moves world → ¬ (world.ledger site).Overtakes)
    (visits : start.Visits moves world) :
    world.Orderly site ∧ InOrder (world.ledger site).lines := by
  refine visits.keeps (P := fun world => world.Orderly site ∧ InOrder (world.ledger site).lines)
    ?_ ⟨opened.orderly sturdy inside, ?_⟩
  · rintro early move late before split played free ⟨orderly, order⟩
    obtain ⟨after, change⟩ := orderly.apply free
    refine ⟨after, ?_⟩
    rcases Ledger.inOrder_change orderly.consistent change order with kept | overtakes
    · exact kept
    · have there : start.Visits moves (before.apply move) := by
        refine ⟨early ++ [move], late, by simp [split], ?_⟩
        rw [play?_append, played]
        simp [play?, free]
      exact absurd overtakes (straight _ there)
  · rw [(opened.ledger inside).2.1]
    exact inOrder_nil

/-- A move that begins no second shutdown keeps at most one going. -/
theorem Orderly.single_apply (orderly : world.Orderly site) (single : (world.ledger site).Single)
    {move : Move} (free : world.isOpen move = true) (alone : world.StartsAlone site move) :
    ((world.apply move).ledger site).Single := by
  rcases ledger_apply_cases orderly.sound free orderly.inside
      (fun faulty => faulty orderly.sturdy) with
    ⟨me, resumes, strides⟩ | ⟨task, new, other, same⟩ | ⟨task, progress, there, same⟩ | same
  · exact single.steps orderly.consistent (alone me resumes) (Ledger.steps_of_strides strides)
  · rw [same]
    exact single.call new
  · rw [same]
    exact single.drop task
  · rw [same]
    exact single

/-- Shutdowns that run one after the other overtake nothing. -/
theorem single_of_oneByOne (opened : start.Opened) (sturdy : start.script.stopFaults = [])
    (inside : site < start.sites.length) (oneByOne : start.OneByOne site moves)
    (visits : start.Visits moves world) :
    world.Orderly site ∧ (world.ledger site).Single := by
  refine visits.keeps (P := fun world => world.Orderly site ∧ (world.ledger site).Single)
    ?_ ⟨opened.orderly sturdy inside, opened.single inside⟩
  rintro early move late before split played free ⟨orderly, single⟩
  exact ⟨(orderly.apply free).1,
    orderly.single_apply single free (oneByOne early move late split before played)⟩

/-- Along a run the components of a gateway stop in their order exactly if no shutdown goes
past a component that is still stopping; and they do if its shutdowns run one after the
other. -/
theorem keepsOrder_iff (opened : start.Opened) (sturdy : start.script.stopFaults = [])
    (inside : site < start.sites.length) :
    ((∀ world, start.Visits moves world → (world.ledger site).KeepsOrder) ↔
      ∀ world, start.Visits moves world → ¬ (world.ledger site).Overtakes) ∧
    (start.OneByOne site moves →
      ∀ world, start.Visits moves world → (world.ledger site).KeepsOrder) := by
  have orderly {world : World} (visits : start.Visits moves world) : world.Orderly site := by
    refine visits.keeps (P := Orderly site) ?_ (opened.orderly sturdy inside)
    intro early move late before _ _ free orderly
    exact (orderly.apply free).1
  have kept (straight : ∀ world, start.Visits moves world → ¬ (world.ledger site).Overtakes)
      (world : World) (visits : start.Visits moves world) : (world.ledger site).KeepsOrder := by
    refine ⟨(inOrder_of_straight opened sturdy inside straight visits).2, ?_⟩
    intro task finished component
    exact Ledger.over_of_not_overtakes (orderly visits).consistent (straight world visits)
      finished component
  refine ⟨⟨?_, kept⟩, ?_⟩
  · intro keeps world visits
    exact (keeps world visits).not_overtakes (orderly visits).consistent (rests_ledger world site)
  · intro oneByOne
    refine kept fun world visits => ?_
    exact (single_of_oneByOne opened sturdy inside oneByOne visits).2.not_overtakes

/-- Whether a shutdown of a gateway that begins with a move begins alone. -/
def startsAlone? (world : World) (site : SiteId) : Move → Bool
  | .resume task => (world.ledger site).shutdowns task != some .opening ||
      (List.range world.tasks.length).all fun other => other == task ||
        [none, some .opening, some .finished].contains ((world.ledger site).shutdowns other)
  | _ => true

/-- Whether all shutdowns of a gateway that begin in a run begin alone. -/
def oneByOne? (site : SiteId) (start : World) : List Move → Bool
  | [] => true
  | move :: moves => start.startsAlone? site move && oneByOne? site (start.apply move) moves

/-- A shutdown begins alone if the check says so. -/
theorem startsAlone_of_check {move : Move} (checked : world.startsAlone? site move = true) :
    world.StartsAlone site move := by
  rintro task rfl opening other progress differ there
  simp only [startsAlone?, opening, bne_self_eq_false, Bool.false_or, List.all_eq_true,
    List.mem_range, Bool.or_eq_true, beq_iff_eq] at checked
  have inside : other < world.tasks.length := by
    obtain ⟨found, here, -⟩ := Option.bind_eq_some_iff.mp there
    exact (List.getElem?_eq_some_iff.mp here).1
  have rests := (checked other inside).resolve_left differ
  rw [there] at rests
  simpa using rests

/-- The shutdowns of a gateway run one after the other if the check says so. -/
theorem oneByOne_of_check (checked : oneByOne? site start moves = true) :
    start.OneByOne site moves := by
  induction moves generalizing start with
  | nil => exact fun early move late split => by simp at split
  | cons first rest ih =>
    simp only [oneByOne?, Bool.and_eq_true] at checked
    intro early move late split world played
    cases early with
    | nil =>
      obtain ⟨rfl, -⟩ := List.cons.inj split
      obtain rfl := Option.some.inj played
      exact startsAlone_of_check checked.1
    | cons also early =>
      obtain ⟨rfl, left⟩ := List.cons.inj split
      simp only [play?, Option.ite_none_right_eq_some] at played
      exact ih checked.2 early move late left world played.2

/-- A cluster whose producer takes a second to stop. -/
def slowProducer : BrokerScript := { stopDelays := [(.producer, 1000)] }

/-- One gateway before that cluster. -/
def slowGateway : World :=
  (openGateway { script := slowProducer } (.root "test") "default" {}).1

/-- The gateway before the slow cluster was opened. -/
theorem opened_slowGateway : slowGateway.Opened := by
  have opens : (openGateway { script := slowProducer } (.root "test") "default" {}) =
      (slowGateway, .ok 0) := rfl
  exact .gateway (.empty slowProducer) opens

/-- Somebody stops a gateway, and the stop begins. -/
def firstStop : List Move := [.request 0 .stop, .resume 0]

/-- A second stop begins while the first still waits for the producer. -/
def overlappingStops : List Move :=
  firstStop ++ [.resume 1, .resume 2, .resume 3, .request 0 .stop, .resume 4, .resume 5, .resume 6,
    .resume 7, .resume 4]

/-- Somebody stops a gateway and waits for the end, and then somebody stops it again. -/
def stopTwice : List Move :=
  firstStop ++ [.resume 1, .resume 2, .resume 3, .resume 0, .pass 1000, .resume 1, .resume 0,
    .request 0 .stop, .resume 4, .resume 5, .resume 6, .resume 7, .resume 4]

/-- The two stops keep the order, of which the second one finds nothing left to stop. -/
theorem keepsOrder_stopTwice : slowGateway.Opened ∧ slowGateway.script.stopFaults = [] ∧
    0 < slowGateway.sites.length ∧ slowGateway.OneByOne 0 stopTwice ∧
    (∃ last, slowGateway.play? stopTwice = some last ∧ (last.ledger 0).lines =
        [⟨0, .producer, false⟩, ⟨0, .consumer, false⟩, ⟨0, .consumer, true⟩, ⟨0, .admin, false⟩,
          ⟨0, .admin, true⟩, ⟨1000, .producer, true⟩, ⟨1000, .offsets, false⟩,
          ⟨1000, .offsets, true⟩, ⟨1000, .client, false⟩, ⟨1000, .client, true⟩] ∧
      (last.ledger 0).shutdowns 0 = some .finished ∧
      (last.ledger 0).shutdowns 4 = some .finished) ∧
    ∀ world, slowGateway.Visits stopTwice world → (world.ledger 0).KeepsOrder := by
  have inside : 0 < slowGateway.sites.length := by decide +kernel
  have oneByOne : slowGateway.OneByOne 0 stopTwice := oneByOne_of_check (by decide +kernel)
  have ends : (slowGateway.play? stopTwice).map (fun last => ((last.ledger 0).lines,
      (last.ledger 0).shutdowns 0, (last.ledger 0).shutdowns 4)) =
      some ([⟨0, .producer, false⟩, ⟨0, .consumer, false⟩, ⟨0, .consumer, true⟩,
        ⟨0, .admin, false⟩, ⟨0, .admin, true⟩, ⟨1000, .producer, true⟩, ⟨1000, .offsets, false⟩,
        ⟨1000, .offsets, true⟩, ⟨1000, .client, false⟩, ⟨1000, .client, true⟩],
        some .finished, some .finished) := by
    decide +kernel
  obtain ⟨last, played, same⟩ := Option.map_eq_some_iff.mp ends
  simp only [Prod.mk.injEq] at same
  exact ⟨opened_slowGateway, rfl, inside, oneByOne, ⟨last, played, same⟩,
    (keepsOrder_iff opened_slowGateway rfl inside).2 oneByOne⟩

/-- Overlapping stops break the order: the offset manager and the client are stopped, and
one of the calls returns, while the producer is still stopping. -/
theorem overlapping_stops_break_order : ∃ start moves world, Opened start ∧
    start.script.stopFaults = [] ∧ 0 < start.sites.length ∧ start.play? moves = some world ∧
    ¬ InOrder (world.ledger 0).lines ∧
    ∃ task, (world.ledger 0).shutdowns task = some .finished ∧
      ¬ Over (world.ledger 0).lines .producer := by
  have ends : (slowGateway.play? overlappingStops).map (fun world =>
      ((world.ledger 0).lines, (world.ledger 0).shutdowns 4)) =
      some ([⟨0, .producer, false⟩, ⟨0, .consumer, false⟩, ⟨0, .consumer, true⟩,
        ⟨0, .admin, false⟩, ⟨0, .admin, true⟩, ⟨0, .offsets, false⟩, ⟨0, .offsets, true⟩,
        ⟨0, .client, false⟩, ⟨0, .client, true⟩], some .finished) := by
    decide +kernel
  obtain ⟨world, played, same⟩ := Option.map_eq_some_iff.mp ends
  obtain ⟨lines, finished⟩ := Prod.mk.inj same
  refine ⟨slowGateway, overlappingStops, world, opened_slowGateway, rfl, by decide +kernel, played,
    ?_, 4, finished, ?_⟩
  · intro order
    have settled := order [⟨0, .producer, false⟩, ⟨0, .consumer, false⟩, ⟨0, .consumer, true⟩,
      ⟨0, .admin, false⟩, ⟨0, .admin, true⟩] ⟨0, .offsets, false⟩ _ lines rfl .producer (by decide)
    simp [Over] at settled
  · rw [lines]
    simp [Over]

end ClusterGateway.World
