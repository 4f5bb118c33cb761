import Mathlib.Data.List.Perm.Subperm
import Mathlib.Data.List.Sort
import ClusterGateway.Proofs.Delivery.Provenance
import ClusterGateway.Proofs.Delivery.Seats

/-!
# Acknowledgements keep their order

Consume requests whose acknowledgements are handed on to the same session overtake nobody there:
as long as tasks run in turn, the session takes on what they acknowledge in the order in which the
requests ran first, less what is given up or dropped, whatever its capacity and whenever its
receiver takes how much. With a patient receiver the offsets also lie in its buffer in this
order, so with one that takes them only while nobody is ready. The executor lets tasks run in turn
and frees no room (`obeys_runFor`). A receiver that frees more room than those in line can take,
while a courier has yet to run, may find the offset of that one in front of what it has made room
for (`accepted_out_of_order`). Main statement: `accepted_in_order`.
-/

namespace ClusterGateway

/-- A list that is ascending by a key, and has no entry that an ascending one has not, is that
one with some entries left out. -/
theorem sublist_of_ascending {α : Type} (key : α → Nat) {some_ all : List α}
    (ascending : some_.Pairwise (key · < key ·)) (ordered : all.Pairwise (key · < key ·))
    (inside : ∀ entry ∈ some_, entry ∈ all) : some_.Sublist all := by
  have antisymm : Std.Antisymm fun first second : α => key first < key second :=
    ⟨fun _ _ before after => absurd after (Nat.lt_asymm before)⟩
  have distinct : some_.Nodup := by
    refine List.nodup_iff_pairwise_ne.mpr (ascending.imp ?_)
    rintro first second before rfl
    exact Nat.lt_irrefl _ before
  exact List.sublist_of_subperm_of_pairwise (distinct.subperm inside) ascending ordered

namespace World

variable {start world last : World} {site : SiteId} {number : SessionId} {move : Move}
  {moves : List Move} {task call : TaskId} {offset : Int64} {served : List TaskId}

/-- The acknowledgement that a move hands on to a session, with the request that it comes from: a
consume request runs for the first time, and the session is recorded for its partition just
then. -/
def entrusted (world : World) (site : SiteId) (number : SessionId) :
    Move → List (TaskId × Int64)
  | .resume call =>
    match world.tasks[call]?, world.sites[site]? with
    | some ⟨_, .request place (.consume group topic (.explicit partition offset)), .fresh⟩,
      some found =>
      if place = site ∧ found.gateway.routes.get? ⟨group, topic, partition⟩ = some number then
        [(call, offset)]
      else []
    | _, _ => []
  | _ => []

/-- The request that a task acts for. -/
def principal? (world : World) (task : TaskId) : Option TaskId :=
  (world.tasks[task]?).bind fun found => found.purpose.principal?

/-- The acknowledgements that were handed on, of all that a session has accepted, each with the
request that it comes from. -/
def relayed (world : World) (site : SiteId) (number : SessionId) : List (TaskId × Int64) :=
  (world.accepted site number).filterMap fun item =>
    (item.sender.bind world.principal?).map (·, item.offset)

/-- What a courier carries: an offset, and before it the request that it comes from. -/
def errand? (world : World) (task : TaskId) : Option (TaskId × Int64) :=
  match world.tasks[task]? with
  | some ⟨_, .deliverAck _ _ offset _ call, _⟩ => some (call, offset)
  | _ => none

/-- A consume request starts a task when it runs for the first time, if a session is recorded for
the partition of its acknowledgement. -/
theorem starts_courier {actor : Option String} {group topic : String} {partition : Int32}
    {found : Site} (there : world.tasks[call]? = some
      ⟨actor, .request site (.consume group topic (.explicit partition offset)), .fresh⟩)
    (here : world.sites[site]? = some found)
    (routed : found.gateway.routes.get? ⟨group, topic, partition⟩ = some number) :
    (world.resume call).Ran call ∧ world.tasks.length < (world.resume call).tasks.length := by
  have same : world.resume call = (({ world with ready := world.ready.erase call } :
      World).beginBackgroundAck call site found actor ⟨group, topic, partition⟩ offset).beginFetch
        call actor site found group topic (.explicit partition offset) := by
    rw [resume_eq there]
    simp only [proceed, start, here, beginConsume]
  rw [same]
  generalize left_eq : ({ world with ready := world.ready.erase call } : World) = left
  have at_left : left.tasks[call]? = some
      ⟨actor, .request site (.consume group topic (.explicit partition offset)), .fresh⟩ := by
    rw [← left_eq]
    exact there
  generalize middle_eq : left.beginBackgroundAck call site found actor ⟨group, topic, partition⟩
    offset = middle
  have started : middle.tasks.length = world.tasks.length + 1 := by
    simp [← middle_eq, beginBackgroundAck, routed, spawn, ← left_eq]
  have still : middle.tasks[call]? = some
      ⟨actor, .request site (.consume group topic (.explicit partition offset)), .fresh⟩ := by
    rw [← middle_eq]
    exact there_beginBackgroundAck at_left actor _ offset
  have at_site : middle.sites[site]? = some found := by
    rw [← middle_eq, sites_beginBackgroundAck, ← left_eq]
    exact here
  have strokes : Strokes call (.request site (.consume group topic (.explicit partition offset)))
      True False middle (middle.beginFetch call actor site found group topic
        (.explicit partition offset)) := strokes_beginFetch actor group topic _ at_site
  have longer := strokes.lengthens.length
  exact ⟨ran_beginFetch still actor group topic _, by omega⟩

/-- A move hands on one acknowledgement at most, of a request that runs for the first time, and
starts a task for it. -/
theorem entrusted_cases (world : World) (site : SiteId) (number : SessionId) (move : Move) :
    world.entrusted site number move = [] ∨ ∃ call offset,
      world.entrusted site number move = [(call, offset)] ∧ ¬ world.Ran call ∧
        (world.apply move).Ran call ∧ world.tasks.length < (world.apply move).tasks.length := by
  cases move with
  | resume call =>
    simp only [entrusted]
    split
    · rename_i actor place group topic partition offset found there here
      split
      · rename_i same
        obtain ⟨rfl, routed⟩ := same
        refine .inr ⟨call, offset, rfl, ?_, starts_courier there here routed⟩
        rintro ⟨running, at_call, aged⟩
        obtain rfl := Option.some.inj (there.symm.trans at_call)
        exact aged rfl
      · exact .inl rfl
    · exact .inl rfl
  | _ => exact .inl rfl

/-- What hands an acknowledgement on to a courier of a session is entrusted to it. -/
theorem HandsOver.entrusted {after : World} {key : RoutingKey}
    (hands : HandsOver world after call task site key offset number) :
    world.entrusted site number (.resume call) = [(call, offset)] := by
  obtain ⟨⟨actor, purpose, stage⟩, group, topic, partition, there, rfl, rfl, rfl⟩ := hands.fresh
  obtain ⟨found, here, routed⟩ := hands.routes
  simp [World.entrusted, there, here, routed]

/-- The tasks that are started for the acknowledgements that a move hands on, with these. -/
def couriersFor (world : World) (site : SiteId) (number : SessionId) (move : Move) :
    List (TaskId × TaskId × Int64) :=
  (world.entrusted site number move).map (world.tasks.length, ·)

/-- No call hands on two acknowledgements in a run. -/
theorem nodup_entrusted (opened : start.Opened) (played : start.play? moves = some last) :
    ((start.chronicle (fun world => world.entrusted site number) moves).map Prod.fst).Nodup ∧
      ∀ entry ∈ start.chronicle (fun world => world.entrusted site number) moves,
        last.Ran entry.1 := by
  induction moves, last, played using run_induction with
  | nil => exact ⟨List.nodup_nil, nofun⟩
  | concat moves world move first free ih =>
    have sound : world.Sound := opened.sound.reaches ⟨moves, first⟩
    obtain ⟨distinct, ran⟩ := ih
    rw [chronicle_concat _ first]
    obtain none_ | ⟨call, offset, one, unrun, later, -⟩ := entrusted_cases world site number move
    · rw [none_, List.append_nil]
      exact ⟨distinct, fun entry there => (ran entry there).apply sound move⟩
    · rw [one, List.map_append]
      refine ⟨List.nodup_append.mpr ⟨distinct, List.nodup_singleton _, ?_⟩, fun entry there => ?_⟩
      · rintro _ old _ new rfl
        obtain ⟨entry, there, same⟩ := List.mem_map.mp old
        obtain rfl := List.mem_singleton.mp new
        exact unrun (same ▸ ran entry there)
      · rcases List.mem_append.mp there with old | new
        · exact (ran entry old).apply sound move
        · rw [List.mem_singleton.mp new]
          exact later

/-- Tasks that are started later for acknowledgements have higher numbers. -/
theorem ascending_couriersFor (opened : start.Opened) (played : start.play? moves = some last) :
    (start.chronicle (fun world => world.couriersFor site number) moves).Pairwise
        (·.1 < ·.1) ∧
      ∀ entry ∈ start.chronicle (fun world => world.couriersFor site number) moves,
        entry.1 < last.tasks.length := by
  induction moves, last, played using run_induction with
  | nil => exact ⟨List.Pairwise.nil, nofun⟩
  | concat moves world move first free ih =>
    have sound : world.Sound := opened.sound.reaches ⟨moves, first⟩
    obtain ⟨line, -, longer⟩ := lengthens_apply sound move
    obtain ⟨ascending, below⟩ := ih
    rw [chronicle_concat _ first, couriersFor]
    obtain none_ | ⟨call, offset, one, -, -, grows⟩ := entrusted_cases world site number move
    · rw [none_, List.map_nil, List.append_nil]
      exact ⟨ascending, fun entry there => Nat.lt_of_lt_of_le (below entry there) longer.length⟩
    · rw [one, List.map_singleton]
      refine ⟨List.pairwise_append.mpr ⟨ascending, List.pairwise_singleton _ _, ?_⟩, ?_⟩
      · intro entry old other new
        rw [List.mem_singleton.mp new]
        exact below entry old
      · intro entry there
        rcases List.mem_append.mp there with old | new
        · exact Nat.lt_of_lt_of_le (below entry old) longer.length
        · rw [List.mem_singleton.mp new]
          exact grows

/-- What a courier of a session carries was handed on to it in the run. -/
theorem exists_errand (opened : start.Opened) (played : start.play? moves = some last)
    (courier : last.isCourier site number task = true) : ∃ entry, last.errand? task = some entry ∧
      (task, entry) ∈ start.chronicle (fun world => world.couriersFor site number) moves := by
  obtain ⟨⟨actor, purpose, stage⟩, key, offset, call, here, acts⟩ := isCourier_iff.mp courier
  obtain rfl : purpose = .deliverAck site key offset number call := acts
  refine ⟨(call, offset), by simp [errand?, here], ?_⟩
  obtain ⟨before, makes, hands⟩ := exists_handsOver opened played here rfl
  refine (mem_chronicle played).mpr ⟨_, before, makes, ?_⟩
  rw [couriersFor, hands.entrusted, hands.next]
  exact List.mem_singleton.mpr rfl

/-- What couriers carry that are served in the order in which they were started was handed on in
this order. -/
theorem Sequenced.sublist_entrusted (sequenced : last.Sequenced site number served)
    (opened : start.Opened) (played : start.play? moves = some last) :
    (served.filterMap last.errand?).Sublist
      (start.chronicle (fun world => world.entrusted site number) moves) := by
  generalize carried_eq :
    (served.filterMap fun task => (last.errand? task).map (task, ·)) = carried
  have couriers : carried.map Prod.fst = served := by
    rw [← carried_eq, List.map_filterMap]
    refine (List.filterMap_congr fun task there => ?_).trans List.filterMap_some
    obtain ⟨entry, has, -⟩ := exists_errand opened played (sequenced.couriers task there)
    simp [has]
  have errands : carried.map Prod.snd = served.filterMap last.errand? := by
    rw [← carried_eq, List.map_filterMap]
    refine List.filterMap_congr fun task _ => ?_
    rw [Option.map_map]
    exact Option.map_id'
  have ordered : carried.Pairwise (·.1 < ·.1) := by
    rw [← List.pairwise_map , couriers]
    exact sequenced.ascending
  have inside : ∀ entry ∈ carried,
      entry ∈ start.chronicle (fun world => world.couriersFor site number) moves := by
    intro entry there
    rw [← carried_eq] at there
    obtain ⟨task, named, carries⟩ := List.mem_filterMap.mp there
    obtain ⟨errand, has, handed⟩ := exists_errand opened played (sequenced.couriers task named)
    rw [has] at carries
    obtain rfl := Option.some.inj carries
    exact handed
  have requests := (sublist_of_ascending Prod.fst ordered
    (ascending_couriersFor opened played).1 inside).map Prod.snd
  rw [errands, map_chronicle] at requests
  have same : (fun (world : World) move => (world.couriersFor site number move).map Prod.snd) =
      fun world => world.entrusted site number := by
    funext world move
    simp [couriersFor]
  rwa [same] at requests

/-- A task that acts for a request, and whose offset a session has accepted, was to deliver that
offset to that session. -/
theorem exists_deliverAck (opened : start.Opened) (played : start.play? moves = some last)
    {item : Acknowledged} (there : item ∈ last.accepted site number)
    (sent : item.sender = some task) (acts : last.principal? task = some call) :
    ∃ found key, last.tasks[task]? = some found ∧
      found.purpose = .deliverAck site key item.offset number call := by
  obtain ⟨entry, contributes, rfl, rfl, rfl⟩ := exists_contributes opened played there
  obtain rfl : entry.sender = task := Option.some.inj sent
  obtain ⟨asking, at_call, offers⟩ := contributes.offers opened played
  have itself (same : entry.sender = entry.call) : asking.purpose.principal? = some call := by
    rw [same] at acts
    simpa [principal?, at_call] using acts
  unfold Offers at offers
  split at offers
  · rename_i purpose
    have nobody := itself offers.1
    simp [purpose, Purpose.principal?] at nobody
  · obtain ⟨rfl, -, rfl, acting, at_sender, purpose⟩ := offers
    have same : entry.call = call := by
      simpa [principal?, at_sender, purpose, Purpose.principal?] using acts
    exact ⟨acting, _, at_sender, same ▸ purpose⟩
  · rename_i purpose
    have nobody := itself offers.1
    simp [purpose, Purpose.principal?] at nobody
  · exact offers.elim

/-- What was handed on, of all that a session has accepted, is what its couriers carried that have
delivered. -/
theorem relayed_eq (opened : start.Opened) (played : start.play? moves = some last) :
    last.relayed site number = (last.delivered site number).filterMap last.errand? := by
  unfold relayed delivered
  rw [List.filterMap_filter, List.filterMap_filterMap]
  refine List.filterMap_congr fun item there => ?_
  cases sent : item.sender with
  | none => rfl
  | some sender =>
    rw [Option.bind_some, Option.bind_some]
    cases acts : last.principal? sender with
    | none =>
      have idle : last.isCourier site number sender ≠ true := by
        intro courier
        obtain ⟨found, key, offset, parent, here, purpose⟩ := isCourier_iff.mp courier
        simp [principal?, here, purpose, Purpose.principal?] at acts
      simp [idle]
    | some call =>
      obtain ⟨⟨actor, purpose, stage⟩, key, here, acts⟩ :=
        exists_deliverAck opened played there sent acts
      obtain rfl : purpose = .deliverAck site key item.offset number call := acts
      have courier : last.isCourier site number sender = true :=
        isCourier_iff.mpr ⟨_, key, item.offset, call, here, rfl⟩
      simp [courier, errand?, here]

/-- Whoever has delivered has a place in the session. -/
theorem mem_holders_of_delivered (there : task ∈ last.delivered site number) :
    task ∈ last.holders site number := by
  obtain ⟨event, sent, signed⟩ := List.mem_filterMap.mp (List.mem_filter.mp there).1
  cases here : last.session? site number with
  | none => simp [accepted, here] at sent
  | some session =>
    rw [holders_of_session? here]
    exact List.mem_append_left _ (List.mem_filterMap.mpr ⟨event, sent, signed⟩)

/-- As long as tasks run in turn, a session takes on the acknowledgements that were handed on to it
in the order in which the consume requests that they come from ran first, each of which has handed
on one: whatever its capacity, however its receiver takes offsets and however many are given up in
between. All that it has accepted was taken on so, and it has accepted it in this order if the
receiver is patient. -/
theorem accepted_in_order (opened : start.Opened) (played : start.play? moves = some last)
    (inTurn : start.playsInTurn moves = true) :
    ((start.chronicle (fun world => world.seated site number) moves).filterMap last.errand?).Sublist
        (start.chronicle (fun world => world.entrusted site number) moves) ∧
      (∀ entry ∈ last.relayed site number, entry ∈
        (start.chronicle (fun world => world.seated site number) moves).filterMap last.errand?) ∧
      (start.playsPatiently site number moves = true → (last.relayed site number).Sublist
        (start.chronicle (fun world => world.entrusted site number) moves)) ∧
      (start.playsAtRest site number moves = true → (last.relayed site number).Sublist
        (start.chronicle (fun world => world.entrusted site number) moves)) ∧
      ((start.chronicle (fun world => world.entrusted site number) moves).map Prod.fst).Nodup := by
  have seats : last.Seats site number _ := opened.seats played inTurn
  have patiently (patient : start.playsPatiently site number moves = true) :
      (last.relayed site number).Sublist
        (start.chronicle (fun world => world.entrusted site number) moves) := by
    rw [relayed_eq opened played]
    exact (opened.sequenced_delivered played inTurn patient).sublist_entrusted opened played
  refine ⟨seats.sublist_entrusted opened played, fun entry there => ?_, patiently,
    fun rests => patiently (playsPatiently_of_rest opened played rests),
    (nodup_entrusted opened played).1⟩
  rw [relayed_eq opened played] at there
  obtain ⟨task, has, carries⟩ := List.mem_filterMap.mp there
  have courier := (List.mem_filter.mp has).2
  exact List.mem_filterMap.mpr
    ⟨task, seats.held task (mem_holders_of_delivered has) courier, carries⟩

/-- A message is fetched, and four requests for the next one acknowledge it, the last two of them
later than the others. The session takes one offset. The second courier gives up before the
receiver takes any, and then it takes them one by one. -/
def crowded : List Move :=
  [.enqueue 0 "g" "t" [⟨.message none 0 0 2 none [97], 0⟩],
    .request 0 (.consume "g" "t" .none), .resume 0,
    .request 0 (.consume "g" "t" (.explicit 0 10)), .resume 1, .resume 2, .resume 3,
    .request 0 (.consume "g" "t" (.explicit 0 11)), .resume 4, .resume 5, .resume 6,
    .pass 400, .request 0 (.consume "g" "t" (.explicit 0 12)),
    .request 0 (.consume "g" "t" (.explicit 0 13)), .resume 7, .resume 8, .resume 9, .resume 10,
    .resume 11, .resume 12, .pass 1000, .resume 3, .resume 5, .read 0 0 1, .resume 6, .resume 9,
    .read 0 0 1, .resume 11]

/-- The offsets of the first, the third and the fourth request are accepted, in this order. -/
theorem accepted_in_order_crowded : ∃ last, narrowGateway.Opened ∧
    narrowGateway.play? crowded = some last ∧ narrowGateway.playsInTurn crowded = true ∧
    narrowGateway.playsPatiently 0 0 crowded = true ∧
    (narrowGateway.chronicle (fun world => world.seated 0 0) crowded).filterMap last.errand? =
      [(1, 10), (7, 12), (8, 13)] ∧
    last.relayed 0 0 = [(1, 10), (7, 12), (8, 13)] ∧
    narrowGateway.chronicle (fun world => world.entrusted 0 0) crowded =
      [(1, 10), (4, 11), (7, 12), (8, 13)] ∧
    (last.relayed 0 0).Sublist
      (narrowGateway.chronicle (fun world => world.entrusted 0 0) crowded) := by
  have reached : (narrowGateway.play? crowded).map (fun last => (last.relayed 0 0,
      (narrowGateway.chronicle (fun world => world.seated 0 0) crowded).filterMap last.errand?)) =
      some ([(1, 10), (7, 12), (8, 13)], [(1, 10), (7, 12), (8, 13)]) := by
    decide +kernel
  obtain ⟨last, played, both⟩ := Option.map_eq_some_iff.mp reached
  obtain ⟨relayed, taken⟩ := Prod.mk.inj both
  have inTurn : narrowGateway.playsInTurn crowded = true := by decide +kernel
  have patient : narrowGateway.playsPatiently 0 0 crowded = true := by decide +kernel
  have entrusted : narrowGateway.chronicle (fun world => world.entrusted 0 0) crowded =
      [(1, 10), (4, 11), (7, 12), (8, 13)] := by
    decide +kernel
  exact ⟨last, opened_narrowGateway, played, inTurn, patient, taken, relayed, entrusted,
    (accepted_in_order opened_narrowGateway played inTurn).2.2.1 patient⟩

/-- One gateway with a delivery timeout of a second, before a cluster whose sessions hold two
offsets each. -/
def wideGateway : World :=
  (openGateway { script := { sessionBuffer := 2 } } (.root "test") "default"
    { consumer := { longPollingTimeout := 1000 } }).1

/-- The gateway before the cluster with wide sessions was opened. -/
theorem opened_wideGateway : wideGateway.Opened := by
  have opens : (openGateway { script := { sessionBuffer := 2 } } (.root "test") "default"
      { consumer := { longPollingTimeout := 1000 } }) = (wideGateway, .ok 0) := rfl
  exact .gateway (.empty { sessionBuffer := 2 }) opens

/-- A message is fetched, and four requests for the next one acknowledge it. The first two fill the
session and the third waits in line. The receiver takes two offsets at once while the courier of the
fourth has yet to run, and this courier is next in line. -/
def outrun : List Move :=
  [.enqueue 0 "g" "t" [⟨.message none 0 0 2 none [97], 0⟩],
    .request 0 (.consume "g" "t" .none), .resume 0,
    .request 0 (.consume "g" "t" (.explicit 0 10)), .resume 1, .resume 2, .resume 3,
    .request 0 (.consume "g" "t" (.explicit 0 11)), .resume 4, .resume 5, .resume 6,
    .request 0 (.consume "g" "t" (.explicit 0 12)), .resume 7, .resume 8, .resume 9,
    .request 0 (.consume "g" "t" (.explicit 0 13)), .resume 10, .read 0 0 2, .resume 11,
    .resume 12, .resume 8]

/-- Where the receiver is not patient the order can be lost though all tasks run in turn: the
offset of the fourth request is accepted before that of the third. -/
theorem accepted_out_of_order : ∃ last, wideGateway.Opened ∧
    wideGateway.play? outrun = some last ∧ wideGateway.playsInTurn outrun = true ∧
    wideGateway.playsPatiently 0 0 outrun = false ∧
    wideGateway.chronicle (fun world => world.entrusted 0 0) outrun =
      [(1, 10), (4, 11), (7, 12), (10, 13)] ∧
    last.relayed 0 0 = [(1, 10), (4, 11), (10, 13), (7, 12)] ∧
    ¬ (last.relayed 0 0).Sublist
      (wideGateway.chronicle (fun world => world.entrusted 0 0) outrun) := by
  have reached : (wideGateway.play? outrun).map (·.relayed 0 0) =
      some [(1, 10), (4, 11), (10, 13), (7, 12)] := by
    decide +kernel
  obtain ⟨last, played, relayed⟩ := Option.map_eq_some_iff.mp reached
  have inTurn : wideGateway.playsInTurn outrun = true := by decide +kernel
  have hasty : wideGateway.playsPatiently 0 0 outrun = false := by decide +kernel
  have entrusted : wideGateway.chronicle (fun world => world.entrusted 0 0) outrun =
      [(1, 10), (4, 11), (7, 12), (10, 13)] := by
    decide +kernel
  refine ⟨last, opened_wideGateway, played, inTurn, hasty, entrusted, relayed, ?_⟩
  rw [relayed, entrusted]
  decide

end World

end ClusterGateway
