import ClusterGateway.Proofs.World.Strokes

/-!
# Steps are made of strokes

Every function that carries out a part of a step consists of strokes of the task that
runs. Main statement: `strokes_proceed`, a task that goes on from where it waits makes
strokes of its purpose only.
-/

namespace ClusterGateway.World

variable {world : World} {me : TaskId} {purpose : Purpose} {sends hands : Prop} {site : SiteId}

/-- A request ends by one stroke. -/
theorem strokes_conclude (world : World) (result : Except Error Reply) :
    Strokes me purpose sends hands world (world.conclude me result) :=
  .single (.finish world (.returned result))

/-- A producing request ends with its answer. -/
theorem strokes_receiveReceipt (world : World) (answer : Answer Receipt) :
    Strokes me purpose sends hands world (world.receiveReceipt me answer) := by
  cases answer with
  | reply result => exact strokes_conclude world _
  | dropped => exact strokes_conclude world _

/-- A message is handed to the producer, and its answer is waited for. -/
theorem strokes_beginProduce {found : Site} {submission : Submission}
    (there : world.sites[site]? = some found) :
    Strokes me (.request site (.produce submission)) sends hands world
      (world.beginProduce me site found submission) := by
  unfold beginProduce
  split
  · have served : Strokes me (.request site (.produce submission)) sends hands world
        (world.onBroker site fun _ => (found.broker.submit world.script submission).1) :=
      .single (.serve world site _ found _ rfl there (.produce submission))
    generalize found.broker.submit world.script submission = result at served ⊢
    obtain ⟨broker, answer, delay⟩ := result
    dsimp only at served ⊢
    split
    · exact served.trans (strokes_receiveReceipt _ answer)
    · refine (served.tail (.spawn _ none _ ?_)).tail (.setStage _ _ ?_ nofun)
      · exact rfl
      · exact trivial
  · exact strokes_conclude world _

/-- A message is handed to the producer. -/
theorem strokes_beginSubmit {found : Site} {submission : Submission}
    (there : world.sites[site]? = some found) :
    Strokes me (.request site (.submit submission)) sends hands world
      (world.beginSubmit me site found submission) := by
  unfold beginSubmit
  split
  · have served : Strokes me (.request site (.submit submission)) sends hands world
        (world.onBroker site fun _ => (found.broker.submit world.script submission).1) :=
      .single (.serve world site _ found _ rfl there (.submit submission))
    generalize found.broker.submit world.script submission = result at served ⊢
    exact served.trans (strokes_conclude _ _)
  · exact strokes_conclude world _

/-- An explicit acknowledgement is handed to a task of its own. -/
theorem strokes_beginBackgroundAck {group topic : String} {partition : Int32} {offset : Int64}
    (world : World) (found : Site) (actor : Option String) (allowed : hands) :
    Strokes me (.request site (.consume group topic (.explicit partition offset))) sends hands world
      (world.beginBackgroundAck me site found actor ⟨group, topic, partition⟩ offset) := by
  unfold beginBackgroundAck
  split
  · exact .single (.note world actor _)
  · exact .single (.handOn world _ _ allowed ⟨rfl, rfl, rfl, rfl⟩)

/-- An attempt to send touches the session at most. -/
theorem strokes_trySend (world : World) (session : SessionId) (offset : Int64) :
    Strokes me purpose True hands world (world.trySend me site session offset).1 := by
  unfold trySend
  split
  · exact .refl world
  · split
    · dsimp only
      exact .single (.touch world site session _ trivial)
    · dsimp only
      exact .single (.touch world site session _ trivial)
    · exact .refl world

/-- A further attempt to send touches the session at most. -/
theorem strokes_retrySend (world : World) (session : SessionId) (offset : Int64) :
    Strokes me purpose True hands world (world.retrySend me site session offset).1 := by
  unfold retrySend
  split
  · exact .refl world
  · split
    · exact .refl world
    · split
      · dsimp only
        exact .single (.touch world site session _ trivial)
      · exact .refl world

/-- What follows an attempt to acknowledge a fetched message is quiet. -/
theorem strokes_settleAutoAck (world : World) (actor : Option String) (group topic : String)
    (message : Message) (attempt : SendAttempt) :
    Strokes me (.request site (.consume group topic .auto)) sends hands world
      (world.settleAutoAck me actor group topic message attempt) := by
  cases attempt with
  | accepted => exact strokes_conclude world _
  | full => exact .single (.setStage world _ rfl nofun)
  | closed => exact (Strokes.single (.note world actor _)).trans (strokes_conclude _ _)

/-- A consume request gets its answer. -/
theorem strokes_receiveMessage (world : World) (actor : Option String) (group topic : String)
    (ack : Ack) (answer : Answer Message) :
    Strokes me (.request site (.consume group topic ack)) True hands world
      (world.receiveMessage me actor site group topic ack answer) := by
  cases answer with
  | dropped => exact strokes_conclude world _
  | reply result =>
    cases result with
    | error error => exact strokes_conclude world _
    | ok message =>
      have routed : Strokes me (.request site (.consume group topic ack)) True hands world
          (world.onGateway site (·.route group topic message)) :=
        .single (.route world site group topic ack message rfl)
      simp only [receiveMessage]
      split
      · rename_i auto
        subst auto
        exact (routed.trans (strokes_trySend _ _ _)).trans (strokes_settleAutoAck _ _ _ _ _ _)
      · exact routed.trans (strokes_conclude _ _)

/-- The consumer is asked for a message. -/
theorem strokes_beginFetch {found : Site} (actor : Option String) (group topic : String)
    (ack : Ack) (there : world.sites[site]? = some found) :
    Strokes me (.request site (.consume group topic ack)) True hands world
      (world.beginFetch me actor site found group topic ack) := by
  unfold beginFetch
  split
  · have served : Strokes me (.request site (.consume group topic ack)) True hands world
        (world.onBroker site fun _ => (found.broker.fetch world.script group topic).1) :=
      .single (.serve world site _ found _ rfl there (.consume group topic ack))
    generalize found.broker.fetch world.script group topic = result at served ⊢
    obtain ⟨broker, answer, delay⟩ := result
    dsimp only at served ⊢
    split
    · exact served.trans (strokes_receiveMessage _ actor group topic ack answer)
    · refine (served.tail (.spawn _ none _ ?_)).tail (.setStage _ _ ?_ nofun)
      · exact rfl
      · exact trivial
  · exact strokes_conclude world _

/-- A handed-on acknowledgement leaves the gateways alone. -/
theorem sites_beginBackgroundAck (world : World) (found : Site) (actor : Option String)
    (key : RoutingKey) (offset : Int64) :
    (world.beginBackgroundAck me site found actor key offset).sites = world.sites := by
  unfold beginBackgroundAck
  split <;> rfl

/-- A message is fetched after an explicit acknowledgement was handed on. -/
theorem strokes_beginConsume {found : Site} (actor : Option String) (group topic : String)
    (ack : Ack) (there : world.sites[site]? = some found)
    (may : (Purpose.request site (.consume group topic ack)).Entrusts → hands) :
    Strokes me (.request site (.consume group topic ack)) True hands world
      (world.beginConsume me actor site found group topic ack) := by
  unfold beginConsume
  cases ack with
  | none => exact strokes_beginFetch actor group topic .none there
  | auto => exact strokes_beginFetch actor group topic .auto there
  | explicit partition offset =>
    refine (strokes_beginBackgroundAck world found actor (may trivial)).trans ?_
    exact strokes_beginFetch actor group topic _ ((sites_beginBackgroundAck ..).symm ▸ there)

/-- A task that delivers an acknowledgement ends. -/
theorem strokes_endDelivery (world : World) (actor : Option String) (carried : Purpose)
    (result : DeliveryEnd) :
    Strokes me purpose sends hands world (world.endDelivery me actor carried result) := by
  unfold endDelivery
  split
  · exact .single (.finish world _)
  · exact .tail (.single (.note world actor _)) (.finish _ _)
  · exact .single (.finish world _)

/-- A delivery begins. -/
theorem strokes_beginDelivery (world : World) (actor : Option String) (carried : Purpose)
    (session : SessionId) (offset : Int64) (timeout : Nat)
    (fits : (Stage.sending session (world.now + timeout)).Fits purpose) :
    Strokes me purpose True hands world
      (world.beginDelivery me actor carried site session offset timeout) := by
  have tried : Strokes me purpose True hands world (world.trySend me site session offset).1 :=
    strokes_trySend world session offset
  have clock : (world.trySend me site session offset).1.now = world.now := by
    unfold trySend onSession
    split
    · rfl
    · split <;> simp only [*] <;> rfl
  unfold beginDelivery
  split
  · rename_i after attempt
    rw [attempt] at tried
    exact tried.trans (strokes_endDelivery _ _ _ _)
  · rename_i after attempt
    rw [attempt] at tried
    exact tried.trans (strokes_endDelivery _ _ _ _)
  · rename_i after attempt
    rw [attempt] at tried clock
    have same : after.now = world.now := clock
    rw [same]
    exact (tried.tail (.setTimer _ _)).tail (.setStage _ _ fits nofun)

/-- A delivery goes on. -/
theorem strokes_continueDelivery (world : World) (actor : Option String) (carried : Purpose)
    (session : SessionId) (offset : Int64) (due : Nat) :
    Strokes me purpose True hands world
      (world.continueDelivery me actor carried site session offset due) := by
  have tried : Strokes me purpose True hands world (world.retrySend me site session offset).1 :=
    strokes_retrySend world session offset
  unfold continueDelivery
  split
  · rename_i after attempt
    rw [attempt] at tried
    exact tried.trans (strokes_endDelivery _ _ _ _)
  · rename_i after attempt
    rw [attempt] at tried
    exact tried.trans (strokes_endDelivery _ _ _ _)
  · rename_i after attempt
    rw [attempt] at tried
    split
    · exact (tried.tail (.touch _ _ _ _ trivial)).trans (strokes_endDelivery _ _ _ _)
    · exact tried

/-- A standalone acknowledgement is refused, or its delivery begins. -/
theorem strokes_beginAcknowledge {found : Site} (world : World) (actor : Option String)
    (group topic : String) (ack : Ack) :
    Strokes me (.request site (.acknowledge group topic ack)) True hands world
      (world.beginAcknowledge me actor site found group topic ack) := by
  unfold beginAcknowledge
  split
  · split
    · split
      · exact strokes_conclude world _
      · exact strokes_beginDelivery world actor _ _ _ _ ⟨_, _, rfl⟩
    · exact strokes_conclude world _
  · exact strokes_conclude world _

/-- An administrative call is answered. -/
theorem strokes_endAdminister {found : Site} {call : AdminCall}
    (there : world.sites[site]? = some found) :
    Strokes me (.request site (.administer call)) sends hands world
      (world.endAdminister me site found call) := by
  have served : Strokes me (.request site (.administer call)) sends hands world
      (world.onBroker site fun _ => (found.broker.answer world.script call).1) :=
    .single (.serve world site _ found _ rfl there (.answer call))
  unfold endAdminister
  generalize found.broker.answer world.script call = answered at served ⊢
  exact served.trans (strokes_conclude _ _)

/-- A site after its cluster was changed. -/
theorem getElem?_sites_onBroker {found : Site} (change : Broker → Broker)
    (there : world.sites[site]? = some found) :
    (world.onBroker site change).sites[site]? =
      some { found with broker := change found.broker } := by
  simp [onBroker, onSite, there]

/-- A call is handed to the admin. -/
theorem strokes_beginAdminister {found : Site} {call : AdminCall}
    (there : world.sites[site]? = some found) :
    Strokes me (.request site (.administer call)) sends hands world
      (world.beginAdminister me site found call) := by
  have served : Strokes me (.request site (.administer call)) sends hands world
      (world.onBroker site fun _ => found.broker.recordCall call) :=
    .single (.serve world site _ found _ rfl there (.record call))
  unfold beginAdminister
  split
  · dsimp only
    split
    · exact served.trans (strokes_endAdminister (getElem?_sites_onBroker _ there))
    · exact (served.tail (.setTimer _ _)).tail (.setStage _ _ trivial nofun)
  · exact strokes_conclude world _

/-- A component that was taken away has stopped. -/
theorem strokes_endComponentStop (world : World) (actor : Option String) (component : Component)
    (parent : TaskId) (tears : site ∈ purpose.tearsDown) (rouses : purpose.Rouses parent) :
    Strokes me purpose sends hands world
      (world.endComponentStop me actor site component parent) := by
  have stopped : Strokes me purpose sends hands world
      ((world.recordStop site component true).setState site actor component .stopped) :=
    .tail (.single (.recordStop world site component true tears))
      (.setState _ site actor component .stopped tears)
  unfold endComponentStop
  dsimp only
  refine .tail (.tail ?_ (.finish _ _)) (.wake _ parent rouses)
  split
  · split
    · exact stopped.tail (.note _ actor _)
    · exact stopped
  · exact stopped

/-- A serving component is taken away and stopped. -/
theorem strokes_beginComponentStop {found : Site} (world : World) (actor : Option String)
    (component : Component) (parent : TaskId) :
    Strokes me (.stopComponent site component parent) sends hands world
      (world.beginComponentStop me actor site found component parent) := by
  have tears : site ∈ (Purpose.stopComponent site component parent).tearsDown := by
    simp [Purpose.tearsDown]
  unfold beginComponentStop
  split
  · have taken : Strokes me (.stopComponent site component parent) sends hands world
        (((world.onGateway site (·.release component)).setState site actor component
          .stopping).recordStop site component false) :=
      .tail (.tail (.single (.release world site component tears))
        (.setState _ site actor component .stopping tears))
        (.recordStop _ site component false tears)
    dsimp only
    split
    · exact (taken.tail (.finish _ _)).tail (.wake _ parent rfl)
    · split
      · exact taken.trans (strokes_endComponentStop _ actor component parent tears rfl)
      · exact (taken.tail (.setTimer _ _)).tail (.setStage _ _ trivial nofun)
  · exact .tail (.single (.finish world _)) (.wake _ parent rfl)

section Shutdown

variable {actor : Option String} {part : Shutdown}

/-- The shutdown of a gateway is announced to be over. -/
theorem strokes_completeShutdown (world : World) (owner : String)
    (tears : part.site ∈ purpose.tearsDown) :
    Strokes me purpose sends hands world (world.completeShutdown actor owner part).1 :=
  .tail (.single (.notify world part.site _ tears)) (.note _ actor _)

/-- The client has been closed. -/
theorem strokes_endClientClose (world : World) (owner : String)
    (tears : part.site ∈ purpose.tearsDown) :
    Strokes me purpose sends hands world (world.endClientClose actor owner part).1 :=
  .trans (.tail (.single (.recordStop world part.site .client true tears))
    (.setState _ part.site actor .client .stopped tears))
    (strokes_completeShutdown _ owner tears)

/-- The client is taken away and closed. -/
theorem strokes_beginClientClose (world : World) (found : Site)
    (tears : part.site ∈ purpose.tearsDown) :
    Strokes me purpose sends hands world (world.beginClientClose me actor found part).1 := by
  unfold beginClientClose
  dsimp only
  split
  · have taken : Strokes me purpose sends hands world
        ((world.onGateway part.site (·.release .client)).recordStop part.site .client false) :=
      .tail (.single (.release world part.site .client tears))
        (.recordStop _ part.site .client false tears)
    split
    · exact taken
    · split
      · exact taken.trans (strokes_endClientClose _ _ tears)
      · exact taken.tail (.setTimer _ _)
  · exact strokes_completeShutdown world _ tears

/-- The offset manager has stopped. -/
theorem strokes_endOffsetsStop (world : World) (found : Site)
    (tears : part.site ∈ purpose.tearsDown) :
    Strokes me purpose sends hands world (world.endOffsetsStop me actor found part).1 :=
  .trans (.tail (.single (.recordStop world part.site .offsets true tears))
    (.setState _ part.site actor .offsets .stopped tears))
    (strokes_beginClientClose _ found tears)

/-- The offset manager is taken away and stopped. -/
theorem strokes_beginOffsetsStop (world : World) (found : Site)
    (tears : part.site ∈ purpose.tearsDown) :
    Strokes me purpose sends hands world (world.beginOffsetsStop me actor found part).1 := by
  unfold beginOffsetsStop
  dsimp only
  split
  · have taken : Strokes me purpose sends hands world
        (((world.onGateway part.site (·.release .offsets)).setState part.site actor .offsets
          .stopping).recordStop part.site .offsets false) :=
      .tail (.tail (.single (.release world part.site .offsets tears))
        (.setState _ part.site actor .offsets .stopping tears))
        (.recordStop _ part.site .offsets false tears)
    split
    · exact taken
    · split
      · exact taken.trans (strokes_endOffsetsStop _ found tears)
      · exact taken.tail (.setTimer _ _)
  · exact strokes_beginClientClose world found tears

/-- The tasks that stop components are started. -/
theorem strokes_spawnStops (world : World) (path : TaskPath) (components : List Component)
    (bears : ∀ component ∈ components, purpose.Bears me (.stopComponent site component me)) :
    Strokes me purpose sends hands world (world.spawnStops me site path components).1 := by
  induction components generalizing world with
  | nil => exact .refl world
  | cons component rest ih =>
    have spawned : Strokes me purpose sends hands world
        (world.spawn (some (path.child component.stopTaskName).text)
          (.stopComponent site component me)).1 :=
      .single (.spawn world _ _ (bears component List.mem_cons_self))
    exact spawned.trans (ih _ fun other there => bears other (List.mem_cons_of_mem _ there))

/-- A shutdown task starts the stops of the serving components. -/
theorem bears_stopComponent {component : Component} (shuts : site ∈ purpose.shutsDown)
    (serving : component ∈ Component.serving) :
    purpose.Bears me (.stopComponent site component me) := by
  unfold Purpose.shutsDown at shuts
  split at shuts
  · exact ⟨List.mem_singleton.mp shuts, serving, rfl⟩
  · exact ⟨shuts, serving, rfl⟩
  · simp at shuts

/-- A shutdown task takes components away. -/
theorem mem_tearsDown (shuts : site ∈ purpose.shutsDown) : site ∈ purpose.tearsDown := by
  cases purpose with
  | stopComponent => simp [Purpose.shutsDown] at shuts
  | _ => exact shuts

/-- A shutdown announces itself and starts to stop the serving components. -/
theorem strokes_openShutdown (world : World) (found : Site)
    (shuts : part.site ∈ purpose.shutsDown) :
    Strokes me purpose sends hands world (world.openShutdown me actor found part).1 := by
  have announced : Strokes me purpose sends hands world
      ((world.onGateway part.site (·.notify .shutdownInitiated)).note actor
        [⟨.info, "stopping proxy", [("proxy", found.gateway.task.text)]⟩]) :=
    .tail (.single (.notify world part.site _ (mem_tearsDown shuts))) (.note _ actor _)
  exact announced.trans (strokes_spawnStops _ found.gateway.task Component.serving
    fun component serving => bears_stopComponent shuts serving)

/-- The shutdown of one gateway advances. -/
theorem strokes_advanceShutdown (world : World) (shuts : part.site ∈ purpose.shutsDown) :
    Strokes me purpose sends hands world (world.advanceShutdown me actor part).1 := by
  have tears := mem_tearsDown shuts
  unfold advanceShutdown
  split
  · exact .refl world
  · rename_i found there
    split
    · exact strokes_openShutdown world found shuts
    · split
      · exact .trans (.single (.note world actor _)) (strokes_beginOffsetsStop _ found tears)
      · exact .refl world
    · split
      · exact strokes_endOffsetsStop world found tears
      · exact .refl world
    · split
      · exact strokes_endClientClose world _ tears
      · exact .refl world
    · exact .refl world
    · exact .refl world

/-- The shutdowns of several gateways advance. -/
theorem strokes_advanceShutdowns (world : World) (parts : List Shutdown)
    (shuts : ∀ part ∈ parts, part.site ∈ purpose.shutsDown) :
    Strokes me purpose sends hands world (world.advanceShutdowns me actor parts).1 := by
  induction parts generalizing world with
  | nil => exact .refl world
  | cons part rest ih =>
    exact (strokes_advanceShutdown world (shuts part List.mem_cons_self)).trans
      (ih _ fun other there => shuts other (List.mem_cons_of_mem _ there))

/-- A part whose client is closed stays the part of its gateway. -/
theorem site_beginClientClose (world : World) (found : Site) :
    (world.beginClientClose me actor found part).2.site = part.site := by
  simp only [beginClientClose]
  split
  · split
    · rfl
    · split <;> rfl
  · rfl

/-- A part whose offset manager is stopped stays the part of its gateway. -/
theorem site_beginOffsetsStop (world : World) (found : Site) :
    (world.beginOffsetsStop me actor found part).2.site = part.site := by
  simp only [beginOffsetsStop]
  split
  · split
    · rfl
    · split
      · exact site_beginClientClose _ found
      · rfl
  · exact site_beginClientClose world found

/-- A part that advances stays the part of its gateway. -/
theorem site_advanceShutdown (world : World) :
    (world.advanceShutdown me actor part).2.site = part.site := by
  unfold advanceShutdown
  split
  · rfl
  · split
    · rfl
    · split
      · exact site_beginOffsetsStop _ _
      · rfl
    · split
      · exact site_beginClientClose _ _
      · rfl
    · split <;> rfl
    · rfl
    · rfl

/-- Parts that advance stay the parts of their gateways. -/
theorem sites_advanceShutdowns (world : World) (parts : List Shutdown) :
    (world.advanceShutdowns me actor parts).2.map (·.site) = parts.map (·.site) := by
  induction parts generalizing world with
  | nil => rfl
  | cons part rest ih =>
    simp only [advanceShutdowns, List.map_cons, site_advanceShutdown, ih]

/-- Parts that have advanced are stored, or the shutdown ends. -/
theorem strokes_continueShutdown (world : World) (logged : Bool) (parts : List Shutdown)
    (shuts : ∀ part ∈ parts, part.site ∈ purpose.shutsDown)
    (fits : ∀ advanced : List Shutdown, advanced.map (·.site) = parts.map (·.site) →
      (∀ part ∈ advanced, part.phase ≠ .broken) → (Stage.shuttingDown advanced).Fits purpose) :
    Strokes me purpose sends hands world (world.continueShutdown me actor logged parts) := by
  have advanced : Strokes me purpose sends hands world (world.advanceShutdowns me actor parts).1 :=
    strokes_advanceShutdowns world parts shuts
  have sites : (world.advanceShutdowns me actor parts).2.map (·.site) = parts.map (·.site) :=
    sites_advanceShutdowns world parts
  unfold continueShutdown
  generalize world.advanceShutdowns me actor parts = result at advanced sites ⊢
  obtain ⟨after, rest⟩ := result
  dsimp only at advanced sites ⊢
  split
  · exact advanced.tail (.finish _ _)
  · rename_i unbroken
    split
    · split
      · exact (advanced.tail (.note _ actor _)).tail (.finish _ _)
      · exact advanced.tail (.finish _ _)
    · refine advanced.tail (.setStage _ _ (fits rest sites ?_) nofun)
      intro part there broken
      exact unbroken (List.any_eq_true.mpr ⟨part, there, by rw [broken]; decide⟩)

/-- A shutdown begins. -/
theorem strokes_beginShutdown (world : World) (logged : Bool) (sites : List SiteId)
    (shuts : ∀ site ∈ sites, site ∈ purpose.shutsDown)
    (fits : ∀ advanced : List Shutdown, advanced.map (·.site) = sites →
      (∀ part ∈ advanced, part.phase ≠ .broken) → (Stage.shuttingDown advanced).Fits purpose) :
    Strokes me purpose sends hands world (world.beginShutdown me actor logged sites) := by
  refine strokes_continueShutdown world logged _ ?_ ?_
  · intro part there
    obtain ⟨site, named, rfl⟩ := List.mem_map.mp there
    exact shuts site named
  · intro advanced same unbroken
    exact fits advanced (by simpa [Function.comp_def] using same) unbroken

end Shutdown

/-- A task that runs for the first time makes strokes of its purpose. -/
theorem strokes_start (world : World) (actor : Option String) (may : purpose.Entrusts → hands) :
    Strokes me purpose purpose.Sends hands world (world.start me actor purpose) := by
  cases purpose with
  | request site request =>
    simp only [start]
    split
    · exact .single (.finish world _)
    · rename_i found there
      cases request with
      | produce submission => exact strokes_beginProduce there
      | submit submission => exact strokes_beginSubmit there
      | consume group topic ack => exact strokes_beginConsume actor group topic ack there may
      | acknowledge group topic ack => exact strokes_beginAcknowledge world actor group topic ack
      | administer call => exact strokes_beginAdminister there
      | stop =>
        refine strokes_beginShutdown world false [site] ?_ ?_
        · simp [Purpose.shutsDown]
        · exact fun _ same unbroken => ⟨same, unbroken⟩
      | query query => exact strokes_conclude world _
  | deliverAck site key offset session parent =>
    simp only [start]
    split
    · exact .single (.finish world _)
    · exact strokes_beginDelivery world actor _ session offset _ rfl
  | deliverAnswer target answer delay =>
    exact .tail (.single (.setTimer world _)) (.setStage _ _ trivial nofun)
  | stopComponent site component parent =>
    simp only [start]
    split
    · exact .tail (.single (.finish world _)) (.wake _ parent rfl)
    · exact strokes_beginComponentStop world actor component parent
  | shutdown sites logged =>
    refine strokes_beginShutdown world logged sites ?_ ?_
    · exact fun _ named => named
    · exact fun _ same unbroken => ⟨same, unbroken⟩

/-- A sleeping task that goes on makes strokes of its purpose. -/
theorem strokes_awaken (world : World) (actor : Option String) (due : Nat) :
    Strokes me purpose sends hands world (world.awaken me actor due purpose) := by
  cases purpose with
  | deliverAnswer target answer delay =>
    simp only [awaken]
    split
    · exact .tail (.single (.finish world _)) (.tell _ target answer delay rfl)
    · exact .refl world
  | stopComponent site component parent =>
    simp only [awaken]
    split
    · exact strokes_endComponentStop world actor component parent (by simp [Purpose.tearsDown]) rfl
    · exact .refl world
  | request => exact .refl world
  | deliverAck => exact .refl world
  | shutdown => exact .refl world

/-- A task that goes on makes strokes of its purpose. -/
theorem strokes_proceed (world : World) (found : Task) (fits : found.stage.Fits found.purpose)
    (may : found.stage = .fresh → found.purpose.Entrusts → hands) :
    Strokes me found.purpose found.purpose.Sends hands world (world.proceed me found) := by
  obtain ⟨actor, purpose, stage⟩ := found
  unfold proceed
  dsimp only at fits may ⊢
  split
  · exact strokes_start world actor (may rfl)
  · exact strokes_receiveReceipt world _
  · exact strokes_receiveMessage world actor _ _ _ _
  · obtain rfl := fits
    exact (strokes_retrySend world _ _).trans (strokes_settleAutoAck _ _ _ _ _ _)
  · exact strokes_continueDelivery world actor _ _ _ _
  · exact strokes_continueDelivery world actor _ _ _ _
  · split
    · exact .single (.finish world _)
    · rename_i place there
      split
      · exact strokes_endAdminister there
      · exact .refl world
  · rename_i parts site
    obtain ⟨sites, -⟩ : parts.map (·.site) = [site] ∧ _ := fits
    refine strokes_continueShutdown world false _ ?_ fun _ same unbroken =>
      ⟨same.trans sites, unbroken⟩
    intro part there
    show part.site ∈ [site]
    rw [← sites]
    exact List.mem_map_of_mem there
  · rename_i parts named logged
    obtain ⟨sites, -⟩ : parts.map (·.site) = named ∧ _ := fits
    refine strokes_continueShutdown world _ _ ?_ fun _ same unbroken =>
      ⟨same.trans sites, unbroken⟩
    intro part there
    show part.site ∈ named
    rw [← sites]
    exact List.mem_map_of_mem there
  · exact strokes_awaken world actor _
  · exact .refl world

end ClusterGateway.World
