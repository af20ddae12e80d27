import Bourse.Proofs.Submission
import Bourse.Proofs.Turns

namespace Bourse

open Scope

end Bourse
