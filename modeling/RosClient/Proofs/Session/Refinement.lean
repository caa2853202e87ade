import RosClient.Proofs.Context.Refinement
import RosClient.Proofs.Timer.Function

namespace RosClient

open Session

section

variable {session : Session} {slot : Slot}

end

section

variable {session : Session} {slot : Slot}

end

section

variable {session : Session} {slot : Slot}

end

end RosClient
