import Backplane.Rpc.Stages

namespace Backplane.Rpc

variable {σ : Type}

namespace StagedLayer

end StagedLayer

end Backplane.Rpc
