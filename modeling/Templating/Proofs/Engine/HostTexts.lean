import Templating.Engine.Untagged
import Templating.Proofs.Engine.Untagged

/-!
# Texts without an encoding

A template without tags that a host hands over is rendered as any text, unless it holds a
surrogate. Then it leaves the engine in a way that no attempt catches.
-/

namespace Templating
namespace HostText

end HostText

namespace Engine

variable {σ : Type} (engine : Engine σ)

end Engine
end Templating
