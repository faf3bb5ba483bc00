import Mathlib.Data.List.Nodup
import Perhaps.Proofs.JsonReading
import Perhaps.Proofs.SettingsOutput

/-! Refusals as JSON lines. The event of a record keeps its own fields whatever is bound, and takes every other
bound variable as it is. So a line in JSON reads as an object that tells of the refusal, in one line. -/
namespace Perhaps

namespace Fields

variable {β : Type}

end Fields

namespace Logging

open Value (Json ofFields)

namespace Event

variable {bound : Fields Value} {now : String} {r : Record}

end Event

open Program (Instruction Registers)
open Logging.Configuration (Follows packageLogger)

variable {now : String} {start : Configuration} {ρ : Registers}

end Logging
end Perhaps
