import PromptScript.Catalog

/-!
# Usage counters

What the requests of a session took so far: tokens, prices and the number of requests.
-/

namespace PromptScript

/-- The sums over the requests of a session. -/
structure Counters where
  tokensIn : UInt64
  tokensOut : UInt64
  costIn : Float
  costOut : Float
  callCount : UInt64
  deriving DecidableEq, Repr

namespace Counters

/-- The counters before the first request. -/
def zero : Counters := ⟨0, 0, 0.0, 0.0, 0⟩

/-- Counts one request. -/
def record (counters : Counters) (usage : TokenUsage) (costIn costOut : Float) : Counters :=
  { tokensIn := counters.tokensIn + usage.tokensIn
    tokensOut := counters.tokensOut + usage.tokensOut
    costIn := counters.costIn + costIn
    costOut := counters.costOut + costOut
    callCount := counters.callCount + 1 }

/-- The price of all requests and replies. -/
def totalCost (counters : Counters) : Float :=
  counters.costIn + counters.costOut

/-- The stored form. -/
def toJson (counters : Counters) : Json :=
  .object [("tokens_in", .ofNat counters.tokensIn.toNat),
    ("tokens_out", .ofNat counters.tokensOut.toNat), ("cost_in", .ofFloat counters.costIn),
    ("cost_out", .ofFloat counters.costOut), ("call_count", .ofNat counters.callCount.toNat)]

end Counters

end PromptScript
