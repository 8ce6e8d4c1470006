import GpuDiscovery.Platform

/-!
# Queries with a growing buffer

Some answers are text of unknown length. The query is first made with no room at all and then, as
long as the answer does not fit, with exactly the room that the last attempt asked for. An answer
that does not fit and does not ask for more room than it had would go round for ever, so it is an
error; so is running out of attempts.
-/

namespace GpuDiscovery

open Text Procedure

/-- What is asked for with growing buffers. -/
def storePathSubject : String := "driver store path"

/-- The error for an answer that neither fits nor asks for more room. -/
def stuckOverflow (capacity required : Nat) : DiscoveryError :=
  .message (storePathSubject ++ " query overflowed a " ++ decimal capacity ++
    " byte buffer but asked for " ++ decimal required ++ " bytes")

/-- Makes up to `attempts` queries, the first with room for `capacity` bytes. -/
def growFrom {S : System} (query : Nat → Procedure S BufferAnswer) (maxAttempts : Nat) :
    (attempts capacity : Nat) → Procedure S String
  | 0, _ => fail (.queryRetryLimit maxAttempts)
  | attempts + 1, capacity => do
    match ← query capacity with
    | .complete text => return text
    | .overflow required =>
      -- Asking again with the same room would be answered in the same way.
      if required ≤ capacity then
        fail (stuckOverflow capacity required)
      else
        growFrom query maxAttempts attempts required

/-- Makes up to `maxAttempts` queries with growing room. -/
def queryGrowing {S : System} (query : Nat → Procedure S BufferAnswer) (maxAttempts : Nat) :
    Procedure S String :=
  growFrom query maxAttempts maxAttempts 0

end GpuDiscovery
