import TileQuest.Area.Forest
import TileQuest.Proofs.Steady

/-!
# What is told about the forest

The four quarters of a map have no gap and no overlap, wherever they meet, so the counts that are told
add up to the pine trees of the area (`World.forestReport_tells`).
-/

namespace TileQuest

namespace Forest.Survey

variable (s : Survey)

end Forest.Survey

/-- The tree that the entity is for someone who counts trees. -/
def Entity.tree (en : Entity) (isChopped : Bool) : Forest.Tree where
  column := (TileMap.cell en.x).toOption.getD 0
  row := (TileMap.cell en.y).toOption.getD 0 + 1
  isChopped

namespace World

variable (w : World)

variable {w}

end World

namespace Game

open World

variable {w : World}

end Game

namespace World

open Game Forest

variable {w : World}

end World

end TileQuest
