import TileQuest.Play.Fighting

/-!
# Enemies

Once in every thirty steps an enemy looks around for a player. It attacks the player it is after
as soon as its weapon reaches, and walks toward where it last saw the player.
-/

namespace TileQuest

namespace Game

def vision : Json := 500

def enemyPace : Scalar := .ofRat (mkRat 1 2)

/-- Look at the bodies in view, the last player among them being the one to go after. -/
def lookForPlayer : List PartId → Option (EntityId × Scalar × Scalar) →
    Game (Option (EntityId × Scalar × Scalar))
  | [], found => return found
  | body :: rest, found => do
    let e ← owner body
    if ← hasPart e Part.isPlayer then
      let (x, y) ← entityPoint e
      lookForPlayer rest (some (e, x, y))
    else lookForPlayer rest found

def lookAround (id : PartId) : Game Unit := do
  let me ← entity (← owner id)
  let found ← lookForPlayer (← bodiesInCircle me.x me.y vision) none
  modifyEnemy id fun e =>
    { e with targeted? := found.map (·.1), target? := found.map fun f => (f.2.1, f.2.2) }

/-- An enemy attacks somebody if the weapon reaches. -/
def attackTargeted (id : PartId) (other : EntityId) : Game Unit := do
  let combat ← orAbsent (← enemy id).combat?
  let weapon ← orAbsent (← Game.combat combat).equipped?
  let range ← (← weapon.stat "range").toInt
  let (x, y) ← place id
  let (targetX, targetY) ← entityPlace other
  let distance ← Json.distance x y targetX targetY
  if distance.lt range then attack combat (← find? other Part.isCombat)

def stepToward (x : Json) (target : Scalar) : Except Fault Json := do
  let x ← if ← x.less target then x.plus enemyPace else pure x
  if ← Json.less target x then x.minus enemyPace else return x

/-- An enemy walks one step toward a place, across and then down, each only if it may be there. -/
def walkToward (id : PartId) (tx ty : Scalar) : Game Unit := do
  let me ← owner id
  let body? ← find? me Part.isBody
  let before ← entity me
  let x ← stepToward before.x tx
  modifyEntity me ({ · with x })
  let body ← orAbsent body?
  if !(← positionIsValid body) then modifyEntity me ({ · with x := before.x })
  let y ← stepToward before.y ty
  modifyEntity me ({ · with y })
  if !(← positionIsValid body) then modifyEntity me ({ · with y := before.y })

def updateEnemy (id : PartId) : Game Unit := do
  if (← get).step % 30 = (← enemy id).phase then lookAround id
  match (← enemy id).targeted? with
  | some other => attackTargeted id other
  | none => pure ()
  match (← enemy id).target? with
  | some (tx, ty) => walkToward id tx ty
  | none => return

end Game

end TileQuest
