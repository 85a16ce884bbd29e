import TileQuest.Stage.Scenes

/-!
# Fighting

An attack takes the damage of the weapon from the other's health and starts the cooldown of the
weapon. Whoever has no health left dies: the player starts anew, an enemy leaves the area.
-/

namespace TileQuest

namespace Game

def die (death : Death) (e : EntityId) : Game Unit := do
  match death with
  | .restart => switchTo "Play"
  | .leave =>
    removeEntity (← currentArea) e
    print "Called Death"
  | .unfit => throw .wrongSort
  | .note tag => modify fun w => { w with deaths := tag :: w.deaths }

def strike (id : PartId) (weapon : ItemType) (other? : Option PartId) : Game Unit := do
  let damage ← (← weapon.stat "damage").toInt
  let other ← orAbsent other?
  let health ← (← combat other).health.minus (.ofInt damage)
  modifyCombat other ({ · with health })
  let cooldown ← (← weapon.stat "cooldown").times 60
  modifyCombat id ({ · with cooldown })
  cooldown.str?.forM print
  match (← combat id).sound? with
  | some (.file file) => playSound file
  | some .unfit => throw .absent
  | none => pure ()
  let (x, y) ← place other
  modify fun w => { w with effects := w.effects ++ [.hitText x y (toString damage)] }
  print ("Took " ++ toString damage ++ " damage")
  let c ← combat other
  if ← c.health.atMost 0 then die c.onDeath (← owner other)

/-- Attack somebody, with a weapon in hand that is not on cooldown. -/
def attack (id : PartId) (other? : Option PartId) : Game Unit := do
  requires id .attack
  let c ← combat id
  match c.equipped? with
  | none => return
  | some weapon => if !(← Json.less 0 c.cooldown) then strike id weapon other?

def attackBody (id : PartId) (body : PartId) : Game Unit := do
  let other ← owner body
  match ← find? other Part.isCombat with
  | none => return
  | some combat => if other ≠ (← owner id) then attack id (some combat)

/-- Attack everybody in the range of the weapon. -/
def performAttack (id : PartId) : Game Unit := do
  requires id .attackAround
  match (← combat id).equipped? with
  | none => return
  | some weapon =>
    match weapon.stat? "range" with
    | none => return
    | some range =>
      let me ← entity (← owner id)
      (← bodiesInCircle me.x me.y range).forM (attackBody id)

end Game

end TileQuest
