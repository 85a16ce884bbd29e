import TileQuest.World.Bags
import TileQuest.World.Sounds

/-!
# Weapons in hand

Whoever can fight may have a weapon in hand. Its sprite is an entity of its own that follows the
fighter; putting the weapon away leaves the sprite behind.
-/

namespace TileQuest

namespace Game

def newCombat (health : Json) (onDeath : Death) : Game PartId := do
  let id ← newPart (.combat { health, maxHealth := health, onDeath })
  activate id
  return id

/-- Take a weapon in hand, or nothing. -/
def equip (id : PartId) (item? : Option ItemType) : Game Unit := do
  requires id .equip
  modifyCombat id ({ · with equipped? := item? })
  match item? with
  | none => return
  | some item =>
    match item.stat? "sound" with
    | none => pure ()
    | some stat =>
      let file ← stat.toText
      loadSound file 1
      modifyCombat id ({ · with sound? := some (.file file) })
    let sprite ← newSprite item.icon false
    let _ ← placeParts [sprite] 0 0
    modifyCombat id ({ · with weapon? := some sprite })

def unequip (id : PartId) : Game Unit := do
  requires id .unequip
  print "calling unequip"
  modifyCombat id ({ · with equipped? := none, weapon? := none, sound? := none })

def coolDown (cooldown : Json) : Except Fault Json := do
  if ← Json.less 0 cooldown then cooldown.minus 1 else return cooldown

/-- The health one frame later, which may be more than there can be. -/
def healed (c : Combat) : Except Fault Json := do
  if ← c.health.less c.maxHealth then c.health.extended c.regeneration else return c.health

def capped (maxHealth health : Json) : Except Fault Json := do
  return if ← maxHealth.less health then maxHealth else health

/-- One frame of a fighter: the cooldown runs, health comes back, and the weapon follows. -/
def updateCombat (id : PartId) (c : Combat) : Game Unit := do
  let cooldown ← coolDown c.cooldown
  modifyCombat id ({ · with cooldown })
  let health ← healed c
  modifyCombat id ({ · with health })
  let health ← capped c.maxHealth health
  modifyCombat id ({ · with health })
  match c.weapon? with
  | none => return
  | some weapon =>
    let held ← owner weapon
    let me ← entity (← owner id)
    modifyEntity held ({ · with x := me.x })
    let y ← me.y.plus 16
    modifyEntity held ({ · with y })

end Game

end TileQuest
