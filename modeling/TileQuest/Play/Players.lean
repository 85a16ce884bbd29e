import TileQuest.Play.Fighting
import TileQuest.Play.Triggers

/-!
# The player

In every frame the player walks where the keys point, first down or up and then across, each only
if the player may be there, takes in hand what is equipped in the inventory, uses or attacks what
is clicked, and touches triggers. The camera follows.
-/

namespace TileQuest

namespace Game

/-- How far the player walks in a step. -/
def pace : Int := 2

def Direction.sheetRow : Direction → Nat
  | .down => 0
  | .up => 1
  | .right => 2
  | .left => 3

def walkingFrames (d : Direction) : Json :=
  .arr ((List.range 4).map fun column => Cell.of column (Direction.sheetRow d))

def standingFrames (d : Direction) : Json := .arr [Cell.of 0 (Direction.sheetRow d)]

def startWalking (id : PartId) (me : EntityId) (d : Direction) : Game Unit := do
  if (← player id).direction ≠ d then
    modifyPlayer id ({ · with direction := d })
    setFrames (← find me Part.isAnimation) (walkingFrames d)
    modifyPlayer id ({ · with isWalking := true })

def stopWalking (id : PartId) (me : EntityId) : Game Unit := do
  let look? ← find? me Part.isAnimation
  modifyPlayer id ({ · with isWalking := false })
  let look ← orAbsent look?
  let animation ← orAbsent (← sprite look).animation?
  if (← animation.frames.length) ≠ 1 then
    setFrames look (standingFrames (← player id).direction)

def updateMessage (id : PartId) : Game Unit := do
  let hud ← orAbsent (← player id).hud?
  if 0 < hud.countdown then
    let countdown := hud.countdown - 1
    modifyPlayer id ({ · with hud? := some { hud with countdown } })
    if countdown ≤ 0 then say hud.message ""

def showPlace (id : PartId) (me : EntityId) : Game Unit := do
  let hud ← orAbsent (← player id).hud?
  let (x, y) ← entityPlace me
  let column ← TileMap.cell x
  let row ← TileMap.cell y
  say hud.place ("X: " ++ toString column ++ " - Y: " ++ toString row)

def showHealth (id : PartId) : Game Unit := do
  let p ← player id
  let amount := (← combat (← orAbsent p.combat?)).health
  modifyPart (← orAbsent p.bar?) fun part => match part with
    | .bar b => .bar { b with amount }
    | part => part

/-- Take in hand what is equipped in the inventory. -/
def followInventory (combat : PartId) : Game Unit := do
  let inventory := (← bag playerBag).inventory
  match (← Game.combat combat).equipped?, inventory.equipped? with
  | none, some slot =>
    print "Equipping"
    equip combat (← entry inventory.slots (← slot.toIndex)).item?
  | some _, none => unequip combat
  | _, _ => return

/-- A click of the player: use what is there, or attack with a weapon that has a range. -/
def handleClick (me : EntityId) (combat : PartId) : Game Unit := do
  let input := (← get).input
  if input.isFreshButton 1 then
    match (← Game.combat combat).equipped?.bind (·.stat? "range") with
    | none => interact me input.mouse.1 input.mouse.2
    | some _ => performAttack combat

/-- The way a pair of keys points, the second key going before the first. -/
def pointed (first second : Bool) (a b : Direction) (before : Option Direction) :
    Option Direction :=
  if second then some b else if first then some a else before

/-- Where a pair of keys moves the player to. -/
def moved (z : Json) (less more : Bool) : Except Fault Json := do
  let z ← if less then z.minus (.ofInt pace) else pure z
  if more then z.plus (.ofInt pace) else return z

/-- Where a view of the given size starts that has an image at a place in its middle. -/
def centred (place : Scalar) (viewSize imageSize : Int) : Except Fault Scalar := do
  (← place.sub (← Scalar.div viewSize 2)).add (← Scalar.div imageSize 2)

def follow (e : EntityId) (image : Image) : Game Unit := do
  let (x, y) ← entityPoint e
  let camera := (← get).camera
  let x ← (← centred x camera.w image.width).trunc
  modify fun w => { w with camera := { w.camera with x } }
  let y ← (← centred y camera.h image.height).trunc
  modify fun w => { w with camera := { w.camera with y } }

def updatePlayer (id : PartId) : Game Unit := do
  updateMessage id
  let me ← owner id
  showPlace id me
  let before ← entity me
  let look? ← find? me Part.isSprite
  let body? ← find? me Part.isBody
  showHealth id
  let input := (← get).input
  let up := input.isDown (.char 'w')
  let down := input.isDown (.char 's')
  let y ← moved before.y up down
  modifyEntity me ({ · with y })
  let body ← orAbsent body?
  if !(← positionIsValid body) then modifyEntity me ({ · with y := before.y })
  if input.isDown .escape then switchTo "Menu"
  let combat ← orAbsent (← player id).combat?
  followInventory combat
  handleClick me combat
  let left := input.isDown (.char 'a')
  let right := input.isDown (.char 'd')
  let x ← moved (← entity me).x left right
  modifyEntity me ({ · with x })
  if !(← positionIsValid body) then modifyEntity me ({ · with x := before.x })
  follow me (← sprite (← orAbsent look?)).image
  match pointed left right .left .right (pointed up down .up .down none) with
  | some d => startWalking id me d
  | none => if (← player id).isWalking then stopWalking id me
  touchAll body me

end Game

end TileQuest
