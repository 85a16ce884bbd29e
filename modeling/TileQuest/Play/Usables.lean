import TileQuest.Area.Loading
import TileQuest.Play.Dialogue

/-!
# Using things in the world

A click on something in the world uses it, and how far away the player stands decides what comes
of it: trees are chopped, rocks are mined, and characters are talked to.
-/

namespace TileQuest

namespace Game

/-- How close one has to be to a tree or a rock. -/
def toolReach : Json := 60

/-- How close one has to be to somebody to talk. -/
def talkReach : Json := 150

/-- Show a message to the player that an entity is. -/
def tellEntity (e : EntityId) (text : String) : Game Unit := do
  tell (← find e Part.isPlayer) text

def showTool (e : EntityId) (tool : ItemType) : Game Unit := do
  let (x, y) ← entityPlace e
  let icon ← Image.load tool.icon
  modify fun w => { w with effects := w.effects ++ [.toolUse x y icon] }

def bestTool? (stat : String) : Game (Option ItemType) := do
  let (power, item?) ← (← bag playerBag).inventory.best stat
  return if power ≤ 0 then none else item?

def chop (id : PartId) (name : Json) (stump : String) (user : EntityId) (distance : Json) :
    Game Unit := do
  match ← bestTool? "chop_power" with
  | none => tellEntity user ("You need an axe to chop this " ++ (← name.toText))
  | some tool =>
    showTool user tool
    if ← distance.less toolReach then
      playSound "chop_tree.mp3"
      tellEntity user ("Chopping " ++ (← name.toText))
      setImage (← find (← owner id) Part.isSprite) stump
      setPart id (.usable { name, form := .tree stump (.bool true) })
    else tellEntity user "I need to get closer"

def mine (id : PartId) (name : Json) (user : EntityId) (distance : Json) : Game Unit := do
  match ← bestTool? "mine_power" with
  | none => tellEntity user ("You need a pickaxe to mine this " ++ (← name.toText))
  | some tool =>
    showTool user tool
    if ← distance.less toolReach then
      playSound "mine_rock.mp3"
      tellEntity user ("Mining " ++ (← name.toText))
      let rock ← owner id
      removeEntity (← currentArea) rock
    else tellEntity user "I need to get closer"

/-- The script of a talk with a character of the cast. The character first hears its own lines;
where they cannot be kept, it has only one thing to say. -/
def castScript (name : Json) : Game Script := do
  let name ← name.toKey
  let lines ← lookup (← get).castLines name
  let agent ← newAgent (.str name)
  tryCatch (do
    keepChat (agent.hear (.arr lines) .null)
    return .cast name) fun fault => do
    note (.fault "Error initializing NPC dialogue: " fault "")
    return .own (.arr [.str "Hi, how can I help you?"])

def fileScript (file : Json) : Game Script := do
  let data ← (← get).disk.read (Disk.scriptFolder ++ "/" ++ (← file.toText))
  let text := Text.unifyNewlines (← Text.decode data.content)
  return .own (.arr ((Text.split '\n' text).map .str))

def talk (name : Json) (script : Game Script) (user : EntityId) (distance : Json) :
    Game Unit := do
  if ← distance.less talkReach then
    let _ ← openDialogue .typed (← script) name
  else tellEntity user "I need to get closer"

def useBy (id : PartId) (u : Usable) (user : EntityId) (distance : Json) : Game Unit := do
  match u.form with
  | .plain => print "Base on function called"
  | .tree stump chopped =>
    if chopped.isTruthy then tellEntity user "This tree is already chopped"
    else chop id u.name stump user distance
  | .rock => mine id u.name user distance
  | .character => talk u.name (castScript u.name) user distance
  | .scripted file => talk u.name (fileScript file) user distance

/-- Use something. It takes nobody to use what does nothing. -/
def useOn (id : PartId) (user? : Option EntityId) (distance : Json) : Game Unit := do
  match ← part id, user? with
  | .usable { form := .plain, .. }, none => print "Base on function called"
  | .usable u, some user => useBy id u user distance
  | _, _ => throw .absent

def useNew (name : Json) (form : UsableForm) (user? : Option EntityId) (distance : Json) :
    Game Unit := do
  let id ← newUsable name form
  let _ ← spawn [id] 0 0
  useOn id user? distance

/-! ## Clicking -/

def feetDistance (a b : Image) (ax ay bx by' : Scalar) : Except Fault Scalar := do
  Json.distance (← ax.add (← Scalar.div a.width 2)) (← ay.add a.height)
    (← bx.add (← Scalar.div b.width 2)) (← by'.add b.height)

/-- A point lies in an image at a place on the screen, edges left out. Its height is not looked
at if the point is beside the image. -/
def isUnder (image : Image) (x y : Scalar) (px py : Except Fault Scalar) : Except Fault Bool := do
  let px ← px
  if !x.lt px then return false
  if !px.lt (← x.add image.width) then return false
  let py ← py
  if !y.lt py then return false
  return py.lt (← y.add image.height)

def useFirst (user : EntityId) (mx my : Except Fault Scalar) : List PartId → Game Unit
  | [] => return
  | id :: rest => do
    match ← find? (← owner id) Part.isSprite with
    | none => useFirst user mx my rest
    | some look =>
      let camera := (← get).camera
      let image := (← sprite look).image
      let (px, py) ← point id
      let x ← px.sub camera.x
      let y ← py.sub camera.y
      if ← isUnder image x y mx my then
        let mine := (← sprite (← find user Part.isSprite)).image
        let (myX, myY) ← entityPoint user
        useOn id (some user)
          (← feetDistance image mine x y (← myX.sub camera.x) (← myY.sub camera.y))
      else useFirst user mx my rest

/-- Use what is at a point of the screen. -/
def interact (user : EntityId) (mx my : Except Fault Scalar) : Game Unit := do
  useFirst user mx my (← get).usables

end Game

end TileQuest
