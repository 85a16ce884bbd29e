import TileQuest.Play.Enemies
import TileQuest.Play.Players
import TileQuest.Stage.Editing

/-!
# Frames

In every frame the game handles what the player did, lets every active part act, and draws
everything: the ground, the parts in the world, the effects, and the parts over the world.

Parts that act may register and unregister others. The walk over the active parts goes by
position: it goes on at the next position of whatever the list is then.
-/

namespace TileQuest

namespace Game

/-! ## Acting -/

def updateButton (id : PartId) (b : Button) : Game Unit := do
  let (x, y) ← place id
  let (left, top) ← b.area.corner x y
  let input := (← get).input
  if input.isFreshButton 1 then
    if ← b.area.spans left top input.mouse.1 input.mouse.2 then perform b.action

def scrollMax (s : ScrollView) : Except Fault Scalar := do
  let length ← s.itemSize.times (← s.items.length)
  let margin ← Scalar.mul s.area.h (.ofRat (mkRat 1 2))
  let m ← (← length.toScalar).sub margin
  return if m.lt 0 then 0 else m

/-- How far a list scrolls per turn of the wheel. -/
def scrollStep : Nat := 16

/-- Choose the item of a list that was clicked, given the heights of the click and of the list. -/
def chooseItem (s : ScrollView) (click : Scalar) (top : Json) : Game Unit := do
  let depth ← (← Json.plus (.num click) s.innerY).minus top
  let index ← (← depth.dividedBy s.itemSize).trunc
  let count ← s.items.length
  if index < count then choose s.onChoose (← s.items.item index) index

/-- A number kept between zero and a limit. -/
def clamped (y limit : Scalar) : Scalar :=
  let y := if y.lt 0 then 0 else y
  if limit.lt y then limit else y

/-- Scroll a list, and move its items along. -/
def scroll (id : PartId) (s : ScrollView) (amount : Scalar) : Game Unit := do
  let turned ← (← s.innerY.toScalar).sub (← amount.mul scrollStep)
  setPart id (.scrollView { s with innerY := .num turned })
  let innerY := clamped turned (← scrollMax s)
  setPart id (.scrollView { s with innerY := .num innerY })
  s.children.zipIdx.forM fun (child, index) => do
    let y ← (← s.itemSize.times index).minus innerY
    modifyEntity child ({ · with y })

/-- One frame of a list: a click chooses an item, and the wheel scrolls. -/
def updateList (id : PartId) (s : ScrollView) : Game Unit := do
  let (x, y) ← place id
  let (left, top) ← s.area.corner x y
  let input := (← get).input
  let (mx, my) := input.mouse
  if ← s.area.spans left top mx my then
    if input.isFreshButton 1 then chooseItem s (← my) y
    match ← part id with
    | .scrollView s => scroll id s input.scroll
    | _ => return

/-- How far the camera of the editor moves in a frame. -/
def cameraPace : Int := 8

def moveCamera (camera : Rect) (input : Input) : Rect :=
  let step (less more : Char) : Int :=
    (if input.isDown (.char more) then cameraPace else 0) -
      (if input.isDown (.char less) then cameraPace else 0)
  { camera with x := camera.x + step 'a' 'd', y := camera.y + step 'w' 's' }

def updateEditorHelper (h : EditorHelper) : Game Unit := do
  modify fun w => { w with camera := moveCamera w.camera w.input }
  if ← (← get).input.leftIsDown then perform h.onClick

/-- Tell the helper of the editor that the tool was changed. Only one that was told that it has no
sidebar can do without one. -/
def changeTool (id : PartId) : Game Unit := do
  requires id .changeTool
  match ← part id with
  | .editorHelper { knowsSidebar := true, .. } => return
  | _ => throw .absent

def update (id : PartId) : Game Unit := do
  requires id .act
  match ← part id with
  | .sprite { animation? := some animation, .. } => updateAnimation id animation
  | .textField _ field => updateTextField id field
  | .button b => updateButton id b
  | .inventoryView v => updateView id v
  | .scrollView s => updateList id s
  | .editorHelper h => updateEditorHelper h
  | .dialogue _ => updateDialogue id
  | .combat c => updateCombat id c
  | .player _ => updatePlayer id
  | .enemy _ => updateEnemy id
  | _ => throw .absent

/-- Let the active parts act, from a position in the list on. -/
def updateFrom : (rounds position : Nat) → Game Unit
  | 0, _ => throw .endless
  | rounds + 1, position => do
    match (← get).active[position]? with
    | none => return
    | some id =>
      update id
      updateFrom rounds (position + 1)

def updateAll : Game Unit := do
  let w ← get
  updateFrom (w.active.length + loadBound w) 0

/-! ## Drawing -/

/-- Draw something inside a list, or on the screen, that holds nothing else. -/
def drawPlain (target : String) (id : PartId) : Game Unit := do
  requires id .draw
  match ← part id with
  | .sprite s =>
    let (x, y) ← place id
    paint (← s.draw target (← get).camera x y)
  | .inputBox width height =>
    let (x, y) ← place id
    paint [.blit target "surface" x y none]
    paint [.rect target white (← Rect.ofValues x y (.ofInt width) (.ofInt height)) 2]
  | .label l => drawLabel id l target
  | .textField l field => drawTextField id l field target
  | .bar b => drawBar id b target
  | _ => throw .absent

def draw (id : PartId) : Game Unit := do
  match ← part id with
  | .scrollView s =>
    requires id .draw
    requires id .canvas
    requires id .backdrop
    paint [.blit "surface" "surface" 0 0 none]
    s.drawn.forM (drawPlain "surface")
    let (x, y) ← place id
    paint [.blit screen "surface" x y none]
  | _ => drawPlain screen id

def drawScenery (s : Scenery) : Game Unit := do
  match s with
  | .ground g => paint (← (← ground g).draw (← get).camera)
  | .unfinished => throw .absent

def passEffects : Game Unit := do
  let w ← get
  let pass := Effect.pass w.camera w.effects
  modify ({ · with effects := pass.remaining })
  paint (← pass.drawn.mapM (·.draw w.camera))
  pass.fault?.forM throw

def skyColor : Color := [30, 150, 240]

def drawAll : Game Unit := do
  paint [.fill screen skyColor]
  (← get).background.forM drawScenery
  (← get).drawn.forM draw
  passEffects
  (← get).overlay.forM draw

/-! ## Events -/

/-- Typed text reaches a text field, and what follows from it is done. -/
def enterText (text : Json) (id : PartId) : Game Unit := do
  if ← typeInto id text then
    match ← part id with
    | .textField _ { onChange? := some action, .. } => perform action
    | _ => return

def typeText (text : Json) : Game Unit := do (← get).listeners.forM (enterText text)

def modifyInput (f : Input → Input) : Game Unit := modify fun w => { w with input := f w.input }

/-- Handle something the player did. What goes up must have been down. -/
def handle (event : Event) : Game Unit := do
  let input := (← get).input
  match event with
  | .quit => modify ({ · with isRunning := false })
  | .keyDown k =>
    modifyInput fun i =>
      { i with down := Input.insertNew i.down k, fresh := Input.insertNew i.fresh k }
  | .keyUp k =>
    if k ∉ input.down then throw .unknownKey
    modifyInput fun i => { i with down := i.down.erase k }
  | .buttonDown b =>
    modifyInput fun i =>
      { i with buttonsDown := Input.insertNew i.buttonsDown b,
               freshButtons := Input.insertNew i.freshButtons b }
  | .buttonUp b =>
    if b ∉ input.buttonsDown then throw .unknownKey
    modifyInput fun i => { i with buttonsDown := i.buttonsDown.erase b }
  | .mouseMove .. => return
  | .wheel amount =>
    let scroll ← input.scroll.add (← amount.toScalar)
    modifyInput ({ · with scroll })
  | .text s => typeText s

def frame (events : List Event) : Game Unit := do
  modify fun w => { w with step := w.step + 1, input := w.input.beginFrame events, drawing := [] }
  events.forM handle
  updateAll
  drawAll

def frames : List (List Event) → Game Unit
  | [] => return
  | events :: rest => do
    frame events
    if (← get).isRunning then frames rest

/-! ## Starting -/

def openWindow : Game Unit :=
  modify fun w => { w with camera := { w.camera with w := 1280, h := 720 } }

def register (stage : String) (scene : Scene) : Game Unit :=
  modify fun w => { w with scenes := store w.scenes stage scene }

def start : Game Unit := do
  openWindow
  register "Menu" .menu
  register "Play" .play
  register "EditorChooseFile" .chooser
  register "EditorEditMap" .editor
  switchTo "Menu"

def startEditor (file : Json) : Game Unit := do
  openWindow
  register "Menu" .blank
  register "Play" .blank
  register "EditorChooseFile" .blank
  register "EditorEditMap" .editor
  setMapFile file
  switchTo "EditorEditMap"

def startDemo : Game Unit := do
  openWindow
  register "Test" .demo
  switchTo "Test"

end Game

end TileQuest
