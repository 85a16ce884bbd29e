import TileQuest.World.Basic

/-!
# Sprites, labels and text fields in the world

How the parts that are seen are made, changed and drawn. A part is registered as soon as it is
there, so a part whose making breaks off later may stay registered.
-/

namespace TileQuest

namespace Game

/-! ## Sprites -/

def loadImage (file : String) : Game Image := do
  let image ← Image.load file
  modify fun w => { w with loadedImages := Input.insertNew w.loadedImages file }
  return image

def newSprite (file : String) (isOverlay : Bool) : Game PartId := do
  let image ← loadImage file
  let id ← newPart (.sprite { image, width := image.width, height := image.height, isOverlay })
  enlist id isOverlay
  return id

def modifySprite (id : PartId) (f : Sprite → Sprite) : Game Unit :=
  modifyPart id fun p => match p with
    | .sprite s => .sprite (f s)
    | p => p

def showCell (id : PartId) (column row : Json) : Game Unit := do
  modifySprite id fun s => { s with sheet? := s.sheet?.map ({ · with column, row }) }
  let s ← sprite id
  let sheet ← orAbsent s.sheet?
  let (x, y) ← sheet.corner
  paint [.fill s.image.name [0, 0, 0, 0]]
  let part ← Rect.ofValues x y sheet.cellWidth sheet.cellHeight
  paint [.blit s.image.name sheet.base.name 0 0 (some part)]

def newSheet (file cellWidth cellHeight column row : Json) (isOverlay : Bool)
    (animation? : Option Animation) : Game PartId := do
  let id ← newSprite (← file.toText) isOverlay
  let base := (← sprite id).image
  let image ← Image.cutSurface cellWidth cellHeight
  modifySprite id fun s =>
    { s with image, sheet? := some { base, cellWidth, cellHeight, column, row }, animation? }
  showCell id column row
  return id

def newAnimation (file cellWidth cellHeight frames framesPerImage : Json) (isOverlay : Bool) :
    Game PartId := do
  if (← frames.length) = 0 then throw .noFrames
  let animation : Animation := { frames, framesPerImage }
  let (column, row) ← animation.cell
  let id ← newSheet file cellWidth cellHeight column row isOverlay (some animation)
  activate id
  return id

/-- Give a sprite another image. A sheet sprite takes over only an image that was never loaded
before. -/
def setImage (id : PartId) (file : String) : Game Unit := do
  let s ← sprite id
  match s.sheet? with
  | none =>
    let image ← loadImage file
    modifySprite id ({ · with image })
  | some sheet =>
    if file ∉ (← get).loadedImages then
      let base ← loadImage file
      modifySprite id ({ · with sheet? := some { sheet with base } })
    showCell id sheet.column sheet.row

/-- Walk through other cells from now on. -/
def setFrames (id : PartId) (frames : Json) : Game Unit := do
  let animation ← orAbsent (← sprite id).animation?
  let animation := animation.restart frames
  modifySprite id ({ · with animation? := some animation })
  let (column, row) ← animation.cell
  showCell id column row

def updateAnimation (id : PartId) (animation : Animation) : Game Unit := do
  let ticked := animation.tick
  modifySprite id ({ · with animation? := some ticked })
  if ← ticked.isOver then
    let next ← ticked.next
    modifySprite id ({ · with animation? := some next })
    let (column, row) ← next.cell
    showCell id column row

/-! ## Labels -/

def regularFont : String := "EBGaramond-Regular.ttf"

def boldFont : String := "EBGaramond-ExtraBold.ttf"

def mediumFont : String := "EBGaramond-Medium.ttf"

def listFont : String := "Roboto/RobotoMono-Medium.ttf"

def renderText (text : Json) (size? : Option Json) : Game Image := do
  let size ← orAbsent size?
  Image.render (← text.toText) (← size.toScalar)

/-- The size of a font. Fonts are kept under their name with the size written after it, so a font
whose name ends in digits can get the size of another one. -/
def fontSize (font : String) (size : Json) : Game Json := do
  let key := font ++ size.shown
  match (← get).fonts.find? fun row => row.1 == key with
  | some row => return row.2
  | none =>
    modify fun w => { w with fonts := w.fonts ++ [(key, size)] }
    return size

def modifyLabel (id : PartId) (f : Label → Label) : Game Unit :=
  modifyPart id fun p => match p with
    | .label l => .label (f l)
    | .textField l t => .textField (f l) t
    | p => p

def setText (id : PartId) (text : Json) : Game Unit := do
  requires id .say
  modifyLabel id ({ · with text })
  let image ← renderText text (← label id).size?
  modifyLabel id ({ · with image })
  regain id .shadow

def say (id : PartId) (text : String) : Game Unit := setText id (.str text)

def firstLabel (font : String) (text size : Json) : Game Label := do
  let size ← fontSize font size
  return { size? := some size, text, image := ← renderText text (some size) }

def newLabel (font : String) (text size : Json) : Game PartId := do
  let id ← newPart (.label (← firstLabel font text size))
  enlist id true
  return id

/-- The bounds of a label, seen from its entity. -/
def bounds (id : PartId) : Game Rect := do
  let image := (← label id).image
  return { w := image.width, h := image.height }

def drawLabel (id : PartId) (l : Label) (target : String) : Game Unit := do
  let (x, y) ← place id
  let shadowX ← x.plus 1
  let shadowY ← y.plus 1
  requires id .shadow
  paint [.blit target l.image.name shadowX shadowY none, .blit target l.image.name x y none]

/-! ## Text fields -/

def white : Color := [255, 255, 255]

def paintBox (width height : Int) (ground : Color) : Game Unit :=
  let image := Image.surface width height
  paint [.fill image.name white,
    .rect image.name ground { x := 1, y := 1, w := width - 2, h := height - 2 } 0]

def modifyField (id : PartId) (f : TextField → TextField) : Game Unit :=
  modifyPart id fun p => match p with
    | .textField l t => .textField l (f t)
    | p => p

/-- The edge around the text of a text field. -/
def fieldPadding : Nat := 5

def fieldWidth : Nat := 200

structure FieldSpec where
  font : String
  text : Json := .str ""
  size : Json := 32
  /-- How long the text may get before it is cut. -/
  maxText : Json := 30
  width : Json := 400
  color : Json := .arr white
  onChange? : Option Action := none

/-- A new text field. The height of its box follows the size that was asked for. -/
def newTextField (spec : FieldSpec) : Game PartId := do
  let label ← firstLabel spec.font spec.text spec.size
  let id ← newPart (.textField label { maxText := spec.maxText, onChange? := spec.onChange? })
  enlist id true
  enlistListener id
  activate id
  let size ← spec.size.toScalar
  let height ← size.add (fieldPadding * 2 : Nat)
  let area ← Rect.ofScalars 0 0 (fieldWidth + fieldPadding * 2 : Nat) height
  modifyField id ({ · with area? := some area })
  paint [.fill (← Image.cutSurface 2 (.num size)).name (← spec.color.listed)]
  let width ← (← spec.width.toScalar).add (fieldPadding * 2 : Nat)
  let box ← Image.cutSurface width height
  paintBox box.width box.height [11, 11, 11]
  return id

def eraseLast (id : PartId) : Game Unit := do setText id (← (← label id).text.dropLast)

/-- One frame of a text field: the backspace key, the blinking, and whether typing goes here. -/
def updateTextField (id : PartId) (field : TextField) : Game Unit := do
  let w ← get
  if field.active.isTruthy && w.input.isFresh .backspace then eraseLast id
  modifyField id ({ · with blink := .bool (decide (60 < w.step % 120)) })
  let area ← orAbsent field.area?
  let (x, y) ← place id
  let (left, top) ← area.corner x y
  if ← w.input.leftIsDown then
    let isActive ← area.spans left top w.input.mouse.1 w.input.mouse.2
    modifyField id ({ · with active := .bool isActive })

/-- The longest a text stays when it has become too long. -/
def cutLength : Nat := 20

/-- Typed text reaches a text field. The result tells whether the field took it. -/
def typeInto (id : PartId) (typed : Json) : Game Bool := do
  requires id .hear
  match ← part id with
  | .textField l field =>
    if !field.active.isTruthy then return false
    let text ← l.text.extended typed
    modifyLabel id ({ · with text })
    let isLong ← field.maxText.less (.ofInt (← text.length))
    let text ← if isLong then text.take cutLength else pure text
    modifyLabel id ({ · with text })
    setText id text
    return true
  | _ => throw .absent

def drawTextField (id : PartId) (l : Label) (field : TextField) (target : String) :
    Game Unit := do
  let (x, y) ← place id
  requires id .backdrop
  paint [.blit target "surface" x y none]
  drawLabel id l target
  if field.blink.isTruthy && field.active.isTruthy then
    let cursorX ← (← x.plus (.ofInt l.image.width)).plus (.ofInt fieldPadding)
    let cursorY ← y.plus (.ofInt fieldPadding)
    requires id .cursor
    paint [.blit target "surface" cursorX cursorY none]

/-! ## Bars -/

def newBar (max width height : Json) : Game PartId := do
  let id ← newPart (.bar { amount := max, max, width, height })
  enlist id true
  return id

def paintRect (target : String) (color : Json) (area : Rect) : Game Unit := do
  paint [.rect target (← color.listed) area 0]

def drawBar (id : PartId) (b : Bar) (target : String) : Game Unit := do
  let filled ← b.amount.dividedBy b.max
  let (x, y) ← place id
  paintRect target b.backColor (← Rect.ofValues x y b.width b.height)
  let width ← (← b.width.toScalar).mul filled
  paintRect target b.frontColor (← Rect.ofValues x y (.num width) b.height)

end Game

end TileQuest
