import TileQuest.World.Screen

/-!
# Inventories on the screen

The view of an inventory shows every slot, the slot in hand marked, and in it the item with its
amount when items of the type are stacked. It is drawn anew whenever the inventory announces a
change.
-/

namespace TileQuest

namespace Game

def placeParts (parts : List PartId) (x y : Json) : Game EntityId := do
  let id : EntityId := ⟨(← get).entities.size⟩
  modify fun w => { w with entities := w.entities.push { x, y, parts } }
  parts.forM fun p => setOwner p (some id)
  return id

/-- A new sprite over the world, in an entity of its own. -/
def placeSprite (file : String) (x y : Scalar) : Game PartId := do
  let id ← newSprite file true
  let _ ← placeParts [id] x y
  return id

def placeLabel (font text : String) (size : Nat) (x y : Scalar) : Game PartId := do
  let id ← newLabel font (.str text) (.ofInt size)
  let _ ← placeParts [id] x y
  return id

/-! ## The layout of the view -/

def slotsPerRow : Nat := 5

def slotGap : Nat := 5

def slotSize : Nat := 32

def slotStep : Nat := slotSize + slotGap

def bagWindow (camera : Rect) (capacity : Int) : Rect :=
  let width : Int := slotGap + slotsPerRow * slotSize + (slotsPerRow - 1) * slotGap + slotGap
  let rows : Int := (capacity + (slotsPerRow - 1)) / slotsPerRow
  { x := camera.w - width, y := 0, w := width,
    h := slotGap + rows * slotSize + (rows - 1) * slotGap + slotGap }

/-- A coordinate lies inside a slot, not in a gap or at the upper or left edge of a slot. -/
def isInSlot (coordinate : Scalar) : Bool :=
  let rest := coordinate.mod slotStep
  Scalar.lt 0 rest && rest.lt slotSize

def slotAt? (x y : Scalar) : Except Fault (Option Int) := do
  let column ← (← x.div slotStep).trunc
  let row ← (← y.div slotStep).trunc
  return if isInSlot x && isInSlot y then some (column + row * slotsPerRow) else none

/-! ## The view -/

def bagView (id : PartId) : Game InventoryView := do
  match ← part id with
  | .inventoryView v => return v
  | _ => throw .absent

def showInView (view item : PartId) : Game Unit :=
  modifyPart view fun p => match p with
    | .inventoryView v => .inventoryView { v with items := v.items ++ [item] }
    | p => p

def renderSlot (id : PartId) (v : InventoryView) (equipped? : Option Json) (slot : Slot)
    (index : Nat) : Game Unit := do
  let x : Int := (index % slotsPerRow * slotStep : Nat) + v.window.x + slotGap
  let y : Int := (index / slotsPerRow * slotStep : Nat) + v.window.y + slotGap
  let frame := if equipped?.any (·.equal (.ofInt index)) then v.handImage else v.slotImage
  showInView id (← placeSprite (← frame.toText) x y)
  match slot.item? with
  | none => return
  | some t =>
    let icon ← placeSprite t.icon x y
    if ← Json.less 1 t.stackSize then
      showInView id (← placeLabel boldFont slot.amount.shown 30 x y)
    showInView id icon

def renderView (id : PartId) : Game Unit := do
  requires id .render
  let v ← bagView id
  let inventory := (← bag v.bag).inventory
  inventory.slots.zipIdx.forM fun (slot, index) =>
    renderSlot id v inventory.equipped? slot index

def clearView (id : PartId) : Game Unit := do
  requires id .clear
  (← bagView id).items.forM fun item => delist item true
  modifyPart id fun p => match p with
    | .inventoryView v => .inventoryView { v with items := [] }
    | p => p

def refreshView (id : PartId) : Game Unit := do
  requires id .refresh
  clearView id
  renderView id

/-- A new view of an inventory. From now on the inventory announces its changes to it. -/
def newBagView (bagId : BagId) : Game PartId := do
  let inventory := (← bag bagId).inventory
  let window := bagWindow (← get).camera inventory.capacity
  let id ← newPart (.inventoryView { bag := bagId, window })
  modifyBag bagId ({ · with viewer? := some id })
  renderView id
  activate id
  return id

def slotText (equipped? : Option Json) : String := (equipped?.getD .null).shown

/-- One frame of a view: a click takes a slot in hand, or lets go of it. -/
def updateView (id : PartId) (v : InventoryView) : Game Unit := do
  let input := (← get).input
  let (mx, my) := input.mouse
  if !input.isFreshButton 1 then return
  if ← v.window.spans v.window.x v.window.y mx my then
    let x ← (← mx).sub v.window.x
    let y ← (← my).sub v.window.y
    match ← slotAt? x y with
    | none => return
    | some index =>
      print ("selected index " ++ toString index)
      modifyBag v.bag fun b =>
        let isInHand := b.inventory.equipped?.any (·.equal (.ofInt index))
        let equipped? := if isInHand then none else some (.ofInt index)
        { b with inventory := { b.inventory with equipped? } }
      refreshView id
      print ("Inventory Slot " ++ slotText (← bag v.bag).inventory.equipped?)

/-! ## Changing an inventory -/

/-- Tell whoever shows an inventory that it changed. -/
def announce (id : BagId) : Game Unit := do
  match (← bag id).viewer? with
  | some view => refreshView view
  | none => return

/-- Put items into an inventory. The result is how many did not fit. -/
def give (id : BagId) (t : ItemType) (amount : Json) : Game Json := do
  let added := (← bag id).inventory.add t amount
  added.announced.forM fun inventory => do
    setInventory id inventory
    announce id
  setInventory id added.inventory
  added.leftover

/-- Take items out of an inventory. The result is how many were found. -/
def take (id : BagId) (t : ItemType) (amount : Json) : Game Json := do
  let removed ← (← bag id).inventory.remove t amount
  setInventory id removed.inventory
  if removed.isAnnounced then announce id
  return removed.found

end Game

end TileQuest
