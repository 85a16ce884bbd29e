import TileQuest.Chat.Basic
import TileQuest.Geometry.Box
import TileQuest.Item.Inventory
import TileQuest.Sprite

/-!
# Entities and their parts

Everything in the game is an entity: a place and a list of parts. A part is what an entity looks
like, what it does when it is touched, or what it does by itself in every frame. Entities, parts,
areas and inventories refer to each other by number. Properties that can be set to anything are
JSON values.
-/

namespace TileQuest

structure EntityId where
  index : Nat
deriving DecidableEq, Inhabited

structure PartId where
  index : Nat
deriving DecidableEq, Inhabited

structure AreaId where
  index : Nat
deriving DecidableEq, Inhabited

structure GroundId where
  index : Nat
deriving DecidableEq, Inhabited

structure BagId where
  index : Nat
deriving DecidableEq, Inhabited

/-! ## What a click does -/

/-- What happens when something on the screen is used. -/
inductive Action where
  | startPlay
  | openChooser
  | quit
  | backToMenu
  | createMap
  | setTool (tool : String)
  | leaveEditor
  /-- Use the tool of the editor where the mouse is. -/
  | useTool
  /-- Keep what was typed into the fields of the selected entity. -/
  | saveArgs
  | unfit
  | gone
  | note (tag : Nat)
deriving DecidableEq, Inhabited

/-- What happens when an item of a list is chosen. -/
inductive Choice where
  | loadMap
  | setTile
  | setEntity
  /-- A handler that does not take the number of the item. -/
  | unfit
  | note (tag : Nat)
deriving DecidableEq, Inhabited

/-- What happens when somebody's health is used up. -/
inductive Death where
  | restart
  | leave
  | unfit
  | note (tag : Nat)
deriving DecidableEq, Inhabited

/-! ## Parts on the screen -/

structure Label where
  /-- The size of the font, unless the font was taken away. -/
  size? : Option Json
  /-- What it should say. Only a string can be rendered. -/
  text : Json
  image : Image
deriving Inhabited

structure TextField where
  /-- Where it can be clicked, seen from its entity. -/
  area? : Option Rect := none
  /-- How long the text may get before it is cut. -/
  maxText : Json
  active : Json := .bool false
  blink : Json := .bool false
  onChange? : Option Action := none
deriving DecidableEq, Inhabited

structure Button where
  /-- Where it can be clicked, seen from its entity. -/
  area : Rect
  action : Action
deriving DecidableEq, Inhabited

structure Bar where
  amount : Json
  max : Json
  backColor : Json := .arr [255, 0, 0]
  frontColor : Json := .arr [0, 255, 0]
  width : Json := 300
  height : Json := 20
deriving DecidableEq, Inhabited

structure InventoryView where
  bag : BagId
  window : Rect
  slotImage : Json := .str "inventory_slot.png"
  handImage : Json := .str "selected_inventory_slot.png"
  items : List PartId := []
deriving DecidableEq, Inhabited

structure ScrollView where
  items : Json
  showsImages : Bool
  onChoose : Choice
  itemSize : Json
  /-- Where it can be clicked, seen from its entity. -/
  area : Rect
  innerY : Json := 0
  children : List EntityId := []
  drawn : List PartId := []
deriving DecidableEq, Inhabited

def ScrollView.padding : Nat := 3

/-- The rectangle of a scrolled list of the given width and height, its edge included. -/
def ScrollView.outline (width height : Scalar) : Except Fault Rect := do
  let width ← width.add (padding * 2 : Nat)
  Rect.ofScalars 0 0 width (← height.add (padding * 2 : Nat))

/-- What moves the camera of the editor and passes clicks on. -/
structure EditorHelper where
  onClick : Action
  knowsSidebar : Bool := false
deriving DecidableEq, Inhabited

/-- What is said in a dialogue, and by whose book. -/
inductive Script where
  | own (lines : Json)
  /-- The running lines of a character of the cast. -/
  | cast (name : String)
deriving Inhabited

inductive DialogueStyle where
  | typed
  | stepped
deriving DecidableEq, Inhabited

structure Dialogue where
  style : DialogueStyle
  script : Script
  npcName : Json
  background : PartId
  speaker : PartId
  content : PartId
  helper : PartId
  inputBox? : Option PartId := none
  inputLabel? : Option PartId := none
  line : Int := -1
  isWaiting : Bool := false
  isTyping : Bool := false
  typed : String := ""
  /-- The character's side of the conversation, once it has begun. -/
  agent? : Option Agent := none
deriving Inhabited

/-- What is shown in the box of a dialogue, in the order in which it is taken down. -/
def Dialogue.shown (d : Dialogue) : List PartId :=
  [d.background, d.speaker, d.content, d.helper] ++ d.inputBox?.toList ++ d.inputLabel?.toList

/-! ## Parts in the world -/

inductive TriggerForm where
  | plain
  | teleporter (file column row : Json)
  | dropped (item : ItemType) (quantity : Json)
deriving DecidableEq, Inhabited

/-- What clicking on something in the world does. -/
inductive UsableForm where
  | plain
  /-- Chop a tree down, unless that was done already. -/
  | tree (stump : String) (chopped : Json)
  | rock
  | character
  | scripted (file : Json)
deriving DecidableEq, Inhabited

/-- Something in the world that can be clicked. -/
structure Usable where
  name : Json
  form : UsableForm
deriving DecidableEq, Inhabited

inductive WeaponSound where
  | file (name : String)
  | unfit
deriving DecidableEq, Inhabited

structure Combat where
  health : Json
  maxHealth : Json
  onDeath : Death
  regeneration : Json := .num (.ofRat (mkRat 1 100))
  /-- The time until the next attack. Only a number runs out. -/
  cooldown : Json := 0
  equipped? : Option ItemType := none
  weapon? : Option PartId := none
  sound? : Option WeaponSound := none
deriving DecidableEq, Inhabited

inductive Direction where
  | left
  | up
  | right
  | down
deriving DecidableEq, Inhabited

/-- What the player sees on the screen. -/
structure Hud where
  /-- The label that tells where the player is. -/
  place : PartId
  message : PartId
  window : EntityId
  countdown : Int
deriving DecidableEq, Inhabited

structure Player where
  direction : Direction := .down
  isWalking : Bool := false
  /-- The health to start with, until it is put to use. -/
  health? : Option Json := none
  hud? : Option Hud := none
  combat? : Option PartId := none
  bar? : Option PartId := none
deriving DecidableEq, Inhabited

structure Enemy where
  /-- The health to start with, until it is put to use. -/
  health? : Option Json
  weapon : ItemType
  /-- In which step of every thirty it looks around. -/
  phase : Int
  target? : Option (Scalar × Scalar) := none
  targeted? : Option EntityId := none
  combat? : Option PartId := none
deriving DecidableEq, Inhabited

/-- The arguments of an entity in the editor. -/
inductive Args where
  | own (values : List String)
  /-- The ones that every entity of the factory starts from. -/
  | defaults (factory : Nat)
deriving DecidableEq, Inhabited

/-- What stands for an entity in the editor. -/
structure Placeholder where
  factory : Json
  args : Args
deriving DecidableEq, Inhabited

/-! ## Probes -/

inductive ProbeKind where
  /-- Reports when it is set up and broken down. -/
  | reporting
  /-- A reporting probe of a more special sort. -/
  | special
  | silent
  /-- Reports that it is set up, and adds a reporting probe. -/
  | spawning
  /-- A reporting probe that deletes its entity when it is set up. -/
  | deleting
  | inert
deriving DecidableEq, Inhabited

/-- A part that reports what is done with it. -/
structure Probe where
  kind : ProbeKind
  name : Json
deriving DecidableEq, Inhabited

/-- A probe of the first sort is also one of the second. -/
def ProbeKind.isA (k base : ProbeKind) : Bool :=
  k == base || (base == .reporting && (k == .special || k == .deleting))

/-! ## Parts -/

inductive Part where
  | sprite (s : Sprite)
  | inputBox (width height : Int)
  | label (l : Label)
  | textField (l : Label) (f : TextField)
  | button (b : Button)
  | bar (b : Bar)
  | window
  | inventoryView (v : InventoryView)
  | scrollView (s : ScrollView)
  | editorHelper (h : EditorHelper)
  | dialogue (d : Dialogue)
  | shape (hitbox : Rect)
  | body (hitbox : Rect)
  /-- A hitbox that does something when the player touches it. -/
  | trigger (hitbox : Rect) (form : TriggerForm)
  | usable (u : Usable)
  | combat (c : Combat)
  | player (p : Player)
  | enemy (e : Enemy)
  | placeholder (p : Placeholder)
  | probe (p : Probe)
deriving Inhabited

namespace Part

def isSprite : Part → Bool
  | sprite _ => true
  | inputBox .. => true
  | _ => false

/-- An image that shows a cell of a larger one. -/
def isSheet : Part → Bool
  | sprite s => s.sheet?.isSome
  | _ => false

def isAnimation : Part → Bool
  | sprite s => s.animation?.isSome
  | _ => false

def isLabel : Part → Bool
  | label _ => true
  | textField .. => true
  | _ => false

def isBody : Part → Bool
  | body _ => true
  | _ => false

def isTrigger : Part → Bool
  | trigger .. => true
  | _ => false

def isCombat : Part → Bool
  | combat _ => true
  | _ => false

def isPlayer : Part → Bool
  | player _ => true
  | _ => false

def isUsable : Part → Bool
  | usable _ => true
  | _ => false

def isPlaceholder : Part → Bool
  | placeholder _ => true
  | _ => false

def isProbe (base : ProbeKind) : Part → Bool
  | probe p => p.kind.isA base
  | _ => false

def hitbox? : Part → Option Rect
  | shape r => some r
  | body r => some r
  | trigger r _ => some r
  | _ => none

/-- The label, for lines of text of any sort. -/
def label? : Part → Option Label
  | label l => some l
  | textField l _ => some l
  | _ => none

end Part

/-! ## What a part is asked for -/

/-- Something that a part is asked to do, or that it needs to do it. -/
inductive Faculty where
  | act
  | draw
  | breakDown
  | say
  | hear
  | changeTool
  | equip
  | unequip
  | attack
  | attackAround
  | refresh
  | render
  | clear
  | shadow
  | backdrop
  | canvas
  | cursor
  /-- The entities of the items, as something that can be emptied. -/
  | children
  /-- What is drawn inside, as something that can be emptied. -/
  | content
deriving DecidableEq, Inhabited

/-- Why a faculty that was lost cannot be used: what is no operation cannot be carried out, and
what is no image and no list lacks what they have. -/
def Faculty.fault : Faculty → Fault
  | shadow | backdrop | canvas | cursor | children | content => .absent
  | _ => .wrongSort

/-- A part and the entity it belongs to. -/
structure Owned where
  part : Part
  /-- The entity it belongs to, once it was added to one. -/
  owner? : Option EntityId := none
  /-- Why nothing can be told of the part any more, if a property was put out of order. -/
  unreadable? : Option Fault := none
  /-- What it is not able to do any more, for the same reason. -/
  lost : List Faculty := []
deriving Inhabited

structure Entity where
  x : Json := 0
  y : Json := 0
  parts : List PartId := []
deriving DecidableEq, Inhabited

end TileQuest
