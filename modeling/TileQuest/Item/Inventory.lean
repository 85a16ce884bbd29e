import TileQuest.Item.Basic

/-!
# Inventories

An inventory is a row of slots. A slot has an item type and an amount; without a type the amount
counts for nothing.

Adding fills the open stacks of the type, then puts the rest into the slots without a type, a stack
each (`Inventory.add`). Taking out looks for one slot that holds enough (`Inventory.remove`).
Whoever shows the inventory is told after every slot that is given a type or emptied, and once when
the open stacks took everything (`Added.announced`).

Amounts and stack sizes can be any values. One that cannot be compared or added is a fault, and
what was filled before it stays filled.
-/

namespace TileQuest

structure Slot where
  item? : Option ItemType := none
  amount : Json := 0
deriving DecidableEq, Inhabited

structure Inventory where
  capacity : Int
  slots : List Slot
  equipped? : Option Json := none
deriving DecidableEq, Inhabited

structure Added where
  inventory : Inventory
  /-- How many did not fit, or why that could not be told. -/
  leftover : Except Fault Json
  announced : List Inventory

structure Removed where
  inventory : Inventory
  found : Json
  isAnnounced : Bool
deriving Inhabited

namespace Inventory

def empty (capacity : Int) : Inventory :=
  { capacity, slots := List.replicate capacity.toNat {} }

/-! ## Adding -/

/-- How much of an amount goes into a slot, so that it holds no more than a stack. -/
def share (stackSize : Json) (slot : Slot) (amount : Json) : Except Fault Json := do
  let room ← stackSize.minus slot.amount
  return if ← room.less amount then room else amount

def fill (stackSize : Json) (slot : Slot) (amount : Json) : Slot × Except Fault Json :=
  match share stackSize slot amount with
  | .error fault => (slot, .error fault)
  | .ok taken =>
    match slot.amount.plus taken with
    | .error fault => (slot, .error fault)
    | .ok total => ({ slot with amount := total }, amount.minus taken)

/-- Fill the open stacks of a type. The result is the slots, what is left, and whether that came
to nothing more at one of the stacks. -/
def topUp (t : ItemType) : List Slot → Json → List Slot × Except Fault (Json × Bool)
  | [], amount => ([], .ok (amount, false))
  | slot :: rest, amount =>
    if slot.item? = some t then
      match fill t.stackSize slot amount with
      | (slot, .error fault) => (slot :: rest, .error fault)
      | (slot, .ok left) =>
        match left.atMost 0 with
        | .error fault => (slot :: rest, .error fault)
        | .ok true => (slot :: rest, .ok (left, true))
        | .ok false =>
          let (rest, result) := topUp t rest left
          (slot :: rest, result)
    else
      let (rest, result) := topUp t rest amount
      (slot :: rest, result)

/-- Put as much as one stack holds into the first slot without a type, if there is one. The result
is the slots, and whether there is more. The slot has its type even if that cannot be told. -/
def place? (t : ItemType) (amount : Json) : List Slot → Option (List Slot × Except Fault Bool)
  | [] => none
  | slot :: rest =>
    match slot.item? with
    | some _ => (place? t amount rest).map fun placed => (slot :: placed.1, placed.2)
    | none =>
      match t.stackSize.less amount with
      | .error fault => some ({ slot with item? := some t } :: rest, .error fault)
      | .ok isMore =>
        let amount := if isMore then t.stackSize else amount
        some ({ item? := some t, amount } :: rest, .ok isMore)

def freeSlots (slots : List Slot) : Nat := slots.countP fun s => s.item?.isNone

theorem item?_fill (stackSize : Json) (slot : Slot) (amount : Json) :
    (fill stackSize slot amount).1.item? = slot.item? := by
  unfold fill
  split
  · rfl
  · split <;> rfl

theorem freeSlots_topUp (t : ItemType) (slots : List Slot) (amount : Json) :
    freeSlots (topUp t slots amount).1 = freeSlots slots := by
  induction slots generalizing amount with
  | nil => rfl
  | cons slot rest ih =>
    have hfill := item?_fill t.stackSize slot amount
    simp only [freeSlots] at ih
    rw [topUp]
    split
    · split
      · next h =>
        rw [h] at hfill
        dsimp only at hfill
        simp [freeSlots, List.countP_cons, hfill]
      · next h =>
        rw [h] at hfill
        dsimp only at hfill
        split <;> simp [freeSlots, List.countP_cons, hfill, ih]
    · simp [freeSlots, List.countP_cons, ih]

theorem freeSlots_place? {t : ItemType} {amount : Json} {slots : List Slot}
    {placed : List Slot × Except Fault Bool} (h : place? t amount slots = some placed) :
    freeSlots placed.1 + 1 = freeSlots slots := by
  induction slots generalizing placed with
  | nil => simp [place?] at h
  | cons slot rest ih =>
    rw [place?] at h
    split at h
    · next hs =>
      obtain ⟨r, hr, rfl⟩ := Option.map_eq_some_iff.1 h
      have := ih hr
      simp only [freeSlots] at this
      simp [freeSlots, hs, this]
    · next hn =>
      split at h <;> (cases h; simp [freeSlots, hn])

/-- What filling the open stacks comes to. Only types that stack have open stacks. -/
def topUpAll (t : ItemType) (slots : List Slot) (amount : Json) :
    List Slot × Except Fault (Json × Bool) :=
  match Json.less 1 t.stackSize with
  | .error fault => (slots, .error fault)
  | .ok true => topUp t slots amount
  | .ok false => (slots, .ok (amount, false))

theorem freeSlots_topUpAll (t : ItemType) (slots : List Slot) (amount : Json) :
    freeSlots (topUpAll t slots amount).1 = freeSlots slots := by
  unfold topUpAll
  split
  · rfl
  · exact freeSlots_topUp t slots amount
  · rfl

/-- Add items, `announced` being the announcements so far, the last one first. Every round that
goes on has given a type to one more slot. -/
def addFrom (inv : Inventory) (t : ItemType) (amount : Json) (announced : List Inventory) :
    Added :=
  match _hf : topUpAll t inv.slots amount with
  | (slots, result) =>
    let filled := { inv with slots }
    match result with
    | .error fault =>
      { inventory := filled, leftover := .error fault, announced := announced.reverse }
    | .ok (_, true) =>
      { inventory := filled, leftover := .ok 0, announced := (filled :: announced).reverse }
    | .ok (left, false) =>
      match _hp : place? t left slots with
      | none => { inventory := filled, leftover := .ok left, announced := announced.reverse }
      | some (placed, outcome) =>
        let after := { inv with slots := placed }
        match outcome with
        | .error fault =>
          { inventory := after, leftover := .error fault, announced := announced.reverse }
        | .ok false =>
          { inventory := after, leftover := .ok 0, announced := (after :: announced).reverse }
        | .ok true =>
          match left.minus t.stackSize with
          | .error fault =>
            { inventory := after, leftover := .error fault,
              announced := (after :: announced).reverse }
          | .ok more => addFrom after t more (after :: announced)
termination_by freeSlots inv.slots
decreasing_by
  have h1 := freeSlots_place? _hp
  have h2 := freeSlots_topUpAll t inv.slots amount
  rw [_hf] at h2
  simp_all
  omega

def add (inv : Inventory) (t : ItemType) (amount : Json) : Added := addFrom inv t amount []

/-! ## Taking out -/

/-- What a slot keeps when an amount is taken out of it that it holds. It loses its type. -/
def emptied (slot : Slot) (amount : Json) : Except Fault Slot := do
  if slot.amount.equal amount then return { item? := none, amount := 0 }
  return { item? := none, amount := ← slot.amount.minus amount }

/-- Look for a slot that holds at least `amount` of a type; what smaller slots hold is counted on
the way. The slot found loses the amount and its type. -/
def takeOut (t : ItemType) (amount : Json) :
    List Slot → (found : Json) → Except Fault (List Slot × Json × Bool)
  | [], found => .ok ([], found, false)
  | slot :: rest, found =>
    if slot.item? = some t then do
      if ← slot.amount.less amount then
        let (rest, found, isTaken) ← takeOut t amount rest (← found.plus slot.amount)
        return (slot :: rest, found, isTaken)
      else
        let found ← found.plus amount
        return ((← emptied slot amount) :: rest, found, true)
    else do
      let (rest, found, isTaken) ← takeOut t amount rest found
      return (slot :: rest, found, isTaken)

def remove (inv : Inventory) (t : ItemType) (amount : Json) : Except Fault Removed := do
  let (slots, found, isTaken) ← takeOut t amount inv.slots 0
  return { inventory := { inv with slots }, found, isAnnounced := isTaken }

/-! ## Looking -/

/-- The slots hold at least `amount` of a type, counted from the left on top of `found`. -/
def hasFrom (t : ItemType) (amount : Json) : List Slot → (found : Json) → Except Fault Bool
  | [], _ => .ok false
  | slot :: rest, found =>
    if slot.item? = some t then do
      let found ← found.plus slot.amount
      if ← amount.atMost found then return true
      hasFrom t amount rest found
    else hasFrom t amount rest found

def has (inv : Inventory) (t : ItemType) (amount : Json) : Except Fault Bool :=
  hasFrom t amount inv.slots 0

def index? (inv : Inventory) (t : ItemType) : Option Nat :=
  inv.slots.findIdx? fun slot => slot.item? = some t

def bestFrom (stat : String) :
    List Slot → Int × Option ItemType → Except Fault (Int × Option ItemType)
  | [], best => .ok best
  | slot :: rest, best =>
    match slot.item? with
    | none => bestFrom stat rest best
    | some t =>
      match t.stat? stat with
      | none => bestFrom stat rest best
      | some value => do
        let power ← value.toInt
        bestFrom stat rest (if best.1 < power then (power, some t) else best)

/-- The item with the most of a stat, if it has more than none, and how much that is. -/
def best (inv : Inventory) (stat : String) : Except Fault (Int × Option ItemType) :=
  bestFrom stat inv.slots (0, none)

def describe (inv : Inventory) : String :=
  String.join (inv.slots.map fun slot =>
    match slot.item? with
    | some t => t.name.shown ++ ": " ++ slot.amount.shown ++ "\t"
    | none => "Empty slot\t")

end Inventory

end TileQuest
