import TileQuest.Json.Arithmetic

/-!
# Items

An item type has a name, an icon, a stack size and stats. Two item types are the same when all of
these, and the number they are listed under, are the same.
-/

namespace TileQuest

structure ItemType where
  number : Nat
  name : Json
  icon : String
  stackSize : Json := 1
  stats : List (String × Json) := []
deriving DecidableEq, Inhabited

namespace ItemType

def stat? (t : ItemType) (name : String) : Option Json :=
  (t.stats.find? fun s => s.1 == name).map (·.2)

def stat (t : ItemType) (name : String) : Except Fault Json :=
  match t.stat? name with
  | some s => .ok s
  | none => .error .unknownKey

def halfSecond : Scalar := .ofRat (mkRat 1 2)

def all : List ItemType :=
  [{ number := 0, name := .str "Diamond", icon := "diamond.png", stackSize := 5 },
    { number := 1, name := .str "Axe", icon := "axe.png", stats := [("chop_power", .num 10)] },
    { number := 2, name := .str "Pickaxe", icon := "pickaxe.png",
      stats := [("mine_power", .num 10)] },
    { number := 3, name := .str "Sword", icon := "sword.png",
      stats := [("damage", .num 50), ("cooldown", .num halfSecond), ("range", .num 50),
        ("sound", .str "sword1.mp3")] },
    { number := 4, name := .str "Weak Sword", icon := "sword.png",
      stats := [("damage", .num 2), ("cooldown", .num halfSecond), ("range", .num 50),
        ("sound", .str "sword1.mp3")] }]

end ItemType

end TileQuest
