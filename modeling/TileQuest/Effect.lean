import TileQuest.Picture.Draw
import TileQuest.Picture.Image

/-!
# Effects

An effect is an image that moves for a while. In one pass over the list every effect ages by one,
moves and is drawn; one whose life is over is taken out, and the one after it is passed over. At an
effect that is nowhere in particular the pass breaks off.
-/

namespace TileQuest

structure Effect where
  x : Json
  y : Json
  xSpeed : Int
  ySpeed : Int
  life : Int
  image : Image
deriving DecidableEq, Inhabited

namespace Effect

def aged (e : Effect) : Effect := { e with life := e.life - 1 }

/-- One step further on, across and then down, and why it did not get all the way, if it did
not. -/
def moved (e : Effect) : Effect × Option Fault :=
  match e.x.plus (.ofInt e.xSpeed) with
  | .error fault => (e, some fault)
  | .ok x =>
    match e.y.plus (.ofInt e.ySpeed) with
    | .error fault => ({ e with x }, some fault)
    | .ok y => ({ e with x, y }, none)

def isOver (e : Effect) : Bool := e.life ≤ 0

def draw (e : Effect) (camera : Rect) : Except Fault Draw := do
  let x ← e.x.minus (.ofInt camera.x)
  let y ← e.y.minus (.ofInt camera.y)
  return .blit screen e.image.name x y none

/-- What comes of a pass over the list. -/
structure Pass where
  remaining : List Effect := []
  drawn : List Effect := []
  fault? : Option Fault := none
deriving Inhabited

def pass (camera : Rect) : List Effect → Pass
  | [] => {}
  | e :: rest =>
    match e.aged.moved with
    | (e, some fault) => { remaining := e :: rest, fault? := some fault }
    | (e, none) =>
      match e.draw camera with
      | .error fault =>
        { remaining := if e.isOver then rest else e :: rest, fault? := some fault }
      | .ok _ =>
        if e.isOver then
          match rest with
          | [] => { drawn := [e] }
          | passedOver :: rest =>
            let p := pass camera rest
            { p with remaining := passedOver :: p.remaining, drawn := e :: p.drawn }
        else
          let p := pass camera rest
          { p with remaining := e :: p.remaining, drawn := e :: p.drawn }

/-- The number that rises from whoever is hit. -/
def hitText (x y : Json) (text : String) : Effect :=
  { x, y, xSpeed := 0, ySpeed := -1, life := 60, image := .ofText text 30 }

def toolUse (x y : Json) (icon : Image) : Effect :=
  { x, y, xSpeed := 0, ySpeed := 1, life := 10, image := icon }

end Effect

end TileQuest
