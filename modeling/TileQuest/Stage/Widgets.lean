import TileQuest.World.Lifecycle

/-!
# Buttons and lists

How buttons, lists and the helper of the editor are made.
-/

namespace TileQuest

namespace Game

def newButton (action : Action) (area : Rect) : Game PartId := do
  let id ← newPart (.button { area, action })
  activate id
  return id

def placeLabelButton (action : Action) (font : String) (text size x y : Json) :
    Game EntityId := do
  let label ← newLabel font text size
  spawn [← newButton action (← bounds label), label] x y

def newList (s : ScrollView) : Game PartId := do
  paintBox s.area.w s.area.h [0, 0, 0]
  let id ← newPart (.scrollView s)
  activate id
  enlist id true
  return id

def placeList (s : ScrollView) (x y : Scalar) : Game EntityId := do
  spawn [← newList s] x y

def placeTextField (spec : FieldSpec) (x y : Scalar) : Game PartId := do
  let id ← newTextField spec
  let _ ← placeParts [id] x y
  return id

def newEditorHelper (onClick : Action) : Game PartId := do
  let id ← newPart (.editorHelper { onClick })
  activate id
  return id

end Game

end TileQuest
