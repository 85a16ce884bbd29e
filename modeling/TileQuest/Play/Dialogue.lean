import TileQuest.Chat.Agent
import TileQuest.World.Lifecycle

/-!
# Dialogues

A dialogue goes through the lines of a script. A line that starts with a minus sign is said by the
player, one with a dollar sign by nobody, one with an exclamation mark is a command, and any other
line is said by the character. Commands give items, jump to a line, or end the dialogue.

In the stepped style the player goes from line to line. In the typed style the player types an
answer, and what the model replies becomes the last line, which is the one shown, since the dialogue
stays at position minus one.

The next line may be empty, or a command may lead to another line at once, so showing the next line
repeats, for as many rounds as it takes to pass every line between any two random draws. A dialogue
that needs more leads to itself without end (`Fault.endless`).
-/

namespace TileQuest

/-! ## Lines -/

namespace Line

/-- What a line starts with, if that is a single character. -/
def mark? : Json → Except Fault (Option Char)
  | .str s => .ok s.toList.head?
  | .arr (.str s :: _) =>
    match s.toList with
    | [c] => .ok (some c)
    | _ => .ok none
  | .arr _ => .ok none
  | _ => .error .unknownKey

def unmarked : Json → Json
  | .str s => .str (String.ofList (s.toList.drop 1))
  | .arr items => .arr (items.drop 1)
  | line => line

end Line

inductive Command where
  | give (item : ItemType) (amount : Int)
  | goto (line : Int)
  | random (lines : List Int)
  | finish
  | unknown (word : String)
deriving DecidableEq, Inhabited

def Command.ofLine (line : String) : Except Fault Command := do
  let words := Text.split ' ' line
  let word ← entry words 1
  let arguments := words.drop 2
  if word = "give" then
    let item ← entry ItemType.all (← Text.parseInt (← entry arguments 0))
    return give item (← Text.parseInt (← entry arguments 1))
  else if word = "goto" then return goto (← Text.parseInt (← entry arguments 0))
  else if word = "end" then return finish
  else if word = "random" then return random (← arguments.mapM Text.parseInt)
  else return unknown word

namespace Game

/-! ## The box on the screen -/

/-- What the box to type into says before anything is typed. -/
def typingHint : String := "Click here to type..."

def stepHint : String := "[Press Enter or Space]"

def answerHint : String := "[Type your response and press Enter]"

/-- Open or close the box to type into. -/
def setTyping (id : PartId) (isTyping : Bool) : Game Unit := do
  modifyDialogue id ({ · with isTyping })
  let label ← orAbsent (← dialogue id).inputLabel?
  paint [.fill "surface" (if isTyping then [50, 50, 50, 180] else [0, 0, 0, 0])]
  say label (if isTyping then typingHint else "")

def newInputBox : Game PartId := do
  let id ← newPart (.inputBox 400 30)
  paint [.fill "surface" [50, 50, 50, 180]]
  enlist id true
  return id

def placePart (id : PartId) (x y : Scalar) : Game Unit := do
  let _ ← placeParts [id] x y

/-- The script that the typed style goes by: where nothing is said, there are no lines. -/
def typedScript : Script → Script
  | .own lines => .own (if lines.isTruthy then lines else .arr [])
  | .cast name => .cast name

def buildTyped (script : Script) (npcName : Json) (left top : Scalar) : Game PartId := do
  let background ← placeSprite "text_box.png" left top
  let speaker ← placeLabel boldFont "" 20 (left.shift 50) (top.shift 25)
  let content ← placeLabel regularFont "" 20 (left.shift 50) (top.shift 70)
  let inputBox ← newInputBox
  placePart inputBox (left.shift 50) (top.shift 150)
  let inputLabel ← placeLabel regularFont typingHint 20 (left.shift 55) (top.shift 150)
  let helper ← placeLabel mediumFont stepHint 15 (left.shift 50) (top.shift 115)
  let id ← newPart (.dialogue
    { style := .typed, script := typedScript script, npcName, background, speaker, content, helper,
      inputBox? := some inputBox, inputLabel? := some inputLabel })
  modify ({ · with dialogue? := some id })
  setTyping id false
  return id

def buildStepped (script : Script) (npcName : Json) (left top : Scalar) : Game PartId := do
  let background ← placeSprite "text_box.png" left top
  let speaker ← placeLabel boldFont "" 25 (left.shift 50) (top.shift 25)
  let content ← placeLabel regularFont "" 25 (left.shift 50) (top.shift 75)
  let helper ← placeLabel mediumFont stepHint 25 (left.shift 50) (top.shift 150)
  let id ← newPart (.dialogue
    { style := .stepped, script, npcName, background, speaker, content, helper })
  modify ({ · with steppedDialogue? := some id })
  return id

def closeDialogue (id : PartId) : Game Unit := do
  let d ← dialogue id
  if d.style = .typed then modify ({ · with dialogue? := none })
  deactivate id
  d.shown.forM breakDown

/-! ## Lines -/

def scriptLines (script : Script) : Game Json := do
  match script with
  | .own lines => return lines
  | .cast name => return .arr (← lookup (← get).castLines name)

def dialogueLines (id : PartId) : Game Json := do scriptLines (← dialogue id).script

/-- One more line in a dialogue. Only an array takes it. -/
def addLine (id : PartId) (line : Json) : Game Unit := do
  match (← dialogue id).script with
  | .own (.arr lines) => modifyDialogue id ({ · with script := .own (.arr (lines ++ [line])) })
  | .own _ => throw .absent
  | .cast name =>
    let lines ← lookup (← get).castLines name
    modify fun w => { w with castLines := store w.castLines name (lines ++ [line]) }

/-- The player waits for no answer, and cannot type. -/
def closeAnswer (id : PartId) : Game Unit := do
  let d ← dialogue id
  match d.style with
  | .stepped => return
  | .typed =>
    modifyDialogue id ({ · with isWaiting := false })
    setTyping id false
    say d.helper stepHint

def openAnswer (id : PartId) : Game Unit := do
  let d ← dialogue id
  match d.style with
  | .stepped => return
  | .typed =>
    modifyDialogue id ({ · with isWaiting := true })
    setTyping id true
    modifyDialogue id ({ · with typed := "" })
    say d.helper answerHint

def npcSpeaks (id : PartId) (line : Json) : Game Unit := do
  let d ← dialogue id
  setText d.speaker d.npcName
  setText d.content line
  openAnswer id

def playerSpeaks (id : PartId) (line : Json) : Game Unit := do
  let d ← dialogue id
  say d.speaker "You"
  setText d.content (Line.unmarked line)
  closeAnswer id

def narrate (id : PartId) (line : Json) : Game Unit := do
  let d ← dialogue id
  say d.speaker ""
  setText d.content (Line.unmarked line)
  closeAnswer id

def giveItems (id : PartId) (item : ItemType) (amount : Int) : Game Unit := do
  let added ← Json.minus (.ofInt amount) (← give playerBag item (.ofInt amount))
  let d ← dialogue id
  say d.speaker ""
  say d.content
    (if added.equal 0 then "Your inventory is full"
    else "You receive " ++ added.shown ++ " " ++ item.name.shown)

def jumpTo (id : PartId) (line : Int) : Game Unit := modifyDialogue id ({ · with line := line - 2 })

/-- Carry a command out, `next` being how the dialogue goes on after a jump. -/
def runCommand (next : Game Unit) (id : PartId) (line : Json) : Game Unit := do
  match line with
  | .str s =>
    match ← Command.ofLine s with
    | .give item amount => giveItems id item amount
    | .goto line =>
      jumpTo id line
      next
    | .finish => closeDialogue id
    | .random lines =>
      jumpTo id (← randomEntry lines)
      next
    | .unknown word => print ("Unknown command " ++ word)
  | _ => throw .absent

/-- Show the next line, with so many rounds to spare. -/
def nextLineIn : Nat → PartId → Game Unit
  | 0, _ => throw .endless
  | rounds + 1, id => do
    let before ← dialogue id
    if before.style = .stepped then modifyDialogue id ({ · with line := before.line + 1 })
    let position := (← dialogue id).line
    let lines ← dialogueLines id
    let count ← lines.length
    if count ≤ position then closeDialogue id
    else
      let line ← lines.item position
      if (← line.length) = 0 then nextLineIn rounds id
      else
        match ← Line.mark? line with
        | some '-' => playerSpeaks id line
        | some '!' => runCommand (nextLineIn rounds id) id line
        | some '$' => narrate id line
        | _ => npcSpeaks id line

/-- How many rounds it takes at most until a dialogue shows a line or leads to itself without
end. -/
def roundsFor (id : PartId) : Game Nat := do
  let count := (← dialogueLines id).length.toOption.getD 0
  return ((← get).random.length + 1) * (2 * count + 2) + 1

def nextLine (id : PartId) : Game Unit := do nextLineIn (← roundsFor id) id

def command (id : PartId) (line : Json) : Game Unit := runCommand (nextLine id) id line

def openDialogue (style : DialogueStyle) (script : Script) (npcName : Json) : Game PartId := do
  let camera := (← get).camera
  let left ← (← (camera.w : Scalar).div 2).sub (← Scalar.div 500 2)
  let top : Scalar := (camera.h - 50 - 200 : Int)
  let id ← match style with
    | .typed => buildTyped script npcName left top
    | .stepped => buildStepped script npcName left top
  activate id
  nextLine id
  return id

/-! ## Answers -/

def farewells : List String := ["bye", "goodbye", "bye bye", "ok bye", "thanks bye"]

/-- The character of a dialogue, who may not have spoken yet. -/
def dialogueAgent (id : PartId) : Game Agent := do
  let d ← dialogue id
  match d.agent? with
  | some agent => return agent
  | none =>
    let agent ← newAgent d.npcName
    modifyDialogue id ({ · with agent? := some agent })
    return agent

def sale? (npcName : String) : Option String :=
  if Cast.isNamed npcName "nancy" then some "! give 0 1"
  else if Cast.isNamed npcName "albert" then some "! give 1 1"
  else none

/-- What the reply does besides what is said: a farewell ends the dialogue, and otherwise
something may be sold. -/
def actOnReply (id : PartId) (said : Json) (reply? : Option Reply) : Game Unit := do
  if said.str?.any (farewells.contains ·) then
    modifyDialogue id ({ · with script := .own (.arr []) })
    closeDialogue id
  else if (reply?.map (·.isSell)).getD false then
    match sale? (← orAbsent (← dialogue id).npcName.str?) with
    | some line => command id (.str line)
    | none => return

/-- Keep what the player said in the character's conversation. -/
def remember (id : PartId) (agent : Agent) (said : Json) : Game Unit := do
  let agent := agent.hear said .null
  modifyDialogue id ({ · with agent? := some agent })
  keepChat agent

def takeReply (id : PartId) (agent : Agent) (said : Json) (reply? : Option Reply) : Game Unit := do
  match reply? with
  | some { response := line :: _, .. } =>
    addLine id line
    remember id agent said
    print ("Agent response: " ++ line.shown)
  | some _ => addLine id (.str "...")
  | none =>
    addLine id (.str "I'm not sure how to respond to that.")
    print "Error: Could not get structured response from agent"

/-- Answer what the player said. What goes wrong is reported, and the character did not
understand. -/
def answer (id : PartId) (said : Json) : Game Unit :=
  tryCatch (do
    let agent ← dialogueAgent id
    let reply? ← structuredReply (← runAgent agent said)
    actOnReply id said reply?
    takeReply id agent said reply?) fun fault => do
    note (.fault "Error processing player input: " fault "")
    addLine id (.str "Sorry, I didn't understand that.")

/-- The player says something in a dialogue. The stepped style takes no answers. -/
def hear (id : PartId) (said : Json) : Game Unit := do
  match (← dialogue id).style with
  | .typed => answer id said
  | .stepped => throw .absent

/-! ## Typing -/

/-- The keys that type something, in the order they are looked at. -/
def typingKeys : List Char := "abcdefghijklmnopqrstuvwxyz 0123456789.,-;'/\\=".toList

/-- What a key types while shift is held. -/
def shifted (c : Char) : Char :=
  match "1234567890;',./\\=-".toList.idxOf? c with
  | some i => "!@#$%^&*():\"<>?|+_".toList.getD i c
  | none => c.toUpper

def maxTyped : Nat := 45

def typedChar? (input : Input) : Option Char :=
  (typingKeys.find? fun c => input.isFresh (.char c)).map fun c =>
    if input.shiftIsHeld then shifted c else c

def erased (typed : String) : String := String.ofList typed.toList.dropLast

def setTyped (id : PartId) (typed : String) : Game Unit := do
  modifyDialogue id ({ · with typed })
  let label ← orAbsent (← dialogue id).inputLabel?
  say label (if typed.isEmpty then typingHint else typed)

def send (id : PartId) (typed : String) : Game Unit := do
  answer id (.str typed)
  modifyDialogue id ({ · with typed := "" })
  setTyping id false
  modifyDialogue id ({ · with isWaiting := false })
  nextLine id

/-- One frame of typing: the backspace key, the enter key, or the first of the other keys. -/
def handleTyping (id : PartId) : Game Unit := do
  let input := (← get).input
  let typed := (← dialogue id).typed
  if input.isFresh .backspace then setTyped id (erased typed)
  else if input.isFresh .enter then
    if !typed.isEmpty then send id typed
  else if typed.length < maxTyped then
    match typedChar? input with
    | some c => setTyped id (typed.push c)
    | none => return

/-! ## Frames -/

def goesOn (input : Input) : Bool := input.isFresh (.char ' ') || input.isFresh .enter

/-- The keys that close a dialogue in the stepped style. -/
def leavingKeys : List Key := [.char 'w', .char 'a', .char 's', .char 'd', .escape]

def updateDialogue (id : PartId) : Game Unit := do
  let input := (← get).input
  match (← dialogue id).style with
  | .typed =>
    if (← dialogue id).isTyping then handleTyping id
    if !(← dialogue id).isWaiting && goesOn input then nextLine id
    if input.isFresh .escape then closeDialogue id
  | .stepped =>
    if goesOn input then nextLine id
    if leavingKeys.any input.isFresh then closeDialogue id

end Game

end TileQuest
