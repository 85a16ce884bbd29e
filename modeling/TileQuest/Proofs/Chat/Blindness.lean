import TileQuest.Proofs.Chat.Backing

/-!
# Talking without looking at where conversations are kept

What is shown on the screen, what is in inventories, how boxes are built and taken down, and how a
dialogue goes from line to line: all of it is blind (`Game.Blind`). So is calling the model, and
what comes of its replies. Of all that a dialogue does, only two things are left: a character comes
to a conversation, and keeps it.
-/

namespace TileQuest.Game

open World

variable {α : Type} (id : PartId)

/-! ## The world -/

lemma blind_note (n : Notice) : Blind (note n) := .change fun _ _ => rfl

lemma blind_print (text : String) : Blind (print text) := blind_note _

lemma blind_paint (ds : List Draw) : Blind (paint ds) := .change fun _ _ => rfl

lemma blind_nextRandom : Blind nextRandom :=
  .get_bind (fun _ _ => rfl) fun v => by
    cases v.random with
    | nil => exact .pure _
    | cons n rest =>
      exact Blind.bind (.change fun _ _ => rfl) fun _ => .pure _

lemma blind_randomEntry (xs : List α) : Blind (randomEntry xs) :=
  .ite (.throw _) (blind_nextRandom.bind fun _ => .lift _)

lemma blind_entity (e : EntityId) : Blind (entity e) :=
  .get_bind (fun _ _ => rfl) fun _ => .orAbsent _

lemma blind_modifyEntity (e : EntityId) (f : Entity → Entity) : Blind (modifyEntity e f) :=
  .change fun _ _ => rfl

lemma blind_place : Blind (place id) :=
  (blind_owner id).bind fun e => (blind_entity e).bind fun _ => .pure _

lemma blind_bag (id : BagId) : Blind (bag id) :=
  .get_bind (fun _ _ => rfl) fun _ => .orAbsent _

lemma blind_setInventory (id : BagId) (inventory : Inventory) :
    Blind (setInventory id inventory) :=
  .change fun _ _ => rfl

lemma blind_activate : Blind (activate id) :=
  .change fun _ _ => rfl

lemma blind_enlist (isOverlay : Bool) : Blind (enlist id isOverlay) :=
  .ite (.change fun _ _ => rfl) (.change fun _ _ => rfl)

lemma blind_erase {list : World → List PartId} (set : List PartId → World → World)
    (hsame : ∀ ids c v, (list (backed v c), set ids (backed v c), (set ids v).parts) =
      (list v, backed (set ids v) c, v.parts)) :
    Blind (do
      let ids ← erase (list (← get)) id
      modify (set ids)) :=
  .get_bind (fun c v => by rw [(Prod.mk.inj (hsame [] c v)).1]) fun _ => .lifts fun ids =>
    .change fun c v => (Prod.mk.inj (hsame ids c v)).2

lemma blind_deactivate : Blind (deactivate id) :=
  blind_erase id (fun active w => { w with active }) fun _ _ _ => rfl

lemma blind_delist (isOverlay : Bool) : Blind (delist id isOverlay) :=
  .ite
    (blind_erase id (fun overlay w => { w with overlay }) fun _ _ _ => rfl)
    (blind_erase id (fun drawn w => { w with drawn }) fun _ _ _ => rfl)

lemma blind_delistUsable : Blind (delistUsable id) :=
  blind_erase id (fun usables w => { w with usables }) fun _ _ _ => rfl

lemma blind_delistBody : Blind (delistBody id) :=
  blind_erase id (fun bodies w => { w with bodies }) fun _ _ _ => rfl

lemma blind_delistTrigger : Blind (delistTrigger id) :=
  blind_erase id (fun triggers w => { w with triggers }) fun _ _ _ => rfl

lemma blind_delistListener : Blind (delistListener id) :=
  blind_erase id (fun listeners w => { w with listeners }) fun _ _ _ => rfl

/-! ## The screen -/

lemma blind_newSprite (file : String) (isOverlay : Bool) : Blind (newSprite file isOverlay) := by
  have hl : Blind (loadImage file) :=
    .lifts fun _ => Blind.bind (.change fun _ _ => rfl) fun _ => .pure _
  exact hl.bind fun _ => Blind.bind (blind_newPlain fun _ => nofun) fun id =>
    (blind_enlist id isOverlay).bind fun _ => .pure _

lemma blind_renderText (text : Json) (size? : Option Json) : Blind (renderText text size?) :=
  (Blind.orAbsent _).bind fun _ => .lifts fun _ => .lifts fun _ => .lift _

lemma blind_setText (text : Json) : Blind (setText id text) :=
  (blind_requires id _).bind fun _ => (blind_modifyLabel id _).bind fun _ =>
    (blind_label id).bind fun _ => (blind_renderText text _).bind fun _ =>
      (blind_modifyLabel id _).bind fun _ => blind_regain id _

lemma blind_say (text : String) : Blind (say id text) := blind_setText id _

lemma blind_newLabel (font : String) (text size : Json) : Blind (newLabel font text size) := by
  have hsize : Blind (fontSize font size) :=
    .get_bind (fun _ _ => rfl) fun v => by
      split
      · exact .pure _
      · exact Blind.bind (.change fun _ _ => rfl) fun _ => .pure _
  have hl : Blind (firstLabel font text size) :=
    hsize.bind fun _ => (blind_renderText text _).bind fun _ => .pure _
  exact hl.bind fun _ => Blind.bind (blind_newPlain fun _ => nofun) fun id =>
    (blind_enlist id true).bind fun _ => .pure _

lemma blind_placeParts (parts : List PartId) (x y : Json) : Blind (placeParts parts x y) :=
  .get_bind (fun _ _ => rfl) fun _ => Blind.bind (.change fun _ _ => rfl) fun _ =>
    (Blind.forM (fun p => blind_setOwner p _) parts).bind fun _ => .pure _

lemma blind_placeSprite (file : String) (x y : Scalar) : Blind (placeSprite file x y) :=
  (blind_newSprite file true).bind fun _ => (blind_placeParts _ _ _).bind fun _ => .pure _

lemma blind_placeLabel (font text : String) (size : Nat) (x y : Scalar) :
    Blind (placeLabel font text size x y) :=
  (blind_newLabel font _ _).bind fun _ => (blind_placeParts _ _ _).bind fun _ => .pure _

section Finding

variable {test : Part → Bool} (htest : ∀ b p, test (Part.backed b p) = test p)
include htest

lemma blind_find? (e : EntityId) : Blind (find? e test) := by
  refine .get_bind (fun c v => ?_) fun _ => (blind_entity e).bind fun _ => .pure _
  have hsame (i : Nat) : (v.backed c).parts[i]?.map (fun o => test o.part) =
      v.parts[i]?.map fun o => test o.part := by
    rw [getElem?_backed, Option.map_map]
    congr 1
    funext o
    exact htest _ _
  simp only [hsame]

lemma blind_hasPart (e : EntityId) : Blind (hasPart e test) :=
  (blind_find? htest e).bind fun _ => .pure _

lemma blind_find (e : EntityId) : Blind (find e test) :=
  (blind_find? htest e).bind fun _ => .orAbsent _

end Finding

lemma blind_player (id : PartId) : Blind (player id) :=
  blind_part_bind (fun _ p => by cases p <;> rfl)
    (fun p => by cases p <;> first | exact .pure _ | exact .throw _) id

lemma blind_tell (text : String) : Blind (tell id text) :=
  (blind_player id).bind fun _ => (Blind.orAbsent _).bind fun _ => (blind_setText _ _).bind fun _ =>
    blind_modifyPlayer id _

lemma blind_tellEntity (e : EntityId) (text : String) : Blind (tellEntity e text) :=
  (blind_find (fun b p => by cases p <;> rfl) e).bind fun id => blind_tell id text

/-! ## Inventories -/

lemma blind_modifyView (f : InventoryView → InventoryView) :
    Blind (modifyPart id fun p => match p with
      | .inventoryView v => .inventoryView (f v)
      | p => p) :=
  blind_modifyOther (fun p _ => by cases p <;> simp) id

lemma blind_showInView (view item : PartId) : Blind (showInView view item) :=
  blind_modifyView view _

lemma blind_renderSlot (v : InventoryView) (equipped? : Option Json) (slot : Slot)
    (index : Nat) : Blind (renderSlot id v equipped? slot index) :=
  .lifts fun _ => (blind_placeSprite _ _ _).bind fun _ => (blind_showInView id _).bind fun _ => by
      split
      · exact .pure _
      · exact (blind_placeSprite _ _ _).bind fun _ => .lifts fun _ =>
          .ite ((blind_placeLabel _ _ _ _ _).bind fun _ => (blind_showInView id _).bind fun _ =>
            blind_showInView id _) (blind_showInView id _)

lemma blind_clearView : Blind (clearView id) :=
  (blind_requires id _).bind fun _ => (blind_bagView id).bind fun v =>
    (Blind.forM (fun item => blind_delist item true) v.items).bind fun _ =>
      blind_modifyView id ({ · with items := [] })

lemma blind_renderView : Blind (renderView id) :=
  (blind_requires id _).bind fun _ => (blind_bagView id).bind fun v => (blind_bag v.bag).bind fun _ =>
    .forM (fun _ => blind_renderSlot id v _ _ _) _

lemma blind_refreshView : Blind (refreshView id) :=
  (blind_requires id _).bind fun _ => (blind_clearView id).bind fun _ => blind_renderView id

lemma blind_give (id : BagId) (t : ItemType) (amount : Json) : Blind (give id t amount) := by
  have hannounce : Blind (announce id) :=
    (blind_bag id).bind fun b => by
      cases b.viewer? with
      | none => exact .pure _
      | some view => exact blind_refreshView view
  exact (blind_bag id).bind fun _ =>
    (Blind.forM (fun _ => (blind_setInventory id _).bind fun _ => hannounce) _).bind fun _ =>
      (blind_setInventory id _).bind fun _ => .lift _

/-! ## Taking down -/

lemma blind_breakDownPlain : Blind (breakDownPlain id) := by
  refine blind_part_bind (fun b p => by cases p <;> rfl) (fun p => ?_) id
  cases p with
  | sprite s => exact blind_delist id _
  | inputBox => exact .change fun _ _ => rfl
  | label l => exact blind_delist id _
  | textField l field => exact (blind_delistListener id).bind fun _ => blind_delist id _
  | bar b => exact blind_delist id _
  | inventoryView v => exact (blind_deactivate id).bind fun _ => blind_clearView id
  | scrollView s =>
    have hset (s : ScrollView) : Blind (setPart id (.scrollView s)) :=
      blind_setPart (p := .scrollView s) (fun _ => nofun) id
    exact (blind_requires id _).bind fun _ => (hset _).bind fun _ =>
      (blind_requires id _).bind fun _ => (hset _).bind fun _ => (blind_deactivate id).bind fun _ =>
      blind_delist id _
  | body h => exact blind_delistBody id
  | trigger h t => exact blind_delistTrigger id
  | usable u => exact blind_delistUsable id
  | combat m => exact (blind_deactivate id).bind fun _ => blind_modifyCombat id _
  | enemy e => exact blind_deactivate id
  | placeholder h =>
    refine (blind_place id).bind fun _ => .lifts fun key? => ?_
    cases key? with
    | none => exact .pure _
    | some key => exact .change fun _ _ => rfl
  | probe q => exact .ite (blind_note _) (.pure _)
  | _ => exact .pure _

lemma blind_leaveArea (e : EntityId) : Blind (leaveArea e) :=
  .bind (.get_bind (fun _ _ => rfl) fun _ => .orAbsent _) fun _ =>
    .change fun _ _ => rfl

lemma blind_deletePlain (e : EntityId) : Blind (deletePlain e) :=
  (blind_leaveArea e).bind fun _ => (blind_entity e).bind fun _ =>
    (Blind.forM blind_breakDownPlain _).bind fun _ => blind_modifyEntity e _

lemma blind_breakDown : Blind (breakDown id) := by
  have hfully : Blind (breakDownFully id) := by
    refine blind_part_bind (fun b p => by cases p <;> rfl) (fun p => ?_) id
    cases p with
    | player p =>
      exact (Blind.orAbsent _).bind fun hud => (blind_owner _).bind fun _ =>
        (blind_deletePlain _).bind fun _ => (blind_owner _).bind fun _ =>
        (blind_deletePlain _).bind fun _ => (blind_deletePlain _).bind fun _ =>
        (Blind.orAbsent _).bind fun _ => (blind_owner _).bind fun _ =>
        (blind_deletePlain _).bind fun _ => (blind_deactivate id).bind fun _ => blind_print _
    | _ => exact blind_breakDownPlain id
  exact (blind_hasLost id _).bind fun _ => .ite hfully (.pure _)

/-! ## Boxes -/

lemma blind_setTyping (isTyping : Bool) : Blind (setTyping id isTyping) :=
  (blind_modifyDialogue (fun _ _ => by rfl) id).bind
    fun _ => blind_dialogue_bind (fun _ _ => rfl) (fun _ => (Blind.orAbsent _).bind fun label =>
      (blind_paint _).bind fun _ => blind_say label _) id

variable {name : String}

lemma blind_buildTyped (hn : IsFileName name) (script : Script) (left top : Scalar) :
    Blind (buildTyped script (.str name) left top) := by
  have hbox : Blind newInputBox :=
    Blind.bind (blind_newPlain fun _ => nofun) fun id => (blind_paint _).bind fun _ =>
      (blind_enlist id true).bind fun _ => .pure _
  have hplace (id : PartId) (x y : Scalar) : Blind (placePart id x y) :=
    (blind_placeParts _ _ _).bind fun _ => .pure _
  refine (blind_placeSprite _ _ _).bind fun _ => (blind_placeLabel _ _ _ _ _).bind fun _ =>
    (blind_placeLabel _ _ _ _ _).bind fun _ => hbox.bind fun _ => (hplace _ _ _).bind fun _ =>
    (blind_placeLabel _ _ _ _ _).bind fun _ => (blind_placeLabel _ _ _ _ _).bind fun _ =>
    (blind_newPart (fun _ => rfl) ?_).bind fun id =>
    Blind.bind (.change fun _ _ => rfl) fun _ =>
    (blind_setTyping id false).bind fun _ => .pure _
  intro d hd
  cases hd
  exact ⟨rfl, name, rfl, hn⟩

lemma blind_closeDialogue : Blind (closeDialogue id) :=
  blind_dialogue_bind (fun _ _ => rfl) (fun d =>
    have hrest : Blind (do deactivate id; d.shown.forM breakDown) :=
      (blind_deactivate id).bind fun _ => .forM blind_breakDown _
    have hnone : Blind (modify ({ · with dialogue? := none }) : Game Unit) :=
      .change fun _ _ => rfl
    .ite (hnone.bind fun _ => hrest) hrest) id

/-! ## Lines -/

lemma blind_dialogueLines : Blind (dialogueLines id) :=
  blind_dialogue_bind (fun _ _ => rfl) (fun d => by
    cases d.script with
    | own lines => exact .pure _
    | cast name =>
      exact .get_bind (fun _ _ => rfl) fun _ => .lifts fun _ => .pure _) id

lemma blind_addLine (line : Json) : Blind (addLine id line) :=
  blind_dialogue_bind (fun _ _ => rfl) (fun d => by
    split
    · rename_i lines _
      exact blind_modifyDialogue (fun _ _ => by rfl) id
    · exact .throw _
    · exact .get_bind (fun _ _ => rfl) fun _ => .lifts fun _ =>
        .change fun _ _ => rfl) id

lemma blind_closeAnswer : Blind (closeAnswer id) :=
  blind_dialogue_bind (fun _ _ => rfl) (fun d => by
    split
    · exact .pure _
    · exact (blind_modifyDialogue (fun _ _ => by rfl) id).bind fun _ => (blind_setTyping id false).bind fun _ =>
        blind_say _ _) id

lemma blind_openAnswer : Blind (openAnswer id) :=
  blind_dialogue_bind (fun _ _ => rfl) (fun d => by
    split
    · exact .pure _
    · exact (blind_modifyDialogue (fun _ _ => by rfl) id).bind fun _ => (blind_setTyping id true).bind fun _ =>
        (blind_modifyDialogue (fun _ _ => by rfl) id).bind fun _ => blind_say _ _) id

lemma blind_npcSpeaks (line : Json) : Blind (npcSpeaks id line) :=
  blind_dialogue_bind (fun _ _ => rfl) (fun _ => (blind_setText _ _).bind fun _ =>
    (blind_setText _ _).bind fun _ => blind_openAnswer id) id

lemma blind_playerSpeaks (line : Json) : Blind (playerSpeaks id line) :=
  blind_dialogue_bind (fun _ _ => rfl) (fun _ => (blind_say _ _).bind fun _ =>
    (blind_setText _ _).bind fun _ => blind_closeAnswer id) id

lemma blind_narrate (line : Json) : Blind (narrate id line) :=
  blind_dialogue_bind (fun _ _ => rfl) (fun _ => (blind_say _ _).bind fun _ =>
    (blind_setText _ _).bind fun _ => blind_closeAnswer id) id

lemma blind_giveItems (item : ItemType) (amount : Int) : Blind (giveItems id item amount) :=
  (blind_give _ _ _).bind fun _ => .lifts fun _ =>
    blind_dialogue_bind (fun _ _ => rfl) (fun _ => (blind_say _ _).bind fun _ => blind_say _ _) id

lemma blind_jumpTo (line : Int) : Blind (jumpTo id line) :=
  blind_modifyDialogue (fun _ _ => by rfl) id

lemma blind_runCommand {next : Game Unit} (hnext : Blind next) (id : PartId) (line : Json) :
    Blind (runCommand next id line) := by
  cases line with
  | str s =>
    refine .lifts fun command => ?_
    cases command with
    | give item amount => exact blind_giveItems id item amount
    | goto line => exact (blind_jumpTo id line).bind fun _ => hnext
    | random lines =>
      exact (blind_randomEntry lines).bind fun _ => (blind_jumpTo id _).bind fun _ => hnext
    | finish => exact blind_closeDialogue id
    | unknown word => exact blind_print _
  | _ => exact .throw _

lemma blind_nextLineIn (rounds : Nat) (id : PartId) : Blind (nextLineIn rounds id) := by
  induction rounds with
  | zero => exact .throw _
  | succ rounds ih =>
    rw [nextLineIn]
    refine blind_dialogue_bind (fun _ _ => rfl) (fun before => ?_) id
    have hstep : Blind (modifyDialogue id ({ · with line := before.line + 1 })) :=
      blind_modifyDialogue (fun _ _ => by rfl) id
    refine .ite (hstep.bind fun _ => ?_) ?_
    all_goals
      refine blind_dialogue_bind (fun _ _ => rfl) (fun _ => (blind_dialogueLines id).bind fun _ =>
        .lifts fun _ => .ite (blind_closeDialogue id) (.lifts fun line => .lifts fun _ =>
          .ite ih (.lifts fun mark? => ?_))) id
      split
      · exact blind_playerSpeaks id line
      · exact blind_runCommand ih id line
      · exact blind_narrate id line
      · exact blind_npcSpeaks id line

lemma blind_nextLine : Blind (nextLine id) := by
  have hrounds : Blind (roundsFor id) :=
    (blind_dialogueLines id).bind fun _ => .get_bind (fun _ _ => rfl) fun _ => .pure _
  exact hrounds.bind fun rounds => blind_nextLineIn rounds id

lemma blind_openTyped (hn : IsFileName name) (script : Script) :
    Blind (openDialogue .typed script (.str name)) :=
  .get_bind (fun _ _ => rfl) fun _ => .lifts fun _ => .lifts fun _ => .lifts fun _ =>
    (blind_buildTyped hn script _ _).bind fun id => (blind_activate id).bind fun _ =>
    (blind_nextLine id).bind fun _ => .pure _

/-! ## Answers -/

lemma blind_ask (query : Json) (history : History) (more pause : Nat) :
    Blind (ask query history more pause) := by
  have hinvoke : Blind (invoke query history) := by
    refine Blind.bind (.change fun _ _ => rfl) fun _ =>
      .get_bind (fun _ _ => rfl) fun v => ?_
    cases v.outcomes with
    | nil => exact .throw _
    | cons outcome rest =>
      refine Blind.bind (.change fun _ _ => rfl) fun _ => ?_
      cases outcome with
      | refused text => exact .throw _
      | failed text => exact .throw _
      | answer j => exact .pure _
  induction more generalizing pause with
  | zero => exact hinvoke
  | succ more ih =>
    refine hinvoke.tryCatch fun fault => ?_
    split
    · exact (blind_note _).bind fun _ => (blind_note _).bind fun _ => ih _
    · exact .throw _

lemma blind_structuredReply (answer : Json) : Blind (structuredReply answer) :=
  .tryCatch (.get_bind (fun _ _ => rfl) fun _ => .lifts fun _ => .pure _) fun _ =>
    (blind_note _).bind fun _ => .pure _

lemma blind_actOnReply (said : Json) (reply? : Option Reply) :
    Blind (actOnReply id said reply?) :=
  .ite
    ((blind_modifyDialogue (fun _ _ => by rfl) id).bind fun _ => blind_closeDialogue id)
    (.ite (blind_dialogue_bind (fun _ _ => rfl) (fun _ => (Blind.orAbsent _).bind fun name => by
      cases sale? name with
      | none => exact .pure _
      | some line => exact blind_runCommand (blind_nextLine id) id _) id) (.pure _))

lemma blind_setTyped (typed : String) : Blind (setTyped id typed) :=
  (blind_modifyDialogue (fun _ _ => by rfl) id).bind
    fun _ => blind_dialogue_bind (fun _ _ => rfl) (fun _ => (Blind.orAbsent _).bind fun label =>
      blind_say label _) id

end TileQuest.Game
