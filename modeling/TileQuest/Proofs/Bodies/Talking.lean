import TileQuest.Play.Usables
import TileQuest.Proofs.Bodies.Stages

/-!
# Talking and using things

A dialogue builds its box on the screen, gives items and keeps what was said, and using a tree or a
rock shows a tool, changes a look or takes the rock away. Nothing moves by any of it
(`World.Still`), though files may be written.
-/

namespace TileQuest.Game

open World

variable {R : World → World → Prop} {next : Game Unit} {w0 : World} {i : PartId} {o : Owned}
variable (id : PartId)

/-! ## What disturbs nothing -/

section Lines

variable [IsPreorder World R] [Allows (Orderly Steady) R]

lemma obeys_setTyping (isTyping : Bool) : Obeys R (setTyping id isTyping) :=
  (obeys_modifyDialogue id fun _ => by rfl).bind fun _ => (obeys_dialogue id).bind fun _ =>
    (Obeys.orAbsent _).bind fun _ => (obeys_paint _).bind fun _ => obeys_say _ _

lemma obeys_dialogueLines : Obeys R (dialogueLines id) :=
  (obeys_dialogue id).bind fun d => by
    cases d.script with
    | own lines => exact .pure _
    | cast name => exact .bind .get fun _ => .lifts fun _ => .pure _

lemma obeys_closeAnswer : Obeys R (closeAnswer id) :=
  (obeys_dialogue id).bind fun _ => by
    split
    · exact .pure _
    · exact (obeys_modifyDialogue id fun _ => by rfl).bind fun _ =>
        (obeys_setTyping id false).bind fun _ => obeys_say _ _

lemma obeys_openAnswer : Obeys R (openAnswer id) :=
  (obeys_dialogue id).bind fun _ => by
    split
    · exact .pure _
    · exact (obeys_modifyDialogue id fun _ => by rfl).bind fun _ =>
        (obeys_setTyping id true).bind fun _ =>
        (obeys_modifyDialogue id fun _ => by rfl).bind fun _ => obeys_say _ _

lemma obeys_npcSpeaks (line : Json) : Obeys R (npcSpeaks id line) :=
  (obeys_dialogue id).bind fun _ => (obeys_setText _ _).bind fun _ =>
    (obeys_setText _ line).bind fun _ => obeys_openAnswer id

lemma obeys_playerSpeaks (line : Json) : Obeys R (playerSpeaks id line) :=
  (obeys_dialogue id).bind fun _ => (obeys_say _ _).bind fun _ => (obeys_setText _ _).bind fun _ =>
    obeys_closeAnswer id

lemma obeys_narrate (line : Json) : Obeys R (narrate id line) :=
  (obeys_dialogue id).bind fun _ => (obeys_say _ _).bind fun _ => (obeys_setText _ _).bind fun _ =>
    obeys_closeAnswer id

lemma obeys_randomEntry {α : Type} (xs : List α) : Obeys R (randomEntry xs) :=
  .ite (.throw _) (obeys_nextRandom.bind fun _ => .lift _)

lemma obeys_tellEntity (e : EntityId) (text : String) : Obeys R (tellEntity e text) :=
  (obeys_find e _).bind fun id => obeys_tell id text

lemma obeys_showTool (e : EntityId) (tool : ItemType) : Obeys R (showTool e tool) :=
  (obeys_entityPlace e).bind fun _ => .lifts fun _ => obeys_same fun _ => by rfl

lemma obeys_bestTool? (stat : String) : Obeys R (bestTool? stat) :=
  (obeys_bag _).bind fun _ => .lifts fun _ => .pure _

end Lines

/-! ## What disturbs something -/

/-- The relation allows that what an inventory shows is shown anew. -/
class Refreshes (R : World → World → Prop) : Prop where
  refresh : ∀ view, Obeys R (refreshView view)

/-- The relation allows the steps of talks, and of the use of things, that disturb something: what
an inventory shows is shown anew, the box of a dialogue is built and taken down, files are written,
and an entity leaves the area. -/
class Eventful (R : World → World → Prop) : Prop extends Refreshes R where
  write : ∀ disk : Disk, Obeys R (modify fun w => { w with disk })
  openTyped : ∀ script npcName left top, Obeys R (do
    let id ← buildTyped script npcName left top
    activate id
    return id)
  openStepped : ∀ script npcName left top, Obeys R (do
    let id ← buildStepped script npcName left top
    activate id
    return id)
  close : ∀ id, Obeys R (closeDialogue id)
  remove : ∀ e, Obeys R (currentArea >>= fun a => removeEntity a e)

section Boxes

variable [IsPreorder World R]

lemma obeys_newInputBox [Allows (Orderly Steady) R] : Obeys R newInputBox :=
  Drafting.allow (R := Steady) (.bind (.make (obeys_newPart rfl (by trivial)) rfl) fun _ _ =>
    .step (obeys_paint _) fun _ => .enlist true (by decide) .pure)

lemma fresh_newInputBox : Fresh newInputBox :=
  (fresh_newPart _).gives fun id => .bind (obeys_paint _) fun _ =>
    .bind (obeys_enlist id true) fun _ => .pure id

variable [Allows (Orderly Still) R]

lemma drafting_buildTyped (script : Script) (npcName : Json) (left top : Scalar) :
    Drafting Still [.active] (buildTyped script npcName left top) := by
  have hbox (x y : Scalar) : Obeys (Orderly Still) (do
      let box ← newInputBox
      placePart box x y
      return box) :=
    obeys_newInputBox.bind_fresh fresh_newInputBox fun _ _ =>
      Keeps.bind ((still_placeParts _ _).bind fun _ => (Obeys.pure _).keeps) fun _ => (Obeys.pure _).keeps
  refine .after (obeys_placeSprite _ _ _) fun _ => .after (obeys_placeLabel _ _ _ _ _) fun _ =>
    .after (obeys_placeLabel _ _ _ _ _) fun _ => .afterBoth (hbox _ _) fun _ =>
    .after (obeys_placeLabel _ _ _ _ _) fun _ => .after (obeys_placeLabel _ _ _ _ _) fun _ => ?_
  exact .bind (.make (obeys_newPart_shed rfl) rfl) fun _ id =>
    .step (obeys_same fun _ => by rfl) fun _ => .step (obeys_setTyping id false) fun _ =>
    .pure

lemma drafting_buildStepped (script : Script) (npcName : Json) (left top : Scalar) :
    Drafting Still [.active] (buildStepped script npcName left top) :=
  .after (obeys_placeSprite _ _ _) fun _ => .after (obeys_placeLabel _ _ _ _ _) fun _ =>
    .after (obeys_placeLabel _ _ _ _ _) fun _ => .after (obeys_placeLabel _ _ _ _ _) fun _ =>
    .bind (.make (obeys_newPart_shed rfl) rfl) fun _ _ =>
      .step (obeys_same fun _ => by rfl) fun _ => .pure

lemma obeys_closeDialogue (id : PartId) : Obeys R (closeDialogue id) :=
  (obeys_dialogue id).bind fun d =>
    have hrest : Obeys R (do deactivate id; d.shown.forM breakDown) :=
      (obeys_deactivate id).bind fun _ => .forM obeys_breakDown _
    .ite ((obeys_same fun _ => by rfl).bind fun _ => hrest) hrest

instance : Eventful R where
  refresh := obeys_refreshView
  write _ w := Allows.allows (R := Orderly Still) w _ ⟨.of_same rfl, .of_same rfl⟩
  openTyped script npcName left top := Drafting.allow (R := Still)
    (.bind (drafting_buildTyped script npcName left top) fun _ _ => .activate (by decide) .pure)
  openStepped script npcName left top := Drafting.allow (R := Still)
    (.bind (drafting_buildStepped script npcName left top) fun _ _ => .activate (by decide) .pure)
  close := obeys_closeDialogue
  remove e := obeys_currentArea.bind fun a => obeys_removeEntity a e

end Boxes

instance : Refreshes (Orderly Shed) := ⟨obeys_refreshView⟩

section Giving

variable [IsPreorder World R] [Allows (Orderly Steady) R] [Refreshes R]

lemma obeys_announce (b : BagId) : Obeys R (announce b) :=
  (obeys_bag b).bind fun _ => by
    split
    · exact Refreshes.refresh _
    · exact .pure _

lemma obeys_give (b : BagId) (t : ItemType) (amount : Json) : Obeys R (give b t amount) :=
  (obeys_bag b).bind fun _ =>
    (Obeys.forM (fun _ => (obeys_modifyBag b _).bind fun _ => obeys_announce b) _).bind fun _ =>
      (obeys_modifyBag b _).bind fun _ => .lift _

end Giving

section Talking

variable [IsPreorder World R] [Allows (Orderly Steady) R] [Eventful R]

/-! ## Keeping conversations -/

lemma obeys_openFiles (folder : String) : Obeys R (openFiles folder) :=
  .bind .get fun _ => .lifts fun disk => (Eventful.write disk).bind fun _ => .pure _

lemma obeys_chooseBackend : Obeys R chooseBackend :=
  .bind .get fun _ => by
    split
    · exact (obeys_print _).bind fun _ => obeys_openFiles _
    · exact (obeys_note _).bind fun _ => obeys_openFiles _
    · exact (obeys_print _).bind fun _ => .pure _

lemma obeys_giveKey (key : Json) : Obeys R (giveKey key) := .ite (.throw _) (.pure _)

lemma obeys_readChat (path key : String) : Obeys R (readChat path key) :=
  .bind .get fun _ => .lifts fun _ => .lifts fun _ => (obeys_print _).bind fun _ => .pure _

lemma obeys_loadChat (backend : Backend) (key : Json) : Obeys R (loadChat backend key) := by
  cases backend with
  | server =>
    refine (obeys_giveKey key).bind fun _ => .bind .get fun _ => ?_
    split
    · exact (obeys_print _).bind fun _ => .pure _
    · exact (obeys_print _).bind fun _ => .pure _
  | files folder =>
    exact .bind .get fun _ => .ite
      (.tryCatch (obeys_readChat _ _) fun _ => (obeys_note _).bind fun _ => .pure _)
      ((obeys_print _).bind fun _ => .pure _)

lemma obeys_newAgent (name : Json) : Obeys R (newAgent name) :=
  obeys_chooseBackend.bind fun backend => (obeys_loadChat backend name).bind fun _ =>
    (Obeys.orAbsent _).bind fun _ => .pure _

lemma obeys_writeChat (path key : String) (history : History) :
    Obeys R (writeChat path key history) :=
  .bind .get fun _ => .lifts fun disk => (Eventful.write disk).bind fun _ => obeys_print _

lemma obeys_saveChat (backend : Backend) (key : Json) (history : History) :
    Obeys R (saveChat backend key history) := by
  cases backend with
  | server =>
    exact .bind .get fun _ => .ite (.throw _) <| (obeys_giveKey key).bind fun _ =>
      (obeys_same fun _ => by rfl).bind fun _ => obeys_print _
  | files folder => exact .tryCatch (obeys_writeChat _ _ history) fun _ => obeys_note _

/-! ## Dialogues -/

lemma obeys_giveItems (item : ItemType) (amount : Int) : Obeys R (giveItems id item amount) :=
  (obeys_give _ item _).bind fun _ => .lifts fun _ => (obeys_dialogue id).bind fun _ =>
    (obeys_say _ _).bind fun _ => obeys_say _ _

lemma obeys_runCommand (hnext : Obeys R next) (id : PartId) (line : Json) :
    Obeys R (runCommand next id line) := by
  cases line with
  | str line =>
    refine .lifts fun command => ?_
    cases command with
    | give item amount => exact obeys_giveItems id item amount
    | goto line => exact (obeys_modifyDialogue id fun _ => by rfl).bind fun _ => hnext
    | finish => exact Eventful.close id
    | random lines =>
      exact (obeys_randomEntry lines).bind fun _ =>
        (obeys_modifyDialogue id fun _ => by rfl).bind fun _ => hnext
    | unknown word => exact obeys_print _
  | _ => exact .throw _

lemma obeys_showLine (hnext : Obeys R next) (id : PartId) (line : Json)
    (mark? : Option Char) : Obeys R (match mark? with
      | some '-' => playerSpeaks id line
      | some '!' => runCommand next id line
      | some '$' => narrate id line
      | _ => npcSpeaks id line) := by
  split
  · exact obeys_playerSpeaks id line
  · exact obeys_runCommand hnext id line
  · exact obeys_narrate id line
  · exact obeys_npcSpeaks id line

lemma obeys_nextLineIn (rounds : Nat) (id : PartId) : Obeys R (nextLineIn rounds id) := by
  induction rounds with
  | zero => exact .throw _
  | succ rounds ih =>
    exact (obeys_dialogue id).bind fun _ => .when (obeys_modifyDialogue id fun _ => by rfl) fun _ =>
      (obeys_dialogue id).bind fun _ => (obeys_dialogueLines id).bind fun _ => .lifts fun _ =>
      .ite (Eventful.close id) <| .lifts fun line => .lifts fun _ => .ite ih <| .lifts fun mark? =>
      obeys_showLine ih id line mark?

lemma obeys_nextLine : Obeys R (nextLine id) :=
  Obeys.bind ((obeys_dialogueLines id).bind fun _ => .bind .get fun _ => .pure _)
    fun rounds => obeys_nextLineIn rounds id

lemma obeys_openDialogue (style : DialogueStyle) (script : Script) (npcName : Json) :
    Obeys R (openDialogue style script npcName) := by
  -- the box is built and lets the dialogue act, and then the first line is shown
  have hopen {build : Game PartId} (hbuild : Obeys R (do
      let id ← build
      activate id
      return id)) : Obeys R (do
      let id ← build
      activate id
      nextLine id
      return id) := by
    have hl := hbuild.bind fun id => (obeys_nextLine id).bind fun _ => Obeys.pure id
    simpa only [bind_assoc, pure_bind] using hl
  refine .bind .get fun _ => .lifts fun _ => .lifts fun _ => .lifts fun _ => ?_
  cases style with
  | typed => exact hopen (Eventful.openTyped _ _ _ _)
  | stepped => exact hopen (Eventful.openStepped _ _ _ _)

/-! ## Answers -/

lemma obeys_addLine (line : Json) : Obeys R (addLine id line) := by
  refine (obeys_dialogue id).bind fun d => ?_
  cases d.script with
  | own lines =>
    cases lines with
    | arr lines => exact obeys_modifyDialogue id fun _ => by rfl
    | _ => exact .throw _
  | cast name =>
    exact .bind .get fun _ => .lifts fun _ => obeys_same fun _ => by rfl

lemma obeys_dialogueAgent : Obeys R (dialogueAgent id) := by
  refine (obeys_dialogue id).bind fun d => ?_
  cases d.agent? with
  | some agent => exact .pure _
  | none =>
    exact (obeys_newAgent _).bind fun _ => (obeys_modifyDialogue id fun _ => by rfl).bind fun _ =>
      .pure _

lemma obeys_invoke (query : Json) (history : History) : Obeys R (invoke query history) := by
  refine (obeys_same fun _ => by rfl).bind fun _ => .bind .get fun w => ?_
  cases w.outcomes with
  | nil => exact .throw _
  | cons outcome rest =>
    refine (obeys_same fun _ => by rfl).bind fun _ => ?_
    cases outcome with
    | refused text => exact .throw _
    | failed text => exact .throw _
    | answer j => exact .pure _

lemma obeys_ask (query : Json) (history : History) (more pause : Nat) :
    Obeys R (ask query history more pause) := by
  induction more generalizing pause with
  | zero => exact obeys_invoke query history
  | succ more ih =>
    refine .tryCatch (obeys_invoke query history) fun fault => ?_
    cases fault with
    | service text => exact (obeys_note _).bind fun _ => (obeys_note _).bind fun _ => ih _
    | _ => exact .throw _

lemma obeys_structuredReply (answer : Json) : Obeys R (structuredReply answer) :=
  .tryCatch (.bind .get fun _ => .lifts fun _ => .pure _) fun _ => (obeys_note _).bind fun _ =>
    .pure _

lemma obeys_actOnReply (said : Json) (reply? : Option Reply) :
    Obeys R (actOnReply id said reply?) := by
  refine .ite ((obeys_modifyDialogue id fun _ => by rfl).bind fun _ => Eventful.close id) (.ite ?_
    (.pure _))
  refine (obeys_dialogue id).bind fun _ => (Obeys.orAbsent _).bind fun name => ?_
  cases sale? name with
  | some line => exact obeys_runCommand (obeys_nextLine id) id _
  | none => exact .pure _

lemma obeys_takeReply (agent : Agent) (said : Json) (reply? : Option Reply) :
    Obeys R (takeReply id agent said reply?) := by
  cases reply? with
  | none => exact (obeys_addLine id _).bind fun _ => obeys_print _
  | some reply =>
    obtain ⟨response, _, _⟩ := reply
    cases response with
    | nil => exact obeys_addLine id _
    | cons line _ =>
      exact (obeys_addLine id _).bind fun _ =>
        Obeys.bind ((obeys_modifyDialogue id fun _ => by rfl).bind fun _ => obeys_saveChat _ _ _)
          fun _ => obeys_print _

lemma obeys_answer (said : Json) : Obeys R (answer id said) :=
  .tryCatch ((obeys_dialogueAgent id).bind fun _ => (obeys_ask said _ 2 1).bind fun _ =>
    (obeys_structuredReply _).bind fun _ => (obeys_actOnReply id said _).bind fun _ =>
      obeys_takeReply id _ said _) fun _ => (obeys_note _).bind fun _ => obeys_addLine id _

lemma obeys_setTyped (typed : String) : Obeys R (setTyped id typed) :=
  (obeys_modifyDialogue id fun _ => by rfl).bind fun _ => (obeys_dialogue id).bind fun _ =>
    (Obeys.orAbsent _).bind fun _ => obeys_say _ _

lemma obeys_send (typed : String) : Obeys R (send id typed) :=
  (obeys_answer id _).bind fun _ => (obeys_modifyDialogue id fun _ => by rfl).bind fun _ =>
    (obeys_setTyping id false).bind fun _ => (obeys_modifyDialogue id fun _ => by rfl).bind fun _ =>
    obeys_nextLine id

lemma obeys_handleTyping : Obeys R (handleTyping id) := by
  refine .bind .get fun w => (obeys_dialogue id).bind fun d => .ite (obeys_setTyped id _) (.ite ?_ ?_)
  · exact .ite (obeys_send id _) (.pure _)
  · refine .ite ?_ (.pure _)
    cases typedChar? w.input with
    | some c => exact obeys_setTyped id _
    | none => exact .pure _

lemma obeys_updateDialogue : Obeys R (updateDialogue id) := by
  refine .bind .get fun _ => (obeys_dialogue id).bind fun d => ?_
  cases d.style with
  | typed =>
    exact (obeys_dialogue id).bind fun _ => .when (obeys_handleTyping id) fun _ =>
      (obeys_dialogue id).bind fun _ => .when (obeys_nextLine id) fun _ =>
        .ite (Eventful.close id) (.pure _)
  | stepped => exact .when (obeys_nextLine id) fun _ => .ite (Eventful.close id) (.pure _)

/-! ## Using things -/

lemma obeys_mine (name : Json) (user : EntityId) (distance : Json) :
    Obeys R (mine id name user distance) :=
  (obeys_bestTool? _).bind fun _ => by
    split
    · exact .lifts fun _ => obeys_tellEntity user _
    · exact (obeys_showTool user _).bind fun _ => .lifts fun _ => .ite
        ((obeys_playSound _).bind fun _ => .lifts fun _ => (obeys_tellEntity user _).bind fun _ =>
          (obeys_owner id).bind fun rock => Eventful.remove rock)
        (obeys_tellEntity user _)

lemma obeys_castScript (name : Json) : Obeys R (castScript name) :=
  .lifts fun _ => .bind .get fun _ => .lifts fun _ => (obeys_newAgent _).bind fun _ =>
      .tryCatch ((obeys_saveChat _ _ _).bind fun _ => .pure _)
        fun _ => (obeys_note _).bind fun _ => .pure _

lemma obeys_fileScript (file : Json) : Obeys R (fileScript file) :=
  .bind .get fun _ => .lifts fun _ => .lifts fun _ => .lifts fun _ => .pure _

lemma obeys_talk (name : Json) {script : Game Script} (hscr : Obeys R script)
    (user : EntityId) (distance : Json) : Obeys R (talk name script user distance) :=
  .lifts fun _ => .ite
    (hscr.bind fun _ => (obeys_openDialogue _ _ _).bind fun _ => .pure _)
    (obeys_tellEntity user _)

end Talking

lemma steady_setPart (ho : w0.parts[i.index]? = some o)
    {p : Part} (hg : p.gist = o.part.gist) (hfit : p.Fit) :
    Keeps (Orderly Steady) w0 [] (setPart i p) := by
  intro w h _
  have hi : i.index < w0.parts.size := lt_of_getElem? ho
  refine ⟨IsTrans.trans w0 w _ h (Orderly.modifyOwned (fun o' ho' => ?_) fun o' ho' hable =>
    ⟨hable.lost, hfit⟩), nofun⟩
  have hsame := h.holds.essence i.index hi
  rw [ho, ho'] at hsame
  exact Prod.ext (hg.trans (congrArg Prod.fst (Option.some.inj hsame)).symm) rfl

lemma keeps_chop (ho : w0.parts[i.index]? = some o)
    {u : Usable} (hu : o.part = .usable u) (name : Json) (stump : String) (user : EntityId)
    (distance : Json) : Keeps (Orderly Steady) w0 [] (chop i name stump user distance) := by
  have hset (p : Usable) : Keeps (Orderly Steady) w0 [] (setPart i (.usable p)) :=
    steady_setPart ho (by rw [hu]; rfl) trivial
  refine (obeys_bestTool? _).keeps.bind fun tool? => ?_
  cases tool? with
  | none => exact (Obeys.lifts fun _ => obeys_tellEntity user _).keeps
  | some tool =>
    refine (obeys_showTool user tool).keeps.bind fun _ => (Obeys.lift _).keeps.bind fun _ => ?_
    split
    · exact (obeys_playSound _).keeps.bind fun _ => (Obeys.lift _).keeps.bind fun _ =>
        (obeys_tellEntity user _).keeps.bind fun _ => (obeys_owner i).keeps.bind fun e =>
        (obeys_find e _).keeps.bind fun look => (obeys_setImage look stump).keeps.bind fun _ => hset _
    · exact (obeys_tellEntity user _).keeps

section Using

variable [IsPreorder World R] [Allows (Orderly Steady) R] [Eventful R]

lemma obeys_useOn (user? : Option EntityId) (distance : Json) :
    Obeys R (useOn id user? distance) := by
  refine .bind_part fun w o ho => ?_
  split
  · exact obeys_print _ w
  · rename_i u user hu
    rw [useBy]
    split
    · exact obeys_print _ w
    · split
      · exact obeys_tellEntity user _ w
      · exact Allows.allows w _ (keeps_chop ho hu _ _ user distance).self
    · exact obeys_mine id _ user distance w
    · exact obeys_talk _ (obeys_castScript _) user distance w
    · exact obeys_talk _ (obeys_fileScript _) user distance w
  · exact Std.Refl.refl w

lemma obeys_useFirst (user : EntityId) (mx my : Except Fault Scalar) (ids : List PartId) :
    Obeys R (useFirst user mx my ids) := by
  induction ids with
  | nil => exact .pure _
  | cons id rest ih =>
    refine (obeys_owner id).bind fun e => (obeys_find? e _).bind fun look? => ?_
    cases look? with
    | none => exact ih
    | some look =>
      exact .bind .get fun _ => (obeys_sprite look).bind fun _ => (obeys_point id).bind fun _ =>
        .lifts fun _ => .lifts fun _ => .lifts fun _ => .ite
          ((obeys_find user _).bind fun _ => (obeys_sprite _).bind fun _ =>
            (obeys_entityPoint user).bind fun _ => .lifts fun _ => .lifts fun _ => .lifts fun _ =>
            obeys_useOn id _ _)
          ih

lemma obeys_interact (user : EntityId) (mx my : Except Fault Scalar) :
    Obeys R (interact user mx my) :=
  .bind .get fun _ => obeys_useFirst user mx my _

end Using

end TileQuest.Game
