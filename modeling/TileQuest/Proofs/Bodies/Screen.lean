import TileQuest.Proofs.Rolls
import TileQuest.World.Weapons

/-!
# What is on the screen moves nothing

Sprites and labels are made and changed without disturbing anything that was there
(`World.Steady`). Inventories and weapons are shown and put away, and parts are taken off the
registers, without anything in the world moving (`World.Still`) or a file being touched
(`World.Shed`).
-/

namespace TileQuest.Game

open World

variable {R : World → World → Prop} {w0 : World} {g : Game PartId} (id : PartId)

/-! ## Single changes -/

section Registering

variable [Allows Steady R]

lemma obeys_modify_steady {f : World → World} (h : ∀ w, Steady w (f w)) : Obeys R (modify f) :=
  fun w => Allows.allows w _ (h w)

lemma obeys_activate : Obeys R (activate id) :=
  obeys_modify_steady fun _ => .of_grown rfl rfl rfl (fun _ hp => List.mem_append_left _ hp)
    (fun _ hp => hp) fun _ hp => hp

lemma obeys_enlist (isOverlay : Bool) : Obeys R (enlist id isOverlay) :=
  .ite
    (obeys_modify_steady fun _ => .of_grown rfl rfl rfl (fun _ hp => hp) (fun _ hp => hp) fun _ hp =>
      List.mem_append_left _ hp)
    (obeys_modify_steady fun _ => .of_grown rfl rfl rfl (fun _ hp => hp)
      (fun _ hp => List.mem_append_left _ hp) fun _ hp => hp)

lemma obeys_enlistListener : Obeys R (enlistListener id) :=
  obeys_modify_steady fun _ => .of_same (by rfl)

variable [IsPreorder World R] {id : PartId} {free rest : List Roll} {f : Unit → Game PartId}

lemma Enlists.activate (hfree : .active ∉ free) (hf : Enlists R w0 id free rest (f ())) :
    Enlists R w0 id (.active :: free) rest (Game.activate id >>= f) :=
  .enroll (obeys_activate id) (fun _ => rfl) hfree fun _ => hf

lemma Enlists.enlist (isOverlay : Bool)
    (hfree : (if isOverlay then Roll.overlay else .drawn) ∉ free)
    (hf : Enlists R w0 id free rest (f ())) :
    Enlists R w0 id ((if isOverlay then .overlay else .drawn) :: free) rest
      (Game.enlist id isOverlay >>= f) :=
  .enroll (obeys_enlist id isOverlay) (fun w => by cases isOverlay <;> rfl) hfree fun _ => hf

lemma Enlists.enlistListener (hfree : .listeners ∉ free) (hf : Enlists R w0 id free rest (f ())) :
    Enlists R w0 id (.listeners :: free) rest (Game.enlistListener id >>= f) :=
  .enroll (obeys_enlistListener id) (fun _ => rfl) hfree fun _ => hf

end Registering

section Changes

variable [Allows (Orderly Steady) R]

lemma obeys_modify {f : World → World} (h : ∀ w, Orderly Steady w (f w)) : Obeys R (modify f) :=
  fun w => Allows.allows w _ (h w)

lemma obeys_same {f : World → World} (h : ∀ w,
    ((f w).parts, (f w).entities, (f w).frame, (f w).screen, (f w).listeners) =
      (w.parts, w.entities, w.frame, w.screen, w.listeners)) : Obeys R (modify f) :=
  obeys_modify fun w => .of_same (h w)

lemma obeys_note (n : Notice) : Obeys R (note n) :=
  obeys_same fun _ => by rfl

lemma obeys_print (text : String) : Obeys R (print text) := obeys_note _

lemma obeys_paint (ds : List Draw) : Obeys R (paint ds) :=
  obeys_same fun _ => by rfl

lemma obeys_modifyBag (b : BagId) (f : Bag → Bag) : Obeys R (modifyBag b f) :=
  obeys_same fun _ => by rfl

lemma obeys_modifyPart_of_gist {f : Part → Part}
    (hf : ∀ p, (f p).gist = p.gist ∧ (p.Fit → (f p).Fit)) : Obeys R (modifyPart id f) :=
  obeys_modify fun _ => .modifyOwned (fun o _ => Prod.ext (hf o.part).1 rfl)
    fun o _ ho => ⟨ho.lost, (hf o.part).2 ho.fit⟩

lemma obeys_regain (f : Faculty) : Obeys R (regain id f) :=
  obeys_modify fun _ => .modifyOwned (fun _ _ => rfl) fun _ _ ho => ⟨by simp [ho.lost], ho.fit⟩

lemma obeys_modifyLabel (f : Label → Label) : Obeys R (modifyLabel id f) :=
  obeys_modifyPart_of_gist id fun p => by cases p <;> exact ⟨rfl, fun h => h⟩

lemma obeys_modifyField (f : TextField → TextField) : Obeys R (modifyField id f) :=
  obeys_modifyPart_of_gist id fun p => by cases p <;> exact ⟨rfl, fun h => h⟩

lemma obeys_modifySprite {f : Sprite → Sprite}
    (hf : ∀ s, (f s).isOverlay = s.isOverlay) : Obeys R (modifySprite id f) := by
  refine obeys_modifyPart_of_gist id fun p => ?_
  cases p with
  | sprite s => exact ⟨congrArg Gist.image (hf s), fun h => h⟩
  | _ => exact ⟨rfl, fun h => h⟩

lemma obeys_modifyDialogue {f : Dialogue → Dialogue}
    (hf : ∀ d, (f d).shown = d.shown) : Obeys R (modifyDialogue id f) := by
  refine obeys_modifyPart_of_gist id fun p => ?_
  cases p with
  | dialogue d => exact ⟨congrArg Gist.talk (hf d), fun h => h⟩
  | _ => exact ⟨rfl, fun h => h⟩

lemma obeys_modifyPlayer_of_gist {f : Player → Player}
    (hf : ∀ p, (Part.player (f p)).gist = (Part.player p).gist) : Obeys R (modifyPlayer id f) := by
  refine obeys_modifyPart_of_gist id fun p => ?_
  cases p with
  | player p =>
    refine ⟨hf p, fun h n hn => h n ?_⟩
    have hg := hf p
    rw [Part.gist, Part.gist, Gist.player.injEq] at hg
    exact hg.2.2.2 ▸ hn
  | _ => exact ⟨rfl, fun h => h⟩

lemma obeys_modifyEditor_of_tools {f : Editor → Editor}
    (hf : ∀ ed, (f ed).toolEntities? = ed.toolEntities?) : Obeys R (modifyEditor f) :=
  obeys_modify fun w => .of_same (by simp only [World.frame, World.screen, hf w.editor])

end Changes

section Losses

lemma obeys_enlistUsable [Allows Shed R] : Obeys R (enlistUsable id) :=
  fun w => Allows.allows (R := Shed) w _ (.of_same rfl)

lemma obeys_enlistTrigger [Allows Still R] : Obeys R (enlistTrigger id) :=
  fun w => Allows.allows (R := Still) w _ (.of_same rfl)

variable [Allows (Orderly Shed) R]

lemma obeys_modify_shed {f : World → World} (h : ∀ w, Orderly Shed w (f w)) :
    Obeys R (modify f) :=
  fun w => Allows.allows w _ (h w)

lemma obeys_modifyEditor (f : Editor → Editor) : Obeys R (modifyEditor f) :=
  obeys_modify_shed fun _ => ⟨.of_same (by rfl), .of_same (by rfl)⟩

lemma obeys_modifyArea (a : AreaId) {f : Area → Area}
    (hf : ∀ a, ((f a).ground?, (f a).isEdited) = (a.ground?, a.isEdited)) :
    Obeys R (modifyArea a f) :=
  obeys_modify_shed fun _ => ⟨.modifyArea (fun a => congrArg Prod.fst (hf a))
    fun a => congrArg Prod.snd (hf a), .of_same (by rfl)⟩

lemma obeys_modifyPart {f : Part → Part}
    (hf : ∀ p, ((f p).hitbox?, (f p).isBody, (f p).rolls) = (p.hitbox?, p.isBody, p.rolls)) :
    Obeys R (modifyPart id f) := by
  simp only [Prod.mk.injEq] at hf
  exact obeys_modify_shed fun _ => ⟨.modifyOwned (fun _ => rfl) (fun o _ => (hf o.part).1)
    fun o _ => (hf o.part).2.1, .modifyOwned fun o _ => (hf o.part).2.2⟩

lemma obeys_modifyCombat (f : Combat → Combat) : Obeys R (modifyCombat id f) := by
  refine obeys_modifyPart id fun p => ?_
  cases p with
  | combat c => exact congrArg (_, _, ·) ((Part.rolls_combat _).trans (Part.rolls_combat c).symm)
  | _ => rfl

lemma obeys_modifyPlayer (f : Player → Player) : Obeys R (modifyPlayer id f) :=
  obeys_modifyPart id fun p => by cases p <;> rfl

lemma obeys_modifyEnemy (f : Enemy → Enemy) : Obeys R (modifyEnemy id f) :=
  obeys_modifyPart id fun p => by cases p <;> rfl

lemma erase_sublist {ids left : List PartId} {id : PartId} (h : erase ids id = .ok left) :
    left.Sublist ids := by
  unfold erase at h
  split at h
  · cases h
    exact List.erase_sublist
  · cases h

lemma obeys_leave (r : Roll)
    (hshed : ∀ (w : World) (ids : List PartId), ids.Sublist (r.list w) → Shed w (r.put w ids))
    (id : PartId) : Obeys R (do
      let left ← erase (r.list (← get)) id
      modify fun w => r.put w left) := by
  refine .allow (R := Orderly Shed) fun w => ?_
  rw [run_get_bind]
  rcases h : erase (r.list w) id with fault | left
  · exact Std.Refl.refl w
  · exact ⟨hshed w left (erase_sublist h), .put r (erase_sublist h)⟩

lemma obeys_delistBody : Obeys R (delistBody id) :=
  obeys_leave .bodies (fun _ _ h => .of_setting rfl h (.refl _) rfl) id

lemma obeys_delistTrigger : Obeys R (delistTrigger id) :=
  obeys_leave .triggers (fun _ _ h => .of_setting rfl (.refl _) h rfl) id

lemma obeys_deactivate : Obeys R (deactivate id) :=
  obeys_leave .active (fun _ _ _ => .of_same rfl) id

lemma obeys_delist (isOverlay : Bool) : Obeys R (delist id isOverlay) :=
  .ite (obeys_leave .overlay (fun _ _ _ => .of_same rfl) id)
    (obeys_leave .drawn (fun _ _ _ => .of_same rfl) id)

lemma obeys_delistUsable : Obeys R (delistUsable id) :=
  obeys_leave .usables (fun _ _ _ => .of_same rfl) id

lemma obeys_delistListener : Obeys R (delistListener id) :=
  obeys_leave .listeners (fun _ _ _ => .of_same rfl) id

end Losses

variable [IsPreorder World R]

lemma obeys_bagView : Obeys R (bagView id) :=
  (obeys_part id).bind fun p => by cases p <;> first | exact .pure _ | exact .throw _

lemma obeys_renderText (text : Json) (size? : Option Json) : Obeys R (renderText text size?) :=
  (Obeys.orAbsent _).bind fun _ => .lifts fun _ => .lifts fun _ => .lift _

lemma obeys_bounds : Obeys R (bounds id) := (obeys_label id).bind fun _ => .pure _

lemma obeys_clearView [Allows (Orderly Shed) R] : Obeys R (clearView id) :=
  (obeys_requires id _).bind fun _ => (obeys_bagView id).bind fun _ =>
    (Obeys.forM (fun item => obeys_delist item true) _).bind fun _ =>
      obeys_modifyPart id fun p => by cases p <;> rfl

/-! ## Parts in entities of their own -/

lemma obeys_newPart [Allows (Orderly Steady) R] {p : Part} (hp : p.gist.isPlain = true) (hfit : p.Fit) :
    Obeys R (newPart p) :=
  .bind .get fun _ => .bind (obeys_modify fun _ => .push_part hp hfit) fun _ => .pure _

lemma obeys_newPart_shed [Allows (Orderly Shed) R] {p : Part} (hp : p.isBody = false) :
    Obeys R (newPart p) :=
  .bind .get fun _ => .bind (obeys_modify_shed fun w => ⟨.push_part hp, .push_part w _⟩) fun _ =>
    .pure _

lemma size_setOwner (p : PartId) (e? : Option EntityId) (w : World) :
    ((setOwner p e?).runOn w).2.parts.size = w.parts.size := Array.size_modify

section New

variable {ids : List PartId}

lemma new_setOwner {w : World} (h : New w0 w ids) (p : PartId) (e? : Option EntityId) :
    New w0 ((setOwner p e?).runOn w).2 ids :=
  fun q hq => ⟨(h q hq).1, Nat.lt_of_lt_of_eq (h q hq).2 (size_setOwner p e? w).symm⟩

lemma still_setOwner {p : PartId} (hp : p ∈ ids) (e? : Option EntityId) :
    Keeps Still w0 ids (setOwner p e?) :=
  fun _ h hnew => ⟨h.withOwner (hnew p hp).1 e?, new_setOwner hnew p e?⟩

lemma tame_setOwner {p : PartId} (hp : p ∈ ids) (e? : Option EntityId) :
    Keeps Tame w0 ids (setOwner p e?) :=
  fun _ h hnew => ⟨h.withOwner (hnew p hp).1 e?, new_setOwner hnew p e?⟩

lemma keeps_placeParts [Allows R Tame] {x y : Json}
    (hpush : ∀ w, R w0 w → New w0 w ids →
      R w0 { w with entities := w.entities.push { x, y, parts := ids } })
    (hown : ∀ p ∈ ids, ∀ e?, Keeps R w0 ids (setOwner p e?)) :
    Keeps R w0 ids (placeParts ids x y) := by
  refine Obeys.get.keeps.bind fun w => ?_
  refine Keeps.bind (fun _ h hnew => ⟨hpush _ h hnew, hnew⟩) fun _ => ?_
  exact (Keeps.forM fun p hp => hown p hp _).bind fun _ => (Obeys.pure _).keeps

lemma still_placeParts (x y : Json) : Keeps (Orderly Still) w0 ids (placeParts ids x y) :=
  Keeps.orderly (keeps_placeParts (fun _ h hnew => h.push_entity hnew) fun _ hp e? =>
    still_setOwner hp e?) (drafts_placeParts ids x y)

lemma tame_placeParts (x y : Json) : Keeps (Orderly Tame) w0 ids (placeParts ids x y) :=
  Keeps.orderly (keeps_placeParts (fun _ h hnew => h.push_entity hnew) fun _ hp e? =>
    tame_setOwner hp e?) (drafts_placeParts ids x y)

end New

lemma still_placeNew {α : Type} {f : PartId → EntityId → Game α} {x y : Json}
    (hg : Obeys (Orderly Still) g) (hfr : Fresh g) (hf : ∀ id e, Obeys (Orderly Still) (f id e)) :
    Obeys (Orderly Still) (g >>= fun id => placeParts [id] x y >>= f id) :=
  hg.bind_fresh hfr fun _ id => (still_placeParts x y).bind fun e => (hf id e).keeps

lemma Gives.bind_placeNew {id : PartId} {f : EntityId → Game PartId}
    {x y : Json} (hg : Obeys (Orderly Tame) g) (hfr : Fresh g) (hf : ∀ e, Gives id (f e)) :
    Gives id (g >>= fun p => placeParts [p] x y >>= f) := by
  intro w w' id' hrun
  obtain ⟨p, u, hrun', hrun⟩ := run_bind_eq_ok.1 hrun
  obtain ⟨e, v, hplace, hrun⟩ := run_bind_eq_ok.1 hrun
  have htame : Orderly Tame w ((placeParts [p] x y).runOn u).2 :=
    (tame_placeParts x y u (hg.of_run hrun') (hfr w u p hrun').1).1
  rw [hplace] at htame
  obtain ⟨hid, hle⟩ := hf e v w' id' hrun
  exact ⟨hid, IsTrans.trans w v w' (Allows.allows w v htame) hle⟩

section Screen

variable [Allows (Orderly Steady) R]

lemma obeys_nextRandom : Obeys R nextRandom :=
  .bind .get fun _ => by
    split
    · exact .pure _
    · exact (obeys_same fun _ => by rfl).bind fun _ => .pure _

lemma obeys_loadImage (file : String) : Obeys R (loadImage file) :=
  .lifts fun _ => (obeys_same fun _ => by rfl).bind fun _ => .pure _

lemma drafting_newSprite (file : String) (isOverlay : Bool) :
    Drafting Steady [.active] (newSprite file isOverlay) :=
  .after (obeys_loadImage file) fun _ => .bind (.make (obeys_newPart rfl (by trivial)) rfl)
    fun _ _ => .enlist isOverlay (by cases isOverlay <;> decide) .pure

lemma obeys_newSprite (file : String) (isOverlay : Bool) : Obeys R (newSprite file isOverlay) :=
  (drafting_newSprite file isOverlay).allow

lemma fresh_newSprite (file : String) (isOverlay : Bool) : Fresh (newSprite file isOverlay) :=
  .bind (obeys_loadImage file) fun _ => (fresh_newPart _).gives fun id =>
    .bind (obeys_enlist id isOverlay) fun _ => .pure id

lemma obeys_showCell (column row : Json) : Obeys R (showCell id column row) :=
  (obeys_modifySprite id fun _ => by rfl).bind fun _ => (obeys_sprite id).bind fun _ =>
    (Obeys.orAbsent _).bind fun _ => .lifts fun _ => (obeys_paint _).bind fun _ => .lifts fun _ =>
      obeys_paint _

lemma drafting_newSheet (file cellWidth cellHeight column row : Json) (isOverlay : Bool)
    (animation? : Option Animation) : Drafting Steady [.active]
      (newSheet file cellWidth cellHeight column row isOverlay animation?) :=
  .after (.lift _) fun _ => (drafting_newSprite _ isOverlay).bind fun _ id =>
    .step (obeys_sprite id) fun _ => .step (.lift _) fun _ =>
    .step (obeys_modifySprite id fun _ => by rfl) fun _ =>
    .step (obeys_showCell id column row) fun _ => .pure

lemma obeys_newAnimation (file cellWidth cellHeight frames framesPerImage : Json)
    (isOverlay : Bool) :
    Obeys R (newAnimation file cellWidth cellHeight frames framesPerImage isOverlay) :=
  .lifts fun _ => .ite (Obeys.throw _) <| .lifts fun _ =>
    Drafting.allow (R := Steady) (.bind (drafting_newSheet file _ _ _ _ isOverlay _) fun _ _ =>
      .activate (by decide) .pure)

lemma fresh_newSheet (file cellWidth cellHeight column row : Json) (isOverlay : Bool)
    (animation? : Option Animation) :
    Fresh (newSheet file cellWidth cellHeight column row isOverlay animation?) :=
  .bind (.lift _) fun _ => (fresh_newSprite _ isOverlay).gives fun id =>
    .bind (obeys_sprite id) fun _ => .bind (.lift _) fun _ =>
    .bind (obeys_modifySprite id fun _ => by rfl) fun _ =>
    .bind (obeys_showCell id column row) fun _ => .pure id

lemma fresh_newAnimation (file cellWidth cellHeight frames framesPerImage : Json)
    (isOverlay : Bool) :
    Fresh (newAnimation file cellWidth cellHeight frames framesPerImage isOverlay) := by
  refine .bind (.lift _) fun _ => ?_
  split
  · exact .throw _
  · exact .bind (.lift _) fun _ => (fresh_newSheet file _ _ _ _ isOverlay _).gives fun id =>
      .bind (obeys_activate id) fun _ => .pure id

lemma obeys_setImage (file : String) : Obeys R (setImage id file) :=
  (obeys_sprite id).bind fun s => by
    split
    · exact (obeys_loadImage file).bind fun _ => obeys_modifySprite id fun _ => by rfl
    · exact .bind .get fun _ => .ite
        ((obeys_loadImage file).bind fun _ => (obeys_modifySprite id fun _ => by rfl).bind fun _ =>
          obeys_showCell id _ _)
        (obeys_showCell id _ _)

lemma obeys_setFrames (frames : Json) : Obeys R (setFrames id frames) :=
  (obeys_sprite id).bind fun _ => (Obeys.orAbsent _).bind fun _ =>
    (obeys_modifySprite id fun _ => by rfl).bind fun _ => .lifts fun _ => obeys_showCell id _ _

lemma obeys_fontSize (font : String) (size : Json) : Obeys R (fontSize font size) :=
  .bind .get fun _ => by
    split
    · exact .pure _
    · exact (obeys_same fun _ => by rfl).bind fun _ => .pure _

lemma obeys_setText (text : Json) : Obeys R (setText id text) :=
  (obeys_requires id _).bind fun _ => (obeys_modifyLabel id _).bind fun _ =>
    (obeys_label id).bind fun _ => (obeys_renderText text _).bind fun _ =>
      (obeys_modifyLabel id _).bind fun _ => obeys_regain id _

lemma obeys_say (text : String) : Obeys R (say id text) := obeys_setText id _

lemma obeys_firstLabel (font : String) (text size : Json) : Obeys R (firstLabel font text size) :=
  (obeys_fontSize font size).bind fun _ => (obeys_renderText text _).bind fun _ => .pure _

lemma obeys_newLabel (font : String) (text size : Json) : Obeys R (newLabel font text size) :=
  (obeys_firstLabel font text size).bind fun _ =>
    Drafting.allow (R := Steady) (.bind (.make (obeys_newPart rfl (by trivial)) rfl) fun _ _ =>
      .enlist true (by decide) .pure)

lemma fresh_newLabel (font : String) (text size : Json) : Fresh (newLabel font text size) :=
  .bind (obeys_firstLabel font text size) fun _ =>
    (fresh_newPart _).gives fun id => .bind (obeys_enlist id true) fun _ => .pure id

lemma obeys_newTextField (spec : FieldSpec) : Obeys R (newTextField spec) :=
  (obeys_firstLabel _ _ _).bind fun _ => Drafting.allow (R := Steady)
    (.bind (.make (obeys_newPart rfl (by trivial)) rfl) fun _ id =>
      .enlist true (by decide) <| .enlistListener (by decide) <| .activate (by decide) <| .step (.lift _) fun _ => .step (.lift _) fun _ =>
      .step (.lift _) fun _ => .step (obeys_modifyField id _) fun _ => .step (.lift _) fun _ =>
      .step (.lift _) fun _ => .step (obeys_paint _) fun _ => .step (.lift _) fun _ =>
      .step (.lift _) fun _ => .step (.lift _) fun _ => .step (obeys_paint _) fun _ => .pure)

lemma obeys_newBar (max width height : Json) : Obeys R (newBar max width height) :=
  Drafting.allow (R := Steady) (.bind (.make (obeys_newPart rfl (by trivial)) rfl) fun _ _ =>
    .enlist true (by decide) .pure)

lemma fresh_newBar (max width height : Json) : Fresh (newBar max width height) :=
  (fresh_newPart _).gives fun id => .bind (obeys_enlist id true) fun _ => .pure id

lemma obeys_placeSprite (file : String) (x y : Scalar) : Obeys R (placeSprite file x y) :=
  .allow (R := Orderly Steady) (obeys_placeNew (obeys_newSprite file true) (fresh_newSprite file true) fun _ _ => .pure _)

lemma obeys_placeLabel (font text : String) (size : Nat) (x y : Scalar) :
    Obeys R (placeLabel font text size x y) :=
  .allow (R := Orderly Steady) (obeys_placeNew (obeys_newLabel font _ _) (fresh_newLabel font _ _) fun _ _ => .pure _)

lemma obeys_loadSound (file : String) (volume : Json) : Obeys R (loadSound file volume) :=
  .ite (.throw _) (obeys_same fun _ => by rfl)

lemma obeys_playSound (file : String) : Obeys R (playSound file) :=
  .bind .get fun _ => .ite (obeys_note _) (.pure _)

end Screen

/-! ## Inventories and weapons -/

section Bags

variable [Allows (Orderly Shed) R]

lemma obeys_showInView (view item : PartId) : Obeys R (showInView view item) :=
  obeys_modifyPart view fun p => by cases p <;> rfl

lemma obeys_renderSlot (v : InventoryView) (equipped? : Option Json) (slot : Slot)
    (index : Nat) : Obeys R (renderSlot id v equipped? slot index) :=
  .lifts fun _ => (obeys_placeSprite _ _ _).bind fun _ => (obeys_showInView id _).bind fun _ => by
      split
      · exact .pure _
      · refine (obeys_placeSprite _ _ _).bind fun _ => .lifts fun _ => ?_
        exact .ite
          ((obeys_placeLabel _ _ _ _ _).bind fun _ => (obeys_showInView id _).bind fun _ =>
            obeys_showInView id _)
          (obeys_showInView id _)

lemma obeys_renderView : Obeys R (renderView id) :=
  (obeys_requires id _).bind fun _ => (obeys_bagView id).bind fun v => (obeys_bag _).bind fun _ =>
    .forM (fun (slot, index) => obeys_renderSlot id v _ slot index) _

lemma obeys_refreshView (id : PartId) : Obeys R (refreshView id) :=
  (obeys_requires id _).bind fun _ => (obeys_clearView id).bind fun _ => obeys_renderView id

lemma obeys_newBagView (b : BagId) : Obeys R (newBagView b) :=
  (obeys_bag b).bind fun _ => .bind .get fun _ => Drafting.allow (R := Shed)
    (.bind (.make (obeys_newPart_shed rfl) rfl) fun _ id => .step (obeys_modifyBag b _) fun _ =>
      .step (obeys_renderView id) fun _ => .activate (by decide) .pure)

lemma fresh_newBagView (b : BagId) : Fresh (newBagView b) :=
  .bind (obeys_bag b) fun _ => .bind .get fun _ => (fresh_newPart _).gives fun id =>
    .bind (obeys_modifyBag b _) fun _ => .bind (obeys_renderView id) fun _ =>
      .bind (obeys_activate id) fun _ => .pure id

lemma obeys_newCombat (health : Json) (onDeath : Death) : Obeys R (newCombat health onDeath) :=
  Drafting.allow (R := Shed) (.bind (.make (obeys_newPart_shed rfl) (Part.rolls_combat _)) fun _ _ =>
    .activate (by decide) .pure)

lemma fresh_newCombat (health : Json) (onDeath : Death) : Fresh (newCombat health onDeath) :=
  (fresh_newPart _).gives fun id => .bind (obeys_activate id) fun _ => .pure id

/-- Show a weapon in hand. -/
def hold (id : PartId) (item : ItemType) : Game Unit := do
  let sprite ← newSprite item.icon false
  let _ ← placeParts [sprite] 0 0
  modifyCombat id ({ · with weapon? := some sprite })

lemma Obeys.equip {S : World → World → Prop} [IsPreorder World S] {item? : Option ItemType}
    (hset : Obeys S (modifyCombat id ({ · with equipped? := item? })))
    (hload : ∀ file, Obeys S (loadSound file 1))
    (hsound : ∀ sound?, Obeys S (modifyCombat id ({ · with sound? })))
    (hhold : ∀ item, Obeys S (hold id item)) : Obeys S (Game.equip id item?) := by
  refine (obeys_requires id _).bind fun _ => hset.bind fun _ => ?_
  split
  · exact .pure _
  · -- the weapon follows whatever comes of its sound
    split
    · exact hhold _
    · exact .lifts fun _ => (hload _).bind fun _ => (hsound _).bind fun _ => hhold _

lemma obeys_equip [Allows (Orderly Still) R] (item? : Option ItemType) :
    Obeys R (equip id item?) :=
  .allow (R := Orderly Still) (.equip id (obeys_modifyCombat id _) (fun _ => obeys_loadSound _ _)
    (fun _ => obeys_modifyCombat id _) fun _ =>
      still_placeNew (obeys_newSprite _ false) (fresh_newSprite _ false) fun _ _ =>
        obeys_modifyCombat id _)

lemma obeys_unequip : Obeys R (unequip id) :=
  (obeys_requires id _).bind fun _ => (obeys_print _).bind fun _ => obeys_modifyCombat id _

end Bags

end TileQuest.Game
