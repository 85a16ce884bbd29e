import TileQuest.Proofs.Bodies.Screen
import TileQuest.World.Lifecycle

/-!
# Entities come and go while nothing moves

Breaking down parts, deleting entities and clearing everything away takes bodies off the register
and moves none (`World.Shed`). Setting up the parts of an entity gives it more parts, and what it
wears entities of their own, but no bodies (`World.Tame`).
-/

namespace TileQuest.Game

open World

variable {R : World → World → Prop} {w0 : World} (id : PartId)

/-! ## Breaking down -/

lemma keeps_setPart [IsPreorder World R] [Allows (Orderly Shed) R]
    [Allows R (Orderly Still)] {i : PartId} {o : Owned}
    (ho : w0.parts[i.index]? = some o) {p : Part} (hbox : p.hitbox? = o.part.hitbox?)
    (hb : p.isBody = o.part.isBody) (hrolls : p.rolls = o.part.rolls) :
    Keeps R w0 [] (setPart i p) := by
  intro w h _
  have hstill : Orderly Still w0 w := Allows.allows _ _ h
  have hi : i.index < w0.parts.size := lt_of_getElem? ho
  refine ⟨IsTrans.trans w0 w _ h (Allows.allows (R := Orderly Shed) _ _ ⟨?_, ?_⟩), nofun⟩
  · refine .modifyOwned (fun _ => rfl) (fun o' ho' => ?_) (fun o' ho' => ?_)
    · have hsame := hstill.holds.hitbox i.index hi
      rw [ho, ho'] at hsame
      exact hbox.trans (Option.some.inj hsame).symm
    · have hsame := hstill.holds.isBody i
      rw [partIs_of ho, partIs_of ho'] at hsame
      exact hb.trans hsame.symm
  · refine .modifyOwned fun o' ho' => ?_
    have hsame := hstill.drafts.rolls i hi
    rw [rollsOf_of ho, rollsOf_of ho'] at hsame
    exact hrolls.trans hsame.symm

section BreakDown

variable [IsPreorder World R] [Allows (Orderly Shed) R]

lemma obeys_breakDownPlain (id : PartId) : Obeys R (breakDownPlain id) := by
  refine .allow (R := Orderly Shed) (.bind_part fun w o ho => ?_)
  cases hp : o.part with
  | sprite s => exact obeys_delist id _ w
  | inputBox =>
    exact obeys_modify_shed (fun _ => ⟨.of_same (by rfl), .put .overlay List.erase_sublist⟩) w
  | label | bar => exact obeys_delist id true w
  | textField => exact ((obeys_delistListener id).bind fun _ => obeys_delist id true) w
  | inventoryView => exact ((obeys_deactivate id).bind fun _ => obeys_clearView id) w
  | scrollView s =>
    have hset (s' : ScrollView) : Keeps (Orderly Shed) w [] (setPart id (.scrollView s')) :=
      keeps_setPart ho (by rw [hp]; rfl) (by rw [hp]; rfl) (by rw [hp]; rfl)
    exact Keeps.self <| (obeys_requires id _).keeps.bind fun _ => (hset _).bind fun _ =>
      (obeys_requires id _).keeps.bind fun _ => (hset _).bind fun _ =>
        ((obeys_deactivate id).bind fun _ => obeys_delist id true).keeps
  | body => exact obeys_delistBody id w
  | trigger => exact obeys_delistTrigger id w
  | usable => exact obeys_delistUsable id w
  | combat => exact ((obeys_deactivate id).bind fun _ => obeys_modifyCombat id _) w
  | enemy => exact obeys_deactivate id w
  | placeholder =>
    refine ((obeys_place id).bind fun _ => .lifts fun key? => ?_) w
    cases key? with
    | none => exact .pure _
    | some key => exact obeys_modify_shed fun _ => ⟨.of_same (by rfl), .of_same (by rfl)⟩
  | probe => exact Obeys.ite (obeys_note _) (.pure _) w
  | _ => exact Std.Refl.refl w

lemma obeys_leaveArea (e : EntityId) : Obeys R (leaveArea e) :=
  obeys_currentArea.bind fun a => obeys_modifyArea a fun _ => by rfl

lemma obeys_clearEntity {breakDown : PartId → Game Unit} (h : ∀ id, Obeys R (breakDown id))
    (e : EntityId) : Obeys R (clearEntity breakDown e) :=
  (obeys_entity e).bind fun _ => (Obeys.forM h _).bind fun _ => obeys_modify_shed fun w =>
    ⟨.strip w e.index, .of_same (by rfl)⟩

lemma obeys_deletePlain (e : EntityId) : Obeys R (deletePlain e) :=
  (obeys_leaveArea e).bind fun _ => obeys_clearEntity obeys_breakDownPlain e

lemma obeys_breakDownFully : Obeys R (breakDownFully id) := by
  refine (obeys_part id).bind fun p => ?_
  cases p with
  | player p =>
    exact (Obeys.orAbsent _).bind fun _ => (obeys_owner _).bind fun _ =>
      (obeys_deletePlain _).bind fun _ => (obeys_owner _).bind fun _ =>
      (obeys_deletePlain _).bind fun _ => (obeys_deletePlain _).bind fun _ =>
      (Obeys.orAbsent _).bind fun _ => (obeys_owner _).bind fun _ =>
      (obeys_deletePlain _).bind fun _ => (obeys_deactivate id).bind fun _ => obeys_print _
  | _ => exact obeys_breakDownPlain id

lemma obeys_breakDown (id : PartId) : Obeys R (breakDown id) :=
  (obeys_hasLost id _).bind fun _ => .ite (obeys_breakDownFully id) (.pure _)

lemma obeys_deleteEntity (e : EntityId) : Obeys R (deleteEntity e) :=
  (obeys_leaveArea e).bind fun _ => obeys_clearEntity obeys_breakDown e

lemma obeys_removeEntity (a : AreaId) (e : EntityId) : Obeys R (removeEntity a e) :=
  (obeys_area a).bind fun _ => .ite (.throw _) <|
    (obeys_modifyArea a fun _ => by rfl).bind fun _ =>
      obeys_clearEntity obeys_breakDown e

lemma obeys_reset : Obeys R reset := by
  have hregs : Obeys R (modify fun w : World => { w with
      bodies := [], triggers := [], active := [], drawn := [], overlay := [], background := [],
      usables := [], effects := [] }) :=
    obeys_modify_shed fun _ => ⟨.of_setting rfl (List.nil_sublist _) (List.nil_sublist _) rfl,
      .of_sublist le_rfl (fun _ _ => rfl) fun r => by
        cases r <;> first | exact List.nil_sublist _ | exact .refl _⟩
  refine .bind .get fun w => ?_
  split
  · exact (obeys_area _).bind fun _ => (Obeys.forM obeys_deleteEntity _).bind fun _ => hregs
  · exact hregs

end BreakDown

lemma bodies_of_reset {w w' : World} (h : reset.runOn w = (.ok (), w')) : w'.bodies = [] := by
  rw [reset, run_get_bind] at h
  split at h
  · obtain ⟨_, _, -, h⟩ := run_bind_eq_ok.1 h
    obtain ⟨_, _, -, h⟩ := run_bind_eq_ok.1 h
    cases h
    rfl
  · cases h
    rfl

/-! ## Setting up -/

lemma drafts_modifyEntity (e : EntityId) (f : Entity → Entity) :
    Obeys Drafts (modifyEntity e f) := fun _ => .of_same rfl

lemma drafts_setOwner (p : PartId) (e? : Option EntityId) : Obeys Drafts (setOwner p e?) :=
  fun _ => .modifyOwned fun _ _ => rfl

lemma drafts_attach (e : EntityId) (id : PartId) : Obeys Drafts (attach e id) :=
  (drafts_setOwner id _).bind fun _ => drafts_modifyEntity e _

lemma tame_attach (e : EntityId) : Keeps (Orderly Tame) w0 [id] (attach e id) :=
  Keeps.orderly ((tame_setOwner (.head _) _).bind fun _ _ h hnew =>
    ⟨h.extend hnew e.index, hnew⟩) (drafts_attach e id)

lemma obeys_modifyEntity [Allows (Orderly Tame) R] (e : EntityId)
    {f : Entity → Entity} (hf : ∀ en, (f en).parts = en.parts) : Obeys R (modifyEntity e f) :=
  fun w => Allows.allows (R := Orderly Tame) w _ ⟨.modifyEntity fun en => .inl (hf en), .of_same rfl⟩

lemma obeys_newListItem (s : ScrollView) (item : Json) : Obeys (Orderly Tame) (newListItem s item) :=
  .ite
    (.lifts fun _ => (obeys_newSprite _ true).bind fun id =>
      (obeys_modifySprite id fun _ => by rfl).bind fun _ => .pure _)
    (obeys_newLabel _ _ _)

lemma fresh_newListItem (s : ScrollView) (item : Json) : Fresh (newListItem s item) := by
  rw [newListItem]
  split
  · exact .bind (.lift _) fun _ => (fresh_newSprite _ true).gives fun id =>
      .bind (obeys_modifySprite id fun _ => by rfl) fun _ => .pure id
  · exact fresh_newLabel _ _ _

lemma obeys_takeIntoList (id item : PartId) (e : EntityId) :
    Obeys (Orderly Tame) (takeIntoList id item e) :=
  (obeys_modify_shed fun _ => ⟨.of_same (by rfl), .put .overlay List.erase_sublist⟩).bind fun _ =>
    obeys_modifyPart id fun p => by cases p <;> rfl

lemma obeys_setUpList (s : ScrollView) : Obeys (Orderly Tame) (setUpList id s) :=
  .lifts fun _ => .forM (fun (item, _) =>
    (obeys_newListItem s item).bind_fresh (fresh_newListItem s item) fun _ child =>
      (Obeys.lift _).keeps.bind fun _ => (tame_placeParts _ _).bind fun e =>
          (obeys_takeIntoList id child e).keeps) _

lemma obeys_setUpPlayer (p : Player) : Obeys (Orderly Tame) (setUpPlayer id p) := by
  have hbar (combat : PartId) : Obeys (Orderly Tame) (do
      let bar ← newBar (← Game.combat combat).maxHealth 300 20
      let camera := (← get).camera
      let _ ← placeParts [bar] (camera.w - 300 : Int) (camera.h - 20 : Int)
      modifyPlayer id ({ · with bar? := some bar })) :=
    (obeys_combat combat).bind fun _ => (obeys_newBar _ _ _).bind_fresh (fresh_newBar _ _ _)
      fun _ bar => Obeys.get.keeps.bind fun _ => (tame_placeParts _ _).bind fun _ =>
          (obeys_modifyPlayer id _).keeps
  exact (Obeys.orAbsent _).bind fun _ =>
    (obeys_newCombat _ _).bind_fresh (fresh_newCombat _ _) fun _ combat =>
      (obeys_owner id).keeps.bind fun e => (tame_attach combat e).bind fun _ =>
        ((obeys_modifyPlayer id _).bind fun _ => hbar combat).keeps

lemma obeys_setUpEnemy (e : Enemy) : Obeys (Orderly Tame) (setUpEnemy id e) :=
  (obeys_owner id).bind fun me => (Obeys.orAbsent _).bind fun _ =>
    (obeys_newCombat _ _).bind_fresh (fresh_newCombat _ _) fun _ combat =>
      (tame_attach combat me).bind fun _ => Obeys.keeps <|
        (obeys_find me _).bind fun combat => (obeys_modifyEnemy id _).bind fun _ =>
          (obeys_equip combat _).bind fun _ => obeys_modifyEnemy id _

lemma obeys_setUpPlaceholder : Obeys (Orderly Tame) (setUpPlaceholder id) :=
  (obeys_place id).bind fun _ => .lifts fun _ => by
    split
    · exact .pure _
    · exact .bind .get fun _ => .ite
        ((obeys_owner id).bind fun e => obeys_deleteEntity e)
        (obeys_modify_shed fun _ => ⟨.of_same (by rfl), .of_same (by rfl)⟩)

lemma obeys_setUpProbe (p : Probe) : Obeys (Orderly Tame) (setUpProbe id p) := by
  rw [setUpProbe]
  split
  · exact .pure _
  · exact .pure _
  · exact obeys_note _
  · exact obeys_note _
  · exact (obeys_note _).bind fun _ => .lifts fun _ => (obeys_owner id).bind fun e =>
      (obeys_newPart_shed rfl).bind_fresh (fresh_newPart _) fun _ probe =>
        (tame_attach probe e).bind fun _ => (obeys_note _).keeps
  · exact (obeys_note _).bind fun _ => (obeys_owner id).bind fun e => obeys_deleteEntity e

lemma obeys_setUp [Allows (Orderly Tame) R] (id : PartId) : Obeys R (setUp id) := by
  refine .allow (R := Orderly Tame) ((obeys_part id).bind fun p => ?_)
  cases p with
  | scrollView s => exact obeys_setUpList id s
  | player p => exact obeys_setUpPlayer id p
  | enemy e => exact obeys_setUpEnemy id e
  | placeholder => exact obeys_setUpPlaceholder id
  | probe p => exact obeys_setUpProbe id p
  | _ => exact .pure _

/-! ## Any entity

Whatever an entity is made of, making it registers no bodies. -/

lemma idle_setOwner (p : PartId) (e? : Option EntityId) : Obeys Idle (setOwner p e?) :=
  fun _ => ⟨le_rfl, .inr (.refl _)⟩

lemma idle_placeParts (ids : List PartId) (x y : Json) : Obeys Idle (placeParts ids x y) :=
  .bind .get fun _ => .bind (fun _ => ⟨le_rfl, .inr (.refl _)⟩) fun _ =>
      (Obeys.forM (fun p => idle_setOwner p _) ids).bind fun _ => .pure _

lemma idle_spawn (ids : List PartId) (x y : Json) : Obeys Idle (spawn ids x y) :=
  (idle_placeParts ids x y).bind fun _ => (Obeys.forM obeys_setUp ids).bind fun _ => .pure _

end TileQuest.Game
