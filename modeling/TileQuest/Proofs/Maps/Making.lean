import TileQuest.Proofs.Chat.Blindness

/-!
# Making the entities of an area looks at no file

Whatever a record asks for, it is made of parts, registers and random numbers. Neither the files
nor what was written down before have a part in it: `Game.blind_createEntity` for the entities that
are played with, `Game.blind_placePlaceholder` for what stands for them in the editor. Clearing
everything away is blind as well (`Game.blind_reset`).
-/

namespace TileQuest.Game

open World

variable (id : PartId) {α : Type}

/-! ## Parts -/

lemma blind_sprite (id : PartId) : Blind (sprite id) :=
  blind_part_bind (fun _ p => by cases p <;> rfl)
    (fun p => by cases p <;> first | exact .pure _ | exact .throw _) id

lemma blind_combat (id : PartId) : Blind (combat id) :=
  blind_part_bind (fun _ p => by cases p <;> rfl)
    (fun p => by cases p <;> first | exact .pure _ | exact .throw _) id

lemma blind_modifySprite (f : Sprite → Sprite) : Blind (modifySprite id f) :=
  blind_modifyOther (fun p _ => by cases p <;> simp) id

lemma blind_modifyEnemy (f : Enemy → Enemy) : Blind (modifyEnemy id f) :=
  blind_modifyOther (fun p _ => by cases p <;> simp) id

lemma blind_area (a : AreaId) : Blind (area a) :=
  .get_bind (fun _ _ => rfl) fun _ => .orAbsent _

lemma blind_modifyArea (a : AreaId) (f : Area → Area) : Blind (modifyArea a f) :=
  .change fun _ _ => rfl

lemma blind_randomBetween (low high : Int) : Blind (randomBetween low high) :=
  blind_nextRandom.bind fun _ => .pure _

lemma blind_loadSound (file : String) (volume : Json) : Blind (loadSound file volume) :=
  .ite (.bind (.throw _) fun _ => .change fun _ _ => rfl)
    (.change fun _ _ => rfl)

/-! ## Sprites that show a cell -/

lemma blind_showCell (column row : Json) : Blind (showCell id column row) :=
  (blind_modifySprite id _).bind fun _ => (blind_sprite id).bind fun _ =>
    (Blind.orAbsent _).bind fun _ => .lifts fun _ => (blind_paint _).bind fun _ => .lifts fun _ =>
      blind_paint _

lemma blind_newSheet (file cellWidth cellHeight column row : Json) (isOverlay : Bool)
    (animation? : Option Animation) :
    Blind (newSheet file cellWidth cellHeight column row isOverlay animation?) :=
  .lifts fun _ => (blind_newSprite _ _).bind fun id => (blind_sprite id).bind fun _ => .lifts fun _ =>
    (blind_modifySprite id _).bind fun _ => (blind_showCell id _ _).bind fun _ => .pure _

lemma blind_newAnimation (file cellWidth cellHeight frames framesPerImage : Json)
    (isOverlay : Bool) :
    Blind (newAnimation file cellWidth cellHeight frames framesPerImage isOverlay) :=
  .lifts fun _ => by
    refine .ite (.bind (.throw _) fun _ => ?_) ?_
    all_goals
      exact .lifts fun _ => (blind_newSheet _ _ _ _ _ _ _).bind fun id =>
        (blind_activate id).bind fun _ => .pure _

/-! ## Registered parts -/

lemma blind_newBody (hitbox : Rect) : Blind (newBody hitbox) :=
  Blind.bind (blind_newPlain fun _ => nofun) fun _ =>
    Blind.bind (.change fun _ _ => rfl) fun _ => .pure _

lemma blind_newTrigger (hitbox : Rect) (form : TriggerForm) : Blind (newTrigger hitbox form) :=
  Blind.bind (blind_newPlain fun _ => nofun) fun _ =>
    Blind.bind (.change fun _ _ => rfl) fun _ => .pure _

lemma blind_newUsable (name : Json) (form : UsableForm) : Blind (newUsable name form) :=
  Blind.bind (blind_newPlain fun _ => nofun) fun _ =>
    Blind.bind (.change fun _ _ => rfl) fun _ => .pure _

lemma blind_newCombat (health : Json) (onDeath : Death) : Blind (newCombat health onDeath) :=
  Blind.bind (blind_newPlain fun _ => nofun) fun id => (blind_activate id).bind fun _ => .pure _

lemma blind_newBar (max width height : Json) : Blind (newBar max width height) :=
  Blind.bind (blind_newPlain fun _ => nofun) fun id => (blind_enlist id _).bind fun _ => .pure _

lemma blind_newEnemy (health : Json) (weapon : Int) : Blind (newEnemy health weapon) :=
  .lifts fun _ => Blind.bind (blind_newPlain fun _ => nofun) fun id =>
    (blind_activate id).bind fun _ => (blind_randomBetween _ _).bind fun _ =>
      (blind_modifyEnemy id _).bind fun _ => .pure _

lemma blind_newBagView (bagId : BagId) : Blind (newBagView bagId) :=
  (blind_bag bagId).bind fun _ => .get_bind (fun _ _ => rfl) fun _ =>
    Blind.bind (blind_newPlain fun _ => nofun) fun id =>
      Blind.bind (.change fun _ _ => rfl) fun _ => (blind_renderView id).bind fun _ =>
        (blind_activate id).bind fun _ => .pure _

lemma blind_newPlayer (health : Json) : Blind (newPlayer health) := by
  have hhome : Blind homeName := .get_bind (fun _ _ => rfl) fun _ => .orAbsent _
  exact Blind.bind (blind_newPlain fun _ => nofun) fun id => (blind_activate id).bind fun _ =>
    (blind_placeLabel _ _ _ _ _).bind fun _ => hhome.bind fun _ =>
    (blind_placeLabel _ _ _ _ _).bind fun _ => (blind_newBagView _).bind fun _ =>
    (blind_placeParts _ _ _).bind fun _ => (blind_owner _).bind fun _ =>
    .get_bind (fun _ _ => rfl) fun _ => (blind_modifyEntity _ _).bind fun _ =>
    (blind_owner _).bind fun _ => (blind_modifyEntity _ _).bind fun _ =>
    (blind_modifyPlayer id _).bind fun _ => hhome.bind fun _ => (blind_tell id _).bind fun _ =>
    (blind_modifyPlayer id _).bind fun _ => .pure _

/-! ## Setting up -/

lemma blind_attach (e : EntityId) (id : PartId) : Blind (attach e id) :=
  (blind_setOwner id _).bind fun _ => blind_modifyEntity e _

lemma blind_deleteEntity (e : EntityId) : Blind (deleteEntity e) :=
  (blind_leaveArea e).bind fun _ => (blind_entity e).bind fun _ =>
    (Blind.forM blind_breakDown _).bind fun _ => blind_modifyEntity e _

lemma blind_equip (item? : Option ItemType) : Blind (equip id item?) := by
  have hshow (item : ItemType) : Blind (hold id item) :=
    (blind_newSprite _ _).bind fun _ => (blind_placeParts _ _ _).bind fun _ =>
      blind_modifyCombat id _
  refine (blind_requires id _).bind fun _ => (blind_modifyCombat id _).bind fun _ => ?_
  cases item? with
  | none => exact .pure _
  | some item =>
    dsimp only
    split
    · exact hshow item
    · exact .lifts fun _ => (blind_loadSound _ _).bind fun _ =>
        (blind_modifyCombat id _).bind fun _ => hshow item

lemma blind_setUpPlayer (p : Player) : Blind (setUpPlayer id p) :=
  (Blind.orAbsent _).bind fun _ => (blind_newCombat _ _).bind fun _ => (blind_owner id).bind fun _ =>
    (blind_attach _ _).bind fun _ => (blind_modifyPlayer id _).bind fun _ =>
    (blind_combat _).bind fun _ => (blind_newBar _ _ _).bind fun _ => .get_bind (fun _ _ => rfl) fun _ =>
      (blind_placeParts _ _ _).bind fun _ => blind_modifyPlayer id _

lemma blind_setUpEnemy (e : Enemy) : Blind (setUpEnemy id e) :=
  (blind_owner id).bind fun _ => (Blind.orAbsent _).bind fun _ => (blind_newCombat _ _).bind fun _ =>
    (blind_attach _ _).bind fun _ => (blind_find (fun b p => by cases p <;> rfl) _).bind fun _ =>
    (blind_modifyEnemy id _).bind fun _ => (blind_equip _ _).bind fun _ => blind_modifyEnemy id _

lemma blind_setUpPlaceholder : Blind (setUpPlaceholder id) := by
  refine (blind_place id).bind fun _ => .lifts fun key? => ?_
  cases key? with
  | none => exact .pure _
  | some key =>
    exact .get_bind (fun _ _ => rfl) fun _ =>
      .ite ((blind_owner id).bind blind_deleteEntity) (.change fun _ _ => rfl)

lemma blind_setUpList (s : ScrollView) : Blind (setUpList id s) := by
  have hi (item : Json) : Blind (newListItem s item) :=
    .ite (.lifts fun _ => (blind_newSprite _ _).bind fun child =>
      (blind_modifySprite child _).bind fun _ => .pure _) (blind_newLabel _ _ _)
  have htake (item : PartId) (e : EntityId) : Blind (takeIntoList id item e) :=
    Blind.bind (.change fun _ _ => rfl) fun _ =>
      blind_modifyOther (fun p _ => by cases p <;> simp) id
  exact .lifts fun _ => .forM (fun _ => (hi _).bind fun _ => (Blind.lift _).bind
    fun _ => (blind_placeParts _ _ _).bind fun _ => htake _ _) _

lemma blind_setUpProbe (p : Probe) : Blind (setUpProbe id p) := by
  rw [setUpProbe]
  cases p.kind with
  | silent | inert => exact .pure _
  | reporting | special => exact blind_note _
  | spawning =>
    exact (blind_note _).bind fun _ => .lifts fun _ => (blind_owner id).bind fun _ =>
      Blind.bind (blind_newPlain fun _ => (by simp)) fun _ => (blind_attach _ _).bind fun _ =>
        blind_note _
  | deleting =>
    exact (blind_note _).bind fun _ => (blind_owner id).bind blind_deleteEntity

lemma blind_setUp : Blind (setUp id) := by
  refine blind_part_bind (fun b p => by cases p <;> rfl) (fun p => ?_) id
  cases p with
  | scrollView s => exact blind_setUpList id s
  | player p => exact blind_setUpPlayer id p
  | enemy e => exact blind_setUpEnemy id e
  | placeholder _ => exact blind_setUpPlaceholder id
  | probe p => exact blind_setUpProbe id p
  | _ => exact .pure _

lemma blind_spawn (parts : List PartId) (x y : Json) : Blind (spawn parts x y) :=
  (blind_placeParts _ _ _).bind fun _ => (Blind.forM blind_setUp _).bind fun _ => .pure _

/-! ## Entities -/

lemma blind_makePlayer : Blind makePlayer :=
  (blind_newPlayer _).bind fun _ => (blind_newAnimation _ _ _ _ _ _).bind fun _ =>
    (blind_newBody _).bind fun _ => blind_spawn _ _ _

lemma blind_makeTree : Blind makeTree :=
  (blind_newSprite _ _).bind fun _ => (blind_newBody _).bind fun _ =>
    (Blind.bind (blind_newUsable _ _) fun _ => (blind_loadSound _ _).bind fun _ => .pure _).bind
      fun _ => blind_spawn _ _ _

lemma blind_makeRock : Blind makeRock :=
  (blind_newSprite _ _).bind fun _ => (blind_newBody _).bind fun _ =>
    (Blind.bind (blind_newUsable _ _) fun _ => (blind_loadSound _ _).bind fun _ => .pure _).bind
      fun _ => blind_spawn _ _ _

lemma blind_makeTeleporter (icon : String) (args : Json) : Blind (makeTeleporter icon args) :=
  .lifts fun _ => .lifts fun _ => .lifts fun _ =>
    (Blind.bind (blind_newTrigger _ _) fun _ => (blind_print _).bind fun _ => .pure _).bind fun _ =>
      (blind_newSprite _ _).bind fun _ => blind_spawn _ _ _

lemma blind_makeDropped (args : Json) : Blind (makeDropped args) :=
  .lifts fun _ => .lifts fun _ => .lifts fun _ => .lifts fun _ => .lifts fun _ =>
    (blind_newTrigger _ _).bind fun _ => (blind_newSprite _ _).bind fun _ => blind_spawn _ _ _

lemma blind_makeCharacter (args : Json) : Blind (makeCharacter args) :=
  .lifts fun _ => .lifts fun _ => (blind_newSprite _ _).bind fun _ => .lifts fun _ =>
    .lifts fun _ => (blind_newUsable _ _).bind fun _ => blind_spawn _ _ _

lemma blind_makeEnemy (args : Json) : Blind (makeEnemy args) :=
  .lifts fun _ => .lifts fun _ => (blind_newSprite _ _).bind fun _ =>
    (blind_newEnemy _ _).bind fun _ => (blind_newBody _).bind fun _ => blind_spawn _ _ _

lemma blind_makeEntity (factory : Int) (args : Json) : Blind (makeEntity factory args) := by
  rw [makeEntity]
  split
  · exact blind_makePlayer
  · exact blind_makeTree
  · exact blind_makeRock
  · exact blind_makeTeleporter _ _
  · exact blind_makeTeleporter _ _
  · exact blind_makeTeleporter _ _
  · exact blind_makeTeleporter _ _
  · exact blind_makeDropped _
  · exact blind_makeCharacter _
  · exact blind_makeEnemy _
  · exact .throw _

lemma blind_createEntity (factory : Int) (column row args : Json) :
    Blind (createEntity factory column row args) :=
  (blind_makeEntity _ _).bind fun e =>
    (Blind.lifts fun _ => (blind_modifyEntity e _).bind fun _ => .lifts fun _ =>
      blind_modifyEntity e _).bind fun _ => .pure _

lemma blind_placePlaceholder (a : AreaId) (icon : String) (p : Placeholder) (x y : Scalar) :
    Blind (placePlaceholder a icon p x y) :=
  (blind_newSprite _ _).bind fun _ => Blind.bind (blind_newPlain fun _ => nofun) fun _ =>
    (blind_spawn _ _ _).bind fun e =>
      (blind_hasPart (fun b p => by cases p <;> rfl) e).bind fun _ =>
        .ite (blind_modifyArea _ _) (.pure _)

end TileQuest.Game
