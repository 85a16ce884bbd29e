import TileQuest.Proofs.Registers.Frames

/-!
# Things drawn that are nobody's

A part is drawn as soon as it is there, and an entity is made of its parts only when all of them
are. So a making that breaks off in between may leave something drawn that belongs to no entity,
and that cannot be drawn.
-/

namespace TileQuest

variable {w0 w : World} {loose : List PartId} {p : PartId}

inductive Part.Care where
  | none
  | fighter
  | player
  | other

def Part.care : Part → Part.Care
  | .combat _ => .fighter
  | .player _ => .player
  | .scrollView _ => .other
  | .enemy _ => .other
  | .placeholder _ => .other
  | .probe _ => .other
  | _ => .none

namespace World

variable {w' : World} {loose' ids : List PartId}

/-! ## The relation -/

def IsHeld (w : World) (p : PartId) : Prop := ∃ e, w.ownerOf? p = some e

/-- Everything that is drawn belongs to an entity. -/
def Housed (w : World) : Prop := ∀ p ∈ w.drawn ++ w.overlay, w.IsHeld p

def careOf? (w : World) (p : PartId) : Option Part.Care := w.parts[p.index]?.map fun o => o.part.care

/-- What is drawn since an earlier world belongs to an entity, or is one of the loose parts. What
was there then is still whose it was, and is drawn and acts as before. -/
structure Tidied (w0 : World) (loose : List PartId) (w : World) : Prop where
  parts_le : w0.parts.size ≤ w.parts.size
  owner : ∀ p : PartId, p.index < w0.parts.size → w.ownerOf? p = w0.ownerOf? p
  care : ∀ p : PartId, p.index < w0.parts.size → w.careOf? p = w0.careOf? p
  active : w0.active <+: w.active
  drawn : w0.drawn ⊆ w.drawn
  held : ∀ p ∈ w.drawn ++ w.overlay, p ∈ w0.drawn ++ w0.overlay ∨ p ∈ loose ∨ w.IsHeld p
  edited : ∀ i : Nat, w.areas[i]?.map Area.isEdited = w0.areas[i]?.map Area.isEdited

/-- What is drawn since an earlier world belongs to an entity. -/
def Tidies (w w' : World) : Prop := Tidied w [] w'

lemma Tidied.refl (w : World) : Tidied w [] w :=
  ⟨le_rfl, fun _ _ => rfl, fun _ _ => rfl, List.prefix_refl _, fun _ h => h,
    fun _ h => .inl h, fun _ => rfl⟩

lemma Tidied.trans {more : List PartId} (h : Tidied w0 loose w) (h' : Tidied w more w') :
    Tidied w0 (loose ++ more) w' where
  parts_le := h.parts_le.trans h'.parts_le
  owner p hp := (h'.owner p (hp.trans_le h.parts_le)).trans (h.owner p hp)
  care p hp := (h'.care p (hp.trans_le h.parts_le)).trans (h.care p hp)
  active := h.active.trans h'.active
  drawn _ hp := h'.drawn (h.drawn hp)
  held p hp := by
    rcases h'.held p hp with hold | hmore | hheld
    · rcases h.held p hold with hold | hloose | ⟨e, he⟩
      · exact .inl hold
      · exact .inr (.inl (List.mem_append_left _ hloose))
      · exact .inr (.inr ⟨e, (h'.owner p (lt_of_ownerOf? he)).trans he⟩)
    · exact .inr (.inl (List.mem_append_right _ hmore))
    · exact .inr (.inr hheld)
  edited i := (h'.edited i).trans (h.edited i)

lemma Tidied.tidies (h : Tidied w0 loose w) (h' : Tidies w w') : Tidied w0 loose w' :=
  List.append_nil loose ▸ h.trans h'

instance : IsPreorder World Tidies where
  refl := Tidied.refl
  trans _ _ _ := Tidied.tidies

lemma Tidied.mono (h : Tidied w0 loose w) (hsub : loose ⊆ loose') : Tidied w0 loose' w :=
  { h with held := fun p hp => (h.held p hp).imp_right (Or.imp_left fun hp => hsub hp) }

lemma Tidied.housed (h : Tidied w0 [] w) (hw : w0.Housed) : w.Housed := by
  intro p hp
  rcases h.held p hp with hold | hnone | hheld
  · obtain ⟨e, he⟩ := hw p hold
    exact ⟨e, (h.owner p (lt_of_ownerOf? he)).trans he⟩
  · cases hnone
  · exact hheld

/-! ## Changes of the world -/

lemma Tidied.of_same
    (h : (w'.parts, w'.areas, w'.screen) = (w.parts, w.areas, w.screen)) : Tidies w w' := by
  simp only [Prod.mk.injEq, screen] at h
  obtain ⟨hps, has, hact, hdrawn, hlay⟩ := h
  refine ⟨by rw [hps], fun p _ => ownerOf?_of_parts hps p,
    fun _ _ => by rw [careOf?, hps, careOf?],
    hact ▸ List.prefix_refl _, fun _ hp => hdrawn ▸ hp, fun p hp => .inl ?_, fun _ => by rw [has]⟩
  rwa [hdrawn, hlay] at hp

lemma Tidied.modifyOwned {i : Nat} {f : Owned → Owned} (hown : ∀ o, (f o).owner? = o.owner?)
    (hcare : ∀ o, (f o).part.care = o.part.care) :
    Tidies w { w with parts := w.parts.modify i f } :=
  { Tidied.refl w with
    parts_le := by simp
    owner := fun p _ => congrArg Option.join (map_getElem?_modify (fun o _ => hown o) p.index)
    care := fun p _ => map_getElem?_modify (fun o _ => hcare o) p.index
    held := fun _ hp => .inl hp }

lemma ownerOf?_withPart (w : World) (p : Part) (q : PartId) :
    (w.withPart p).ownerOf? q = w.ownerOf? q := by
  rw [ownerOf?, ownerOf?, withPart, Array.getElem?_push]
  split
  · rename_i heq
    rw [heq, Array.getElem?_eq_none le_rfl]
    rfl
  · rfl

lemma Tidied.withPart (w : World) (p : Part) : Tidies w (w.withPart p) :=
  { Tidied.refl w with
    parts_le := by simp [World.withPart]
    owner := fun q _ => ownerOf?_withPart w p q
    care := fun q hq => by rw [careOf?, getElem?_withPart_of_ne p hq.ne, careOf?]
    held := fun _ hq => .inl hq }

lemma Tidied.act (w : World) (id : PartId) : Tidies w { w with active := w.active ++ [id] } :=
  { Tidied.refl w with active := List.prefix_append _ _ }

lemma Tidied.modifyArea {a : AreaId} {f : Area → Area} (hf : ∀ ar, (f ar).isEdited = ar.isEdited) :
    Tidies w { w with areas := w.areas.modify a.index f } :=
  { Tidied.refl w with edited := fun i => map_getElem?_modify (fun ar _ => hf ar) i }

lemma Tidied.enlist (h : Tidied w0 loose w) (id : PartId) (isOverlay : Bool) :
    Tidied w0 (id :: loose) ((Game.enlist id isOverlay).runOn w).2 := by
  cases isOverlay with
  | true =>
    refine { h with held := fun p hp => ?_ }
    rw [List.mem_append] at hp
    change p ∈ w.drawn ∨ p ∈ w.overlay ++ [id] at hp
    rw [List.mem_append, List.mem_singleton, ← or_assoc, ← List.mem_append] at hp
    rcases hp with hp | rfl
    · exact (h.held p hp).imp_right (Or.imp_left (List.mem_cons_of_mem _))
    · exact .inr (.inl (.head _))
  | false =>
    refine { h with
      drawn := fun p hp => List.mem_append_left _ (h.drawn hp)
      held := fun p hp => ?_ }
    rw [List.mem_append] at hp
    change p ∈ w.drawn ++ [id] ∨ p ∈ w.overlay at hp
    rw [List.mem_append, List.mem_singleton, or_right_comm, ← List.mem_append] at hp
    rcases hp with hp | rfl
    · exact (h.held p hp).imp_right (Or.imp_left (List.mem_cons_of_mem _))
    · exact .inr (.inl (.head _))

lemma Tidied.give (h : Tidied w0 loose w)
    (hnew : New w0 w ids) (hps : w'.parts.size = w.parts.size)
    (hmem : ∀ p ∈ ids, p.index < w.parts.size → w'.IsHeld p)
    (hoth : ∀ p : PartId, p ∉ ids → w'.ownerOf? p = w.ownerOf? p)
    (hcare : ∀ p, w'.careOf? p = w.careOf? p) (hsame : (w'.areas, w'.screen) = (w.areas, w.screen))
    (hloose : ∀ p ∈ loose, p ∈ ids ∨ p ∈ loose') : Tidied w0 loose' w' := by
  simp only [Prod.mk.injEq, screen] at hsame
  obtain ⟨has, hact, hdrawn, hlay⟩ := hsame
  refine ⟨h.parts_le.trans_eq hps.symm, fun p hp => ?_, fun p hp => ?_,
    hact ▸ h.active, fun p hp => hdrawn ▸ h.drawn hp, fun p hp => ?_,
    fun i => by rw [has, h.edited i]⟩
  · rw [hoth p fun hmem => hp.not_ge (hnew p hmem).1, h.owner p hp]
  · rw [hcare p, h.care p hp]
  · rw [hdrawn, hlay] at hp
    by_cases hids : p ∈ ids
    · exact .inr (.inr (hmem p hids (hnew p hids).2))
    rcases h.held p hp with hold | hl | ⟨e, he⟩
    · exact .inl hold
    · exact .inr (.inl ((hloose p hl).resolve_left hids))
    · exact .inr (.inr ⟨e, (hoth p hids).trans he⟩)

lemma lt_of_careOf? {c : Part.Care} (h : w.careOf? p = some c) : p.index < w.parts.size := by
  obtain ⟨o, ho, -⟩ := Option.map_eq_some_iff.1 h
  exact lt_of_getElem? ho

lemma careOf?_placed (w : World) (ids : List PartId) (x y : Json) (p : PartId) :
    (w.placed ids x y).careOf? p = w.careOf? p := by
  rw [careOf?, getElem?_placed, Option.map_map, careOf?]
  refine congrArg (Option.map · _) (funext fun o => ?_)
  rw [Function.comp_apply]
  split <;> rfl

lemma Tidied.placed (h : Tidied w0 loose w) (hnew : New w0 w ids)
    (hloose : loose ⊆ ids) (x y : Json) : Tidied w0 [] (w.placed ids x y) := by
  refine h.give hnew (size_given _ ids _) (fun p hp hlt => ⟨_, ownerOf?_given _ _ hp hlt⟩)
    (fun p hp => ownerOf?_given_of_notMem _ _ hp) (careOf?_placed w ids x y) rfl
    fun p hp => .inl (hloose hp)

lemma Tidied.attached (h : Tidied w0 loose w) (hnew : New w0 w [p]) (e : EntityId) :
    Tidied w0 loose (w.attached e p) := by
  refine h.give hnew (by simp [World.attached, World.withOwner])
    (fun q hq hlt => ?_) (fun q hq => ?_) (fun q => ?_) rfl fun q hq => .inr hq
  · obtain rfl := List.mem_singleton.1 hq
    exact ⟨e, ownerOf?_withOwner_self hlt _⟩
  · exact ownerOf?_withOwner_of_ne (fun heq => hq (List.mem_singleton.2 heq)) _
  · exact map_getElem?_modify (fun _ _ => by rfl) q.index

end World

namespace Game

open World

variable (id : PartId) {α β : Type} {f : World → World} {g : Game PartId}

/-! ## Steps -/

lemma Ends.tidy {g : Game α} {f : α → Game β} {Q : β → World → Prop} {E : World → Prop}
    (hg : Obeys Tidies g) (h : Tidied w0 loose w) (hE : ∀ u, Tidied w0 loose u → E u)
    (hf : ∀ a u, g.runOn w = (.ok a, u) → Tidied w0 loose u → Ends u (f a) Q E) :
    Ends w (g >>= f) Q E :=
  .watch hg (fun _ hu => hE _ (h.tidies hu)) fun a u hrun hu => hf a u hrun (h.tidies hu)

lemma tidies_modify (h : ∀ w, Tidies w (f w)) : Obeys Tidies (modify f) := h

lemma tidies_same
    (h : ∀ w, ((f w).parts, (f w).areas, (f w).screen) = (w.parts, w.areas, w.screen)) :
    Obeys Tidies (modify f) :=
  fun w => .of_same (h w)

lemma tidies_print (text : String) : Obeys Tidies (print text) := tidies_same fun _ => by rfl

lemma tidies_paint (ds : List Draw) : Obeys Tidies (paint ds) := tidies_same fun _ => by rfl

lemma tidies_modifyPart {f : Part → Part} (hf : ∀ p, (f p).care = p.care) :
    Obeys Tidies (modifyPart id f) :=
  tidies_modify fun _ => .modifyOwned (fun _ => rfl) fun o => hf o.part

lemma tidies_modifyEntity (e : EntityId) (f : Entity → Entity) : Obeys Tidies (modifyEntity e f) :=
  tidies_same fun _ => by rfl

lemma tidies_activate : Obeys Tidies (activate id) := tidies_modify fun w => .act w id

lemma tidies_newPart (p : Part) : Obeys Tidies (newPart p) := fun w => .withPart w p

lemma tidies_loadImage (file : String) : Obeys Tidies (loadImage file) :=
  .lifts fun _ => (tidies_same fun _ => by rfl).bind fun _ => .pure _

lemma tidies_loadSound (file : String) (volume : Json) : Obeys Tidies (loadSound file volume) :=
  .ite (.throw _) (tidies_same fun _ => by rfl)

lemma tidies_firstLabel (font : String) (text size : Json) :
    Obeys Tidies (firstLabel font text size) := by
  refine Obeys.bind (.bind .get fun _ => ?_) fun _ => (obeys_renderText text _).bind fun _ => .pure _
  split
  · exact .pure _
  · exact (tidies_same fun _ => by rfl).bind fun _ => .pure _

lemma tidies_setText (text : Json) : Obeys Tidies (setText id text) := by
  have hl (f : Label → Label) : Obeys Tidies (modifyLabel id f) :=
    tidies_modifyPart id fun p => by cases p <;> rfl
  exact (obeys_requires id _).bind fun _ => (hl _).bind fun _ => (obeys_label id).bind fun _ =>
    (obeys_renderText text _).bind fun _ => (hl _).bind fun _ =>
      tidies_modify fun _ => .modifyOwned (fun _ => rfl) fun _ => rfl

lemma tidies_modifyPlayer (f : Player → Player) : Obeys Tidies (modifyPlayer id f) :=
  tidies_modifyPart id fun p => by cases p <;> rfl

lemma tidies_modifyCombat (f : Combat → Combat) : Obeys Tidies (modifyCombat id f) :=
  tidies_modifyPart id fun p => by cases p <;> rfl

lemma tidies_modifyEnemy (f : Enemy → Enemy) : Obeys Tidies (modifyEnemy id f) :=
  tidies_modifyPart id fun p => by cases p <;> rfl

lemma tidies_tell (text : String) : Obeys Tidies (tell id text) :=
  (obeys_player id).bind fun _ => (Obeys.orAbsent _).bind fun _ => (tidies_setText _ _).bind fun _ =>
    tidies_modifyPlayer id _

/-! ## Parts that are drawn -/

/-- The part that the step gives is all that it leaves loose. -/
def Hangs (g : Game PartId) : Prop := ∀ w, Ends w g (fun id => Tidied w [id]) (Tidies w)

lemma Hangs.bind {g : Game α} {f : α → Game PartId} (hg : Obeys Tidies g)
    (hf : ∀ a, Hangs (f a)) : Hangs (g >>= f) := fun w =>
  .tidy hg (.refl w) (fun _ hu => hu) fun a u _ hu =>
    (hf a u).mono (fun _ _ hv => Tidied.trans hu hv) fun _ hv => hu.tidies hv

lemma hangs_newDrawn (p : Part) (isOverlay : Bool) :
    Hangs (newPart p >>= fun id => enlist id isOverlay >>= fun _ => pure id) := by
  intro w
  have hdrawn := (Tidied.withPart w p).enlist ⟨w.parts.size⟩ isOverlay
  cases isOverlay <;> exact .step rfl (.step rfl (.pure hdrawn))

lemma hangs_newSprite (file : String) (isOverlay : Bool) : Hangs (newSprite file isOverlay) :=
  .bind (tidies_loadImage file) fun _ => hangs_newDrawn _ isOverlay

lemma hangs_newLabel (font : String) (text size : Json) : Hangs (newLabel font text size) :=
  .bind (tidies_firstLabel font text size) fun _ => hangs_newDrawn _ true

lemma hangs_newBar (max width height : Json) : Hangs (newBar max width height) :=
  hangs_newDrawn _ true

lemma new_of_le {u : World} {ids : List PartId} (h : w0.parts.size ≤ w.parts.size)
    (hnew : New w u ids) : New w0 u ids :=
  fun p hp => ⟨h.trans (hnew p hp).1, (hnew p hp).2⟩

lemma tidies_placeNew {f : PartId → EntityId → Game α} {x y : Json}
    (hg : Hangs g) (hfr : Fresh g) (hf : ∀ id e, Obeys Tidies (f id e)) :
    Obeys Tidies (g >>= fun id => placeParts [id] x y >>= f id) := fun w =>
  Ends.snd (((hg w).ran).bind fun id u ⟨hu, hrun⟩ =>
    .step (run_placeParts u [id] x y) <| .of_obeys (hf id _)
      (fun _ _ hv => (hu.placed (hfr w u id hrun).1 (List.Subset.refl _) x y).tidies hv)
      fun _ hv => (hu.placed (hfr w u id hrun).1 (List.Subset.refl _) x y).tidies hv)

lemma tidies_placeSprite (file : String) (x y : Scalar) : Obeys Tidies (placeSprite file x y) :=
  tidies_placeNew (hangs_newSprite file true) (fresh_newSprite file true) fun _ _ => .pure _

lemma tidies_placeLabel (font text : String) (size : Nat) (x y : Scalar) :
    Obeys Tidies (placeLabel font text size x y) :=
  tidies_placeNew (hangs_newLabel font _ _) (fresh_newLabel font _ _) fun _ _ => .pure _

lemma tidies_renderSlot (v : InventoryView) (equipped? : Option Json) (slot : Slot)
    (index : Nat) : Obeys Tidies (renderSlot id v equipped? slot index) := by
  have hshow (item : PartId) : Obeys Tidies (showInView id item) :=
    tidies_modifyPart id fun p => by cases p <;> rfl
  refine .lifts fun _ => (tidies_placeSprite _ _ _).bind fun _ => (hshow _).bind fun _ => ?_
  split
  · exact .pure _
  · refine (tidies_placeSprite _ _ _).bind fun _ => .lifts fun _ => ?_
    exact .ite ((tidies_placeLabel _ _ _ _ _).bind fun _ => (hshow _).bind fun _ => hshow _)
      (hshow _)

lemma tidies_newBagView (b : BagId) : Obeys Tidies (newBagView b) :=
  (obeys_bag b).bind fun _ => .bind .get fun _ => (tidies_newPart _).bind fun id =>
    Obeys.bind (tidies_same fun _ => by rfl) fun _ =>
      Obeys.bind ((obeys_requires id _).bind fun _ => (obeys_bagView id).bind fun v =>
        (obeys_bag _).bind fun _ => .forM (fun (slot, index) => tidies_renderSlot id v _ slot index) _)
        fun _ => (tidies_activate id).bind fun _ => .pure _

lemma tidies_newBody (hitbox : Rect) : Obeys Tidies (newBody hitbox) :=
  (tidies_newPart _).bind fun _ => (tidies_same fun _ => by rfl).bind fun _ => .pure _

lemma tidies_newCombat (health : Json) (onDeath : Death) : Obeys Tidies (newCombat health onDeath) :=
  (tidies_newPart _).bind fun id => (tidies_activate id).bind fun _ => .pure _

/-! ## Setting up -/

lemma tidies_attachNew {f : PartId → Game α} {e : EntityId}
    (hg : Obeys Tidies g) (hfr : Fresh g) (hf : ∀ id, Obeys Tidies (f id)) :
    Obeys Tidies (g >>= fun id => attach e id >>= fun _ => f id) := fun w =>
  Ends.snd (.tidy hg (.refl w) (fun _ hu => hu) fun id u hrun hu =>
    .step (run_attach u e id) <| .of_obeys (hf id)
      (fun _ _ hv => (hu.attached (hfr w u id hrun).1 e).tidies hv)
      fun _ hv => (hu.attached (hfr w u id hrun).1 e).tidies hv)

lemma tidies_equip (item? : Option ItemType) : Obeys Tidies (equip id item?) :=
  .equip id (tidies_modifyCombat id _) (fun _ => tidies_loadSound _ _)
    (fun _ => tidies_modifyCombat id _) fun _ =>
      tidies_placeNew (hangs_newSprite _ false) (fresh_newSprite _ false) fun _ _ =>
        tidies_modifyCombat id _

lemma tidies_setUpEnemy (e : Enemy) : Obeys Tidies (setUpEnemy id e) :=
  (obeys_owner id).bind fun me => (Obeys.orAbsent _).bind fun _ =>
    tidies_attachNew (tidies_newCombat _ _) (fresh_newCombat _ _) fun _ =>
      (obeys_find me _).bind fun _ => (tidies_modifyEnemy id _).bind fun _ =>
        (tidies_equip _ _).bind fun _ => tidies_modifyEnemy id _

lemma tidies_setUpPlayer (p : Player) : Obeys Tidies (setUpPlayer id p) := by
  refine (Obeys.orAbsent _).bind fun health => ?_
  -- the owner is looked up between the making and the adding
  intro w
  refine Ends.snd (.tidy (tidies_newCombat health .restart) (.refl w) (fun _ hu => hu)
    fun combat u hrun hu => .look (obeys_owner id) hu fun me _ => .step (run_attach u me combat) ?_)
  have hadded := hu.attached ((fresh_newCombat health .restart) w u combat hrun).1 me
  have hrest : Obeys Tidies (do
      modifyPlayer id ({ · with combat? := some combat, health? := none })
      let bar ← newBar (← Game.combat combat).maxHealth 300 20
      let camera := (← get).camera
      let _ ← placeParts [bar] (camera.w - 300 : Int) (camera.h - 20 : Int)
      modifyPlayer id ({ · with bar? := some bar })) :=
    (tidies_modifyPlayer id _).bind fun _ => (obeys_combat combat).bind fun _ => fun v => by
      refine Ends.snd ((((hangs_newBar _ _ _) v).ran).bind fun bar v' ⟨hv, hbar⟩ =>
        .step (run_get v') <| .step (run_placeParts v' [bar] _ _) <|
          .of_obeys (tidies_modifyPlayer id _) (fun _ _ hu => ?_) fun _ hu => ?_)
      all_goals
        exact (hv.placed ((fresh_newBar _ _ _) v v' bar hbar).1 (List.Subset.refl _) _ _).tidies hu
  exact .of_obeys hrest (fun _ _ hv => hadded.tidies hv) fun _ hv => hadded.tidies hv

lemma run_setUp_of_care (hp : w.careOf? p = some .none) : (setUp p).runOn w = (.ok (), w) := by
  obtain ⟨o, ho, hcare⟩ := Option.map_eq_some_iff.1 hp
  rw [setUp, bind_ok (run_part ho)]
  cases hpart : o.part <;> rw [hpart] at hcare <;> first | rfl | cases hcare

lemma tidies_setUp_player (hp : w.careOf? p = some .player) : Tidies w ((setUp p).runOn w).2 := by
  obtain ⟨o, ho, hcare⟩ := Option.map_eq_some_iff.1 hp
  rw [setUp, bind_ok (run_part ho)]
  cases hpart : o.part with
  | player pl => exact tidies_setUpPlayer p pl w
  | _ => rw [hpart] at hcare; cases hcare

end Game

end TileQuest
