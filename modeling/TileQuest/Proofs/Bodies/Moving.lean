import TileQuest.Proofs.Bodies.Playing
import TileQuest.Proofs.Bodies.Standing

/-!
# Walking keeps bodies where they may stand

Players and enemies walk in the same way: across and down, one after the other, they move, look
whether their body may stand there, and go back in that direction if it may not. Whatever else they
do in a frame moves nothing that stays registered, unless it leads to another area (`World.Calm`).
-/

namespace TileQuest

variable {me : EntityId} {m id : PartId} {w w' w'' u : World} {P : Json × Json → Prop} {β : Type}

namespace World

open Game

variable {b : PartId} {v : World} {f g : Entity → Entity} {valid : Bool}

/-! ## One entity moves -/

/-- Nobody moves but one entity. -/
structure Shift (me : EntityId) (w w' : World) : Prop extends Firm w w' where
  place : ∀ i < w.entities.size, i ≠ me.index →
    w'.entities[i]?.map placeOf = w.entities[i]?.map placeOf

lemma Still.shift (h : Still w w') : Shift me w w' :=
  { h with place := fun i hi _ => h.place i hi }

lemma Shift.trans (h : Shift me w w') (h' : Shift me w' w'') : Shift me w w'' :=
  { h.toFirm.trans h'.toFirm with
    place := fun i hi hne =>
      (h'.place i (hi.trans_le h.entities_le) hne).trans (h.place i hi hne) }

lemma Shift.still (h : Shift me w w') (hsame : w'.placeOf? me = w.placeOf? me) : Still w w' :=
  { h with
    place := fun i hi => by
      by_cases hne : i = me.index
      · exact hne ▸ hsame
      · exact h.place i hi hne }

lemma Shift.withEntity (hf : ∀ en, (f en).parts = en.parts) : Shift me w (w.withEntity me f) :=
  { Tame.modifyEntity fun en => .inl (hf en) with
    hitbox := fun _ _ => rfl
    place := fun i _ hne => by rw [World.withEntity, Array.getElem?_modify, if_neg (Ne.symm hne)]
    area := rfl
    ground := fun _ => rfl
    grounds := rfl }

def tried (w : World) (e : EntityId) (there back : Entity → Entity) (valid : Bool) : World :=
  if valid then w.withEntity e there else (w.withEntity e there).withEntity e back

lemma placeOf?_withEntity (w : World) (e : EntityId) (f : Entity → Entity) :
    (w.withEntity e f).placeOf? e = w.entities[e.index]?.map fun en => placeOf (f en) := by
  rw [placeOf?, withEntity, Array.getElem?_modify, if_pos rfl, Option.map_map]
  rfl

lemma MayStand.of_shift (hown : w.OwnBodies) (hfst : w.firstBody? me = some m)
    (hshift : Shift me w w') (hm : w'.MayStand m) (hb : b ∈ w'.bodies) (h : w.MayStand b) :
    w'.MayStand b := by
  by_cases hbm : b = m
  · exact hbm ▸ hm
  have hkeep {c : PartId} {cx : Box} (hc : c ∈ w'.bodies) (hne : c ≠ m) (hcx : w.HasBox c cx) :
      w'.HasBox c cx := by
    refine hcx.of_firm hshift.toFirm fun e he hlt => hshift.place e.index hlt fun hidx => ?_
    have heq : e = me := by
      cases e
      cases me
      exact congrArg EntityId.mk hidx
    exact hne (hown.first c (hshift.bodies.subset hc) e m he (heq ▸ hfst)).symm
  obtain ⟨bx, map, hbx, hmap, hsol, hapart⟩ := mayStand_iff.1 h
  obtain ⟨mx, _, hmx, -, hmsolid, hmapart⟩ := mayStand_iff.1 hm
  have hbx' := hkeep hb hbm hbx
  refine mayStand_iff.2
    ⟨bx, map, hbx', hmap.of_firm hshift.toFirm, hsol, fun other hoth hne => ?_⟩
  by_cases hom : other = m
  · subst hom
    obtain ⟨_, hbx'', hmeets⟩ := hmapart b hb hbm
    cases hbx'.unique hbx''
    refine ⟨mx, hmx, ?_⟩
    rw [Box.meets_comm (TileMap.hasEdges_of_touches hmsolid) (TileMap.hasEdges_of_touches hsol)]
    exact hmeets
  · obtain ⟨ox, hox, hmeets⟩ := hapart other (hshift.bodies.subset hoth) hne
    exact ⟨ox, hkeep hoth hom hox, hmeets⟩

/-! ## A walk -/

/-- An entity with a first body has moved alone. It stands at a place of which something is known,
and either it is back where it started or its body may stand there. -/
structure Walked (me : EntityId) (m : PartId) (P : Json × Json → Prop) (w u : World) : Prop where
  shift : Shift me w u
  first : w.firstBody? me = some m
  stands : ∃ p, u.placeOf? me = some p ∧ P p
  spot : u.placeOf? me = w.placeOf? me ∨ u.MayStand m

variable {Q : Json × Json → Prop}

lemma Walked.of_still (h : Walked me m P w u) (hstill : Still u v) : Walked me m P w v := by
  obtain ⟨p, hp, hP⟩ := h.stands
  have hsame : v.placeOf? me = u.placeOf? me := hstill.place me.index (lt_of_placeOf? hp)
  refine ⟨h.shift.trans hstill.shift, h.first, ⟨p, hsame.trans hp, hP⟩, ?_⟩
  rcases h.spot with hs | hs
  · exact .inl (hsame.trans hs)
  · exact .inr (hs.of_still hstill)

lemma Walked.step (h : Walked me m P w u)
    (hval : (positionIsValid m).runOn (u.withEntity me f) = (.ok valid, u.withEntity me f))
    (hf : ∀ en, (f en).parts = en.parts) (hg : ∀ en, (g en).parts = en.parts)
    (hback : ∀ en, P (placeOf en) → placeOf (g (f en)) = placeOf en)
    (hth : ∀ en, P (placeOf en) → Q (placeOf (f en))) (hhere : ∀ p, P p → Q p) :
    Walked me m Q w (u.tried me f g valid) := by
  obtain ⟨p, hp, hP⟩ := h.stands
  obtain ⟨en, hen, rfl⟩ := Option.map_eq_some_iff.1 hp
  have hmoved : Shift me u (u.withEntity me f) := .withEntity hf
  cases valid with
  | true =>
    refine ⟨h.shift.trans hmoved, h.first, ⟨placeOf (f en), ?_, hth en hP⟩, .inr hval⟩
    rw [tried, if_pos rfl, placeOf?_withEntity, hen, Option.map_some]
  | false =>
    -- the way there and back leaves everybody where they were
    have hsame : ((u.withEntity me f).withEntity me g).placeOf? me = u.placeOf? me := by
      rw [placeOf?_withEntity, World.withEntity, Array.getElem?_modify, if_pos rfl, hen, hp]
      exact congrArg some (hback en hP)
    have hw := h.of_still ((hmoved.trans (.withEntity hg)).still hsame)
    obtain ⟨q, hq, hQ⟩ := hw.stands
    exact ⟨hw.shift, hw.first, ⟨q, hq, hhere q hQ⟩, hw.spot⟩

lemma Walked.mayStand (h : Walked me m P w u) (hown : w.OwnBodies) (hb : b ∈ u.bodies)
    (hw : w.MayStand b) : u.MayStand b := by
  rcases h.spot with hsame | hm
  · exact hw.of_still (h.shift.still hsame)
  · exact .of_shift hown h.first h.shift hm hb hw

/-- An entity has walked, unless there is a new area or new ground, or no body is registered any
more. -/
structure Underway (me : EntityId) (m : PartId) (P : Json × Json → Prop) (w u : World) : Prop where
  loads_le : w.loads ≤ u.loads
  walked : w.loads < u.loads ∨ u.bodies = [] ∨ Walked me m P w u

lemma Underway.start {p : Json × Json} (hcalm : Calm w u) (hfst : u.firstBody? me = some m)
    (hp : u.placeOf? me = some p) : Underway me m (· = p) w u := by
  refine ⟨hcalm.loads_le, hcalm.calm.imp_right fun h => h.imp_right fun hstill => ?_⟩
  have hold := hstill.firstBody me m hfst
  have hlt : me.index < w.entities.size := by
    obtain ⟨en, hen, -⟩ := firstBody?_eq_some.1 hold
    exact lt_of_getElem? hen
  exact ⟨hstill.shift, hold, ⟨p, hp, rfl⟩, .inl (hstill.place me.index hlt)⟩

lemma Underway.of_calm (h : Underway me m P w u) (hcalm : Calm u v) : Underway me m P w v := by
  refine ⟨h.loads_le.trans hcalm.loads_le, ?_⟩
  rcases hcalm.calm with hgrew | hemp | hstill
  · exact .inl (h.loads_le.trans_lt hgrew)
  · exact .inr (.inl hemp)
  · rcases h.walked with hgrew | hemp | hwalk
    · exact .inl (hgrew.trans_le hcalm.loads_le)
    · exact .inr (.inl (List.sublist_nil.1 (hemp ▸ hstill.bodies)))
    · exact .inr (.inr (hwalk.of_still hstill))

lemma Underway.step (h : Underway me m P w u)
    (hval : (positionIsValid m).runOn (u.withEntity me f) = (.ok valid, u.withEntity me f))
    (hf : ∀ en, (f en).parts = en.parts) (hg : ∀ en, (g en).parts = en.parts)
    (hback : ∀ en, P (placeOf en) → placeOf (g (f en)) = placeOf en)
    (hth : ∀ en, P (placeOf en) → Q (placeOf (f en))) (hhere : ∀ p, P p → Q p) :
    Underway me m Q w (u.tried me f g valid) := by
  have hloads : (u.tried me f g valid).loads = u.loads := by cases valid <;> rfl
  have hbods : (u.tried me f g valid).bodies = u.bodies := by cases valid <;> rfl
  refine ⟨hloads ▸ h.loads_le, ?_⟩
  rw [hloads, hbods]
  exact h.walked.imp_right fun h => h.imp_right fun hwalk =>
    hwalk.step hval hf hg hback hth hhere

end World

namespace Game

open World

lemma run_modifyEntity_bind (me : EntityId) (h : Entity → Entity) (k : Unit → Game β) :
    (modifyEntity me h >>= k).runOn w = (k ()).runOn (w.withEntity me h) := rfl

lemma run_unless_modifyEntity {valid : Bool}
    {there back : Entity → Entity} {k : Unit → Game β} :
    (if (!valid) = true then modifyEntity me back >>= k else k ()).runOn (u.withEntity me there) =
      (k ()).runOn (u.tried me there back valid) := by
  cases valid <;> rfl

lemma firstBody?_of_run_find? {b? : Option PartId}
    (h : (find? me Part.isBody).runOn w = (.ok b?, w)) : w.firstBody? me = b? := by
  rw [find?, run_get_bind] at h
  obtain ⟨en, hent, hpure⟩ := (obeys_entity me).seen h
  rw [firstBody?, (run_entity_eq_ok.1 hent).1]
  cases hpure
  rfl

lemma underway_walkToward {tx ty : Scalar} (hcalm : Calm w u)
    (hrun : (walkToward id tx ty).runOn u = (.ok (), w')) :
    ∃ me m, Underway me m (fun _ => True) w w' := by
  obtain ⟨me, -, hrun⟩ := (obeys_owner id).seen hrun
  obtain ⟨body?, hfind, hrun⟩ := (obeys_find? me _).seen hrun
  obtain ⟨before, hbef, hrun⟩ := (obeys_entity me).seen hrun
  obtain ⟨x, -, hrun⟩ := (Obeys.lift _).seen hrun
  rw [run_modifyEntity_bind] at hrun
  obtain ⟨body, hb, hrun⟩ := (Obeys.orAbsent _).seen hrun
  obtain ⟨valid, hval, hrun⟩ := (obeys_positionIsValid _).seen hrun
  rw [run_unless_modifyEntity] at hrun
  obtain ⟨y, -, hrun⟩ := (Obeys.lift _).seen hrun
  rw [run_modifyEntity_bind] at hrun
  obtain ⟨valid', hval', hrun⟩ := (obeys_positionIsValid _).seen hrun
  have hfst := (firstBody?_of_run_find? hfind).trans (run_orAbsent_eq_ok.1 hb).1
  have hplace := congrArg (Option.map placeOf) (run_entity_eq_ok.1 hbef).1
  have hacr := (Underway.start hcalm hfst hplace).step (g := ({ · with x := before.x }))
    (Q := fun p => p.2 = before.y) hval (fun _ => rfl) (fun _ => rfl)
    (fun en hen => Prod.ext (congrArg Prod.fst hen).symm rfl) (fun en hen => congrArg Prod.snd hen)
    (fun p hp => congrArg Prod.snd hp)
  have hdown := hacr.step (g := ({ · with y := before.y })) (Q := fun _ => True) hval'
    (fun _ => rfl) (fun _ => rfl) (fun en hen => Prod.ext rfl hen.symm) (fun _ _ => trivial)
    (fun _ _ => trivial)
  refine ⟨me, body, ?_⟩
  cases valid' <;> cases hrun <;> exact hdown

lemma underway_updatePlayer (hrun : (updatePlayer id).runOn w = (.ok (), w')) :
    ∃ me m, Underway me m (fun _ => True) w w' := by
  obtain ⟨_, u1, hmsg, hrun⟩ := (obeys_updateMessage (R := Calm) id).rest hrun
  obtain ⟨me, -, hrun⟩ := (obeys_owner id).seen hrun
  obtain ⟨_, u2, hshow, hrun⟩ := (obeys_showPlace (R := Calm) id me).rest hrun
  obtain ⟨before, hbef, hrun⟩ := (obeys_entity me).seen hrun
  obtain ⟨look?, -, hrun⟩ := (obeys_find? me _).seen hrun
  obtain ⟨body?, hfind, hrun⟩ := (obeys_find? me _).seen hrun
  obtain ⟨_, u3, hhp, hrun⟩ := (obeys_showHealth (R := Calm) id).rest hrun
  rw [run_get_bind] at hrun
  obtain ⟨y, -, hrun⟩ := (Obeys.lift _).seen hrun
  rw [run_modifyEntity_bind] at hrun
  obtain ⟨body, hb, hrun⟩ := (Obeys.orAbsent _).seen hrun
  obtain ⟨valid, hval, hrun⟩ := (obeys_positionIsValid _).seen hrun
  rw [run_unless_modifyEntity] at hrun
  obtain ⟨u4, hesc, hrun⟩ := (calm_switchTo _).rest_when hrun
  obtain ⟨_, -, hrun⟩ := (obeys_player id).seen hrun
  obtain ⟨combat, -, hrun⟩ := (Obeys.orAbsent _).seen hrun
  obtain ⟨_, u5, hfol, hrun⟩ := (obeys_followInventory (R := Calm) combat).rest hrun
  obtain ⟨_, u6, hclick, hrun⟩ := (obeys_handleClick (R := Calm) me combat).rest hrun
  obtain ⟨_, -, hrun⟩ := (obeys_entity me).seen hrun
  obtain ⟨x, -, hrun⟩ := (Obeys.lift _).seen hrun
  rw [run_modifyEntity_bind] at hrun
  obtain ⟨valid', hval', hrun⟩ := (obeys_positionIsValid _).seen hrun
  rw [run_unless_modifyEntity] at hrun
  have hend := Obeys.of_run (R := Calm) (by
    refine (Obeys.orAbsent _).bind fun look => (obeys_sprite look).bind fun _ =>
      (obeys_follow me _).bind fun _ => ?_
    split
    · exact (obeys_startWalking id me _).bind fun _ => obeys_touchAll body me
    · exact (obeys_player id).bind fun _ => .when (obeys_stopWalking id me) fun _ =>
        obeys_touchAll body me) hrun
  have hfst := (firstBody?_of_run_find? hfind).trans (run_orAbsent_eq_ok.1 hb).1
  have hplace := congrArg (Option.map placeOf) (run_entity_eq_ok.1 hbef).1
  have hstart := Underway.start (IsTrans.trans w u1 u2 hmsg hshow) hfst hplace
  have hdown := (hstart.of_calm hhp).step (g := ({ · with y := before.y }))
    (Q := fun p => p.1 = before.x) hval (fun _ => rfl) (fun _ => rfl)
    (fun en hen => Prod.ext rfl (congrArg Prod.snd hen).symm) (fun en hen => congrArg Prod.fst hen)
    (fun p hp => congrArg Prod.fst hp)
  have hacr := (((hdown.of_calm hesc).of_calm hfol).of_calm hclick).step
    (g := ({ · with x := before.x })) (Q := fun _ => True) hval' (fun _ => rfl) (fun _ => rfl)
    (fun en hen => Prod.ext hen.symm rfl) (fun _ _ => trivial) (fun _ _ => trivial)
  exact ⟨me, body, hacr.of_calm hend⟩

end Game

/-! ## Acting -/

namespace World

open Game

/-- No body is registered, and where every body was the body of its owner, it still is, and the
bodies that could stand where they were still can. -/
structure Lawful (w w' : World) : Prop where
  bodies : ∀ b ∈ w'.bodies, b ∈ w.bodies
  own : w.OwnBodies → w'.OwnBodies
  mayStand : w.OwnBodies → ∀ b ∈ w'.bodies, w.MayStand b → w'.MayStand b

lemma Lawful.trans (h : Lawful w w') (h' : Lawful w' w'') : Lawful w w'' where
  bodies b hb := h.bodies b (h'.bodies b hb)
  own hown := h'.own (h.own hown)
  mayStand hown b hb hw :=
    h'.mayStand (h.own hown) b hb (h.mayStand hown b (h'.bodies b hb) hw)

lemma Lawful.of_bodies_nil (h : w'.bodies = []) : Lawful w w' where
  bodies b hb := by simp [h] at hb
  own _ := (Raised.of_bodies_nil h).toOwnBodies
  mayStand _ b hb := by simp [h] at hb

lemma Lawful.of_still (h : Still w w') : Lawful w w' where
  bodies _ hb := h.bodies.subset hb
  own hown := hown.of_tame h.toTame
  mayStand _ _ _ hw := hw.of_still h

lemma Walked.lawful (h : Walked me m P w w') : Lawful w w' where
  bodies _ hb := h.shift.bodies.subset hb
  own hown := hown.of_tame h.shift.toTame
  mayStand hown _ hb hw := h.mayStand hown hb hw

lemma Calm.lawful (h : Calm w w') (hloads : w'.loads = w.loads) : Lawful w w' := by
  rcases h.calm with hgrew | hemp | hstill
  · exact absurd hloads hgrew.ne'
  · exact .of_bodies_nil hemp
  · exact .of_still hstill

lemma Underway.lawful (h : Underway me m P w w') (hloads : w'.loads = w.loads) : Lawful w w' := by
  rcases h.walked with hgrew | hemp | hwalk
  · exact absurd hloads hgrew.ne'
  · exact .of_bodies_nil hemp
  · exact hwalk.lawful

lemma lawful_of_pursuit {u : World} (hcalm : Calm w u) (hrun : (do match (← enemy id).target? with
      | some (tx, ty) => walkToward id tx ty
      | none => return : Game Unit).runOn u = (.ok (), w')) (hloads : w'.loads = w.loads) :
    Lawful w w' := by
  obtain ⟨e, -, hrun⟩ := (obeys_enemy id).seen hrun
  split at hrun
  · obtain ⟨me, m, h⟩ := underway_walkToward hcalm hrun
    exact h.lawful hloads
  · cases hrun
    exact hcalm.lawful hloads

lemma lawful_of_updateEnemy (hrun : (updateEnemy id).runOn w = (.ok (), w'))
    (hloads : w'.loads = w.loads) : Lawful w w' := by
  rw [updateEnemy, run_get_bind] at hrun
  obtain ⟨_, -, hrun⟩ := (obeys_enemy id).seen hrun
  obtain ⟨u, hlook, hrun⟩ := (obeys_lookAround (R := Calm) id).rest_when hrun
  obtain ⟨e, -, hrun⟩ := (obeys_enemy id).seen hrun
  cases htarg : e.targeted? with
  | some other =>
    rw [htarg] at hrun
    obtain ⟨_, u', hatt, hrun⟩ := (obeys_attackTargeted (R := Calm) id other).rest hrun
    exact lawful_of_pursuit (IsTrans.trans w u u' hlook hatt) hrun hloads
  | none =>
    rw [htarg] at hrun
    exact lawful_of_pursuit hlook hrun hloads

/-- A player or an enemy acts for one frame, to the end and without an area being loaded. -/
inductive Acts (w w' : World) : Prop where
  | player (id : PartId) (hrun : (updatePlayer id).runOn w = (.ok (), w'))
    (hloads : w'.loads = w.loads)
  | enemy (id : PartId) (hrun : (updateEnemy id).runOn w = (.ok (), w'))
    (hloads : w'.loads = w.loads)

lemma Acts.lawful (h : Acts w w') : Lawful w w' := by
  cases h with
  | player id hrun hloads =>
    obtain ⟨me, m, h⟩ := underway_updatePlayer hrun
    exact h.lawful hloads
  | enemy id hrun hloads => exact lawful_of_updateEnemy hrun hloads

/-- The game is in an area: one was loaded, from wherever the game was, and then players and enemies
acted and other things happened that register no body. -/
inductive InPlay : World → Prop where
  | loaded {v w : World} {a : AreaId} {file : Json}
    (hrun : (loadNamed a file).runOn v = (.ok (), w)) : InPlay w
  | acts {w w' : World} (h : InPlay w) (hacts : Acts w w') : InPlay w'
  | other {w w' : World} (h : InPlay w) (htame : Tame w w') : InPlay w'

lemma InPlay.ownBodies (h : InPlay w) : w.OwnBodies := by
  induction h with
  | loaded hrun => exact ownBodies_of_loadNamed hrun
  | acts _ hacts ih => exact hacts.lawful.own ih
  | other _ htame ih => exact ih.of_tame htame

lemma Still.withInput (w : World) (input : Input) (step : Int) :
    Still w { w with input, step } := .of_same rfl

/-- Players and enemies act in any order and any number of times, and the keyboard, the mouse and
the number of the frame may change in between. -/
inductive Plays (w : World) : World → Prop where
  | start : Plays w w
  | acts {u w' : World} (h : Plays w u) (hacts : Acts u w') : Plays w w'
  | input {u : World} (h : Plays w u) (input : Input) (step : Int) : Plays w { u with input, step }

lemma Plays.lawful (h : Plays w w') : Lawful w w' := by
  induction h with
  | start => exact .of_still (.refl w)
  | acts _ hacts ih => exact ih.trans hacts.lawful
  | input _ input step ih => exact ih.trans (.of_still (.withInput _ input step))

/-- **Walking is lawful.**  In an area, whenever a player or an enemy acts and no area is loaded,
the registered bodies that could stand where they were can stand where they are. So however players
and enemies go on to act, bodies that touch no solid tile and do not meet each other never will. -/
theorem InPlay.bodies_stay_standing (hw : w.InPlay) :
    (∀ w', Acts w w' → ∀ b ∈ w'.bodies, w.MayStand b → w'.MayStand b) ∧ ∀ w', Plays w w' →
        (∀ b ∈ w'.bodies, w.MayStand b → w'.MayStand b) ∧ (w.Clear → w'.Clear) := by
  have hown := hw.ownBodies
  refine ⟨fun w' h => h.lawful.mayStand hown, fun w' h => ⟨h.lawful.mayStand hown, fun hclear => ?_⟩⟩
  refine clear_iff.2 fun b hb => h.lawful.mayStand hown b hb ?_
  exact clear_iff.1 hclear b (h.lawful.bodies b hb)

/-! A player and an enemy on an open field, five tiles wide and high. -/

def fieldBody : List UInt8 :=
  [1, 0, 0, 0, 5, 0, 0, 0, 5, 0, 0, 0] ++ List.replicate 50 0 ++ [48, 44, 49, 44, 49, 0] ++
    [57, 44, 51, 44, 49, 44, 110, 112, 99, 95, 102, 101, 109, 97, 108, 101, 50, 46, 112, 110, 103,
      0]

/-- A game with the map file on its disk. -/
def beforeField : World :=
  { disk := { nodes := [(["content"], .folder), (["content", "maps"], .folder),
      (["content", "maps", "field.map"], .file (.bytes (0 :: fieldBody)))] }
    areas := #[{}]
    area? := some ⟨0⟩ }

def loadedField : World := ((loadBinary ⟨0⟩ "field.map" fieldBody).runOn beforeField).2

def field : World := { loadedField with input := { down := [.char 'd'] } }

def walkedField : World := ((updatePlayer ⟨0⟩).runOn field).2

lemma readMap_field :
    (readMap "field.map").runOn beforeField = (.ok (0 :: fieldBody), beforeField) := by
  rfl

lemma field_facts : ((loadBinary ⟨0⟩ "field.map" fieldBody).runOn beforeField).1.isOk = true ∧
      ((updatePlayer ⟨0⟩).runOn field).1.isOk = true ∧ walkedField.loads = field.loads ∧
      walkedField.placeOf? ⟨23⟩ ≠ field.placeOf? ⟨23⟩ ∧ ⟨25⟩ ∈ walkedField.bodies ∧
      field.MayStand ⟨25⟩ ∧ field.Clear := by
  decide +kernel

lemma inPlay_field : field.InPlay := by
  have hreset : reset.runOn beforeField = (.ok (), beforeField) := rfl
  have hbinary : (loadBinary ⟨0⟩ "field.map" fieldBody).runOn beforeField = (.ok (), loadedField) :=
    run_of_isOk field_facts.1
  have hl : (loadNamed ⟨0⟩ (.str "field.map")).runOn beforeField = (.ok (), loadedField) := by
    change (loadFile ⟨0⟩ "field.map").runOn beforeField = _
    rw [loadFile, bind_ok hreset, bind_ok readMap_field]
    exact hbinary
  exact .other (.loaded hl) (Still.withInput loadedField _ _).toTame

/-- The player has walked on, and all bodies may be where they are. -/
theorem bodies_stay_standing_field :
    field.InPlay ∧ Acts field walkedField ∧ walkedField.placeOf? ⟨23⟩ ≠ field.placeOf? ⟨23⟩ ∧
      ⟨25⟩ ∈ walkedField.bodies ∧ field.MayStand ⟨25⟩ ∧ walkedField.MayStand ⟨25⟩ ∧
      field.Clear ∧ walkedField.Clear := by
  obtain ⟨-, hupdate, hloads, hmoved, hmem, hstand, hclear⟩ := field_facts
  have hacts : Acts field walkedField := .player ⟨0⟩ (run_of_isOk hupdate) hloads
  obtain ⟨hstep, hrun⟩ := inPlay_field.bodies_stay_standing
  exact ⟨inPlay_field, hacts, hmoved, hmem, hstand, hstep walkedField hacts ⟨25⟩ hmem hstand,
    hclear, (hrun walkedField (.acts .start hacts)).2 hclear⟩

end World

end TileQuest
