import TileQuest.Play.Enemies
import TileQuest.Play.Players
import TileQuest.Proofs.Bodies.Talking

/-!
# What players and enemies do besides walking

Attacks, deaths, triggers and pick-ups take bodies off the register or lead to another area, but
move nothing that stays registered (`World.Calm`).
-/

namespace TileQuest.Game

open World

variable {R : World → World → Prop} {weapon : ItemType} {stat cooldown : Json} {w : World}
variable {i : PartId} (id : PartId)

/-! ## Fighting -/

section Looking

variable [IsPreorder World R]

lemma Obeys.filterM {α : Type} {p : α → Game Bool} (hp : ∀ a, Obeys R (p a)) (as : List α) :
    Obeys R (as.filterM p) := by
  have haux : ∀ done : List α, Obeys R (List.filterAuxM p as done) := by
    induction as with
    | nil => exact fun _ => .pure _
    | cons a as ih => exact fun _ => (hp a).bind fun _ => ih _
  exact (haux []).bind fun _ => .pure _

lemma obeys_bodiesInCircle (x y radius : Json) : Obeys R (bodiesInCircle x y radius) :=
  .bind .get fun _ => .filterM (fun id => (obeys_box id).bind fun _ => .lift _) _

end Looking

/-- The relation allows what is done in play besides what is done in talks: the stage is switched,
another area is loaded, and an item on the ground is picked up. -/
class Playful (R : World → World → Prop) : Prop extends Eventful R where
  switch : ∀ stage, Obeys R (switchTo stage)
  teleport : ∀ file column row, Obeys R (teleport file column row)
  pickUp : ∀ (w : World) (i : PartId) (o : Owned) hitbox form item quantity other,
    w.parts[i.index]? = some o → o.part = .trigger hitbox form →
      R w ((pickUp i hitbox item quantity other).runOn w).2

lemma steady_setHealth (i : PartId) (n : Scalar) :
    Obeys (Orderly Steady) (modifyCombat i ({ · with health := .num n })) := by
  refine obeys_modifyPart_of_gist i fun p => ?_
  cases p with
  | combat c => exact ⟨rfl, fun h => ⟨⟨⟨n, rfl⟩, h.1.2⟩, h.2⟩⟩
  | _ => exact ⟨rfl, fun h => h⟩

lemma cooldown_of_weakSword
    (hwp : ItemType.all[4]? = some weapon) (hstat : weapon.stat "cooldown" = .ok stat)
    (hcool : stat.times 60 = .ok cooldown) : ∃ n, cooldown = .num n := by
  cases hwp
  cases hstat
  obtain ⟨_, -, h⟩ := bind_eq_ok.1 hcool
  obtain ⟨n, -, h⟩ := bind_eq_ok.1 h
  cases h
  exact ⟨n, rfl⟩

lemma Orderly.setCooldown
    (hwp : ∀ o c, w.parts[i.index]? = some o → o.part = .combat c → c.equipped? = some weapon)
    (hstat : weapon.stat "cooldown" = .ok stat) (hcool : stat.times 60 = .ok cooldown) :
    Orderly Steady w ((modifyCombat i ({ · with cooldown })).runOn w).2 := by
  refine .modifyOwned (fun o _ => by obtain ⟨p⟩ := o; cases p <;> rfl) fun o ho hable =>
    ⟨hable.lost, ?_⟩
  have hfit := hable.fit
  cases hp : o.part with
  | combat c =>
    rw [hp] at hfit
    refine ⟨hfit.1, hfit.2.imp id fun hleave => ⟨hleave.1, ?_, hleave.2.2⟩⟩
    exact cooldown_of_weakSword (hleave.2.2 weapon (hwp o c ho hp)) hstat hcool
  | _ =>
    rw [hp] at hfit
    exact hfit

section Fighting

variable [IsPreorder World R] [Allows (Orderly Steady) R] [Playful R]

lemma obeys_die (death : Death) (e : EntityId) : Obeys R (die death e) := by
  cases death with
  | restart => exact Playful.switch _
  | leave =>
    rw [die, ← bind_assoc]
    exact (Eventful.remove e).bind fun _ => obeys_print _
  | unfit => exact .throw _
  | note tag => exact obeys_same fun _ => by rfl

/-- The end of a blow: it is shown, and whoever has no health left dies. -/
def hit (other : PartId) (damage : Int) : Game Unit := do
  let (x, y) ← place other
  modify fun w => { w with effects := w.effects ++ [.hitText x y (toString damage)] }
  print ("Took " ++ toString damage ++ " damage")
  let c ← combat other
  if ← c.health.atMost 0 then die c.onDeath (← owner other)

lemma obeys_hit (other : PartId) (damage : Int) : Obeys R (hit other damage) :=
  (obeys_place other).bind fun _ => (obeys_same fun _ => by rfl).bind fun _ =>
    (obeys_print _).bind fun _ => (obeys_combat other).bind fun _ => .lifts fun _ =>
      .ite ((obeys_owner other).bind fun e => obeys_die _ e) (.pure _)

lemma obeys_afterStrike (id other : PartId) (damage : Int) (cooldown : Json) : Obeys R (do
    cooldown.str?.forM print
    match (← combat id).sound? with
    | some (.file file) => playSound file
    | some .unfit => throw .absent
    | none => pure ()
    hit other damage) := by
  have hword (word? : Option String) : Obeys R (word?.forM print) := by
    cases word? with
    | none => exact .pure _
    | some word => exact obeys_print word
  refine (hword _).bind fun _ => (obeys_combat id).bind fun _ => ?_
  split
  · exact (obeys_playSound _).bind fun _ => obeys_hit other damage
  · exact .throw _
  · exact obeys_hit other damage

lemma obeys_strike {id : PartId}
    (hwp : ∀ o c, w.parts[id.index]? = some o → o.part = .combat c →
      c.equipped? = some weapon) (other? : Option PartId) :
    R w ((strike id weapon other?).runOn w).2 := by
  -- every step up to the cooldown either breaks off or goes on
  refine snd_run_seen (.lift _) (Std.Refl.refl w) fun _ _ => ?_
  refine snd_run_seen (.lift _) (Std.Refl.refl w) fun damage _ => ?_
  refine snd_run_seen (.orAbsent other?) (Std.Refl.refl w) fun other _ => ?_
  refine snd_run_seen (obeys_combat other) (Std.Refl.refl w) fun c _ => ?_
  refine snd_run_seen (.lift _) (Std.Refl.refl w) fun health hhp => ?_
  obtain ⟨n, rfl⟩ : ∃ n, health = .num n := by
    obtain ⟨hmin, -⟩ := run_lift_eq_ok.1 hhp
    obtain ⟨_, -, h⟩ := bind_eq_ok.1 hmin
    obtain ⟨_, -, h⟩ := bind_eq_ok.1 h
    obtain ⟨n, -, h⟩ := bind_eq_ok.1 h
    cases h
    exact ⟨n, rfl⟩
  refine snd_run_bind (P := fun u => R w u ∧ ∀ o c, u.parts[id.index]? = some o →
      o.part = .combat c → c.equipped? = some weapon)
    ⟨(steady_setHealth other n).allow w, ?_⟩ (fun u hu => hu.1) fun _ u _ hu => ?_
  · intro o c ho hp
    obtain ⟨o0, ho0, rfl | rfl⟩ := exists_of_getElem?_modify ho
    · exact hwp o c ho0 hp
    · cases hp0 : o0.part with
      | combat c0 =>
        rw [hp0] at hp
        cases hp
        exact hwp o0 c0 ho0 hp0
      | _ =>
        rw [hp0] at hp
        cases hp
  refine snd_run_seen (.lift _) hu.1 fun stat hstat => ?_
  refine snd_run_seen (.lift _) hu.1 fun cooldown hcooldown => ?_
  have hcool := Orderly.setCooldown hu.2 (run_lift_eq_ok.1 hstat).1
    (run_lift_eq_ok.1 hcooldown).1
  refine snd_run_bind (P := R w) (IsTrans.trans w u _ hu.1 (Allows.allows (R := Orderly Steady) _ _ hcool))
    (fun _ hv => hv) fun _ v _ hv => ?_
  exact IsTrans.trans w v _ hv (obeys_afterStrike id other damage cooldown v)

lemma obeys_attack (other? : Option PartId) : Obeys R (attack id other?) := by
  refine (obeys_requires id _).bind fun _ w => ?_
  refine snd_run_seen (obeys_combat id) (Std.Refl.refl w) fun c hrun => ?_
  obtain ⟨⟨o, ho, hp⟩, -⟩ := run_combat_eq_ok.1 hrun
  cases hwp : c.equipped? with
  | none => exact Std.Refl.refl w
  | some weapon =>
    refine snd_run_seen (.lift _) (Std.Refl.refl w) fun cools _ => ?_
    split
    · refine obeys_strike (fun o' c' ho' hp' => ?_) other?
      cases ho.symm.trans ho'
      cases hp.symm.trans hp'
      exact hwp
    · exact Std.Refl.refl w

lemma obeys_attackBody (id body : PartId) : Obeys R (attackBody id body) :=
  (obeys_owner body).bind fun other => (obeys_find? other _).bind fun _ => by
    split
    · exact .pure _
    · exact (obeys_owner id).bind fun _ => .ite (obeys_attack id _) (.pure _)

lemma obeys_performAttack : Obeys R (performAttack id) :=
  (obeys_requires id _).bind fun _ => (obeys_combat id).bind fun _ => by
    split
    · exact .pure _
    · split
      · exact .pure _
      · exact (obeys_owner id).bind fun e => (obeys_entity e).bind fun _ =>
          (obeys_bodiesInCircle _ _ _).bind fun _ => .forM (obeys_attackBody id) _

end Fighting

/-! ## Triggers -/

lemma obeys_firstWith? [IsPreorder World R] (test : Part → Bool)
    (es : List EntityId) : Obeys R (firstWith? test es) := by
  induction es with
  | nil => exact .pure _
  | cons e rest ih => exact (obeys_hasPart e test).bind fun _ => .ite (.pure _) ih

lemma keeps_pickUp {w0 : World} {o : Owned} (ho : w0.parts[i.index]? = some o)
    {hitbox : Rect} {form : TriggerForm} (hform : o.part = .trigger hitbox form) (item : ItemType)
    (quantity : Json) (other : EntityId) :
    Keeps (Orderly Shed) w0 [] (pickUp i hitbox item quantity other) := by
  have hset (form' : TriggerForm) : Keeps (Orderly Shed) w0 [] (setPart i (.trigger hitbox form')) :=
    keeps_setPart ho (by rw [hform]; rfl) (by rw [hform]; rfl) (by rw [hform]; rfl)
  refine (obeys_hasPart other _).keeps.bind fun _ => ?_
  split
  · refine (obeys_give _ item quantity).keeps.bind fun _ => (obeys_playSound _).keeps.bind fun _ =>
      (Obeys.lift _).keeps.bind fun _ => (Obeys.lift _).keeps.bind fun _ => (hset _).bind fun _ => ?_
    exact Obeys.keeps <| .lifts fun _ => .ite
      ((obeys_owner i).bind fun e => obeys_currentArea.bind fun a => obeys_removeEntity a e) (.pure _)
  · exact (Obeys.pure _).keeps

lemma grows_arrive (a : AreaId) (column row : Json) : Obeys (Orderly Grows) (do
    if column ≠ .null && row ≠ .null then
      let player? ← firstWith? Part.isPlayer (← area a).entities
      let _ ← column.times 32
      moveToTile (← orAbsent player?) column row) :=
  .ite ((obeys_area a).bind fun _ => (obeys_firstWith? _ _).bind fun _ => .lifts fun _ =>
    (Obeys.orAbsent _).bind fun e => obeys_moveToTile e column row)
    (.pure _)

lemma calm_teleport (file column row : Json) : Obeys Calm (teleport file column row) := by
  refine obeys_currentArea.bind fun a w => ?_
  have hl := obeys_loadNamed (R := Calm) a file w
  refine snd_run_bind hl (fun _ hu => hu) fun _ u hrun _ => ?_
  -- the player is moved only where there is new ground
  have hgrew := (grew_loadNamed a file w u () hrun).trans_le
    (grows_arrive a column row u).holds.loads_le
  exact ⟨hgrew.le, .inl hgrew⟩

instance : Playful Calm where
  switch := calm_switchTo
  teleport := calm_teleport
  pickUp w _ _ _ _ item quantity other ho hp :=
    Allows.allows w _ (keeps_pickUp ho hp item quantity other).self

section Touching

variable [IsPreorder World R] [Playful R]

lemma obeys_touch (other : EntityId) : Obeys R (touch id other) := by
  refine .bind_part fun w o ho => ?_
  cases hp : o.part with
  | trigger hitbox form =>
    cases form with
    | plain => exact Std.Refl.refl w
    | teleporter file column row =>
      exact (Obeys.lifts fun _ => .lifts fun _ => Playful.teleport file _ _) w
    | dropped item quantity => exact Playful.pickUp w id o _ _ item quantity other ho hp
  | _ => exact Std.Refl.refl w

lemma obeys_touchFrom (body : PartId) (other : EntityId) (rounds position : Nat) :
    Obeys R (touchFrom body other rounds position) := by
  induction rounds generalizing position with
  | zero => exact .throw _
  | succ rounds ih =>
    refine .bind .get fun _ => ?_
    split
    · exact .pure _
    · exact (obeys_collides body _).bind fun _ => .when (obeys_touch _ other) fun _ => ih _

lemma obeys_touchAll (body : PartId) (other : EntityId) : Obeys R (touchAll body other) :=
  .bind .get fun _ => obeys_touchFrom body other _ 0

end Touching

/-! ## The frame of a player -/

section Player

variable [IsPreorder World R] [Allows (Orderly Steady) R]

lemma obeys_startWalking (me : EntityId) (d : Direction) : Obeys R (startWalking id me d) :=
  (obeys_player id).bind fun _ => .ite
    ((obeys_modifyPlayer_of_gist id fun _ => by rfl).bind fun _ => (obeys_find me _).bind fun look =>
      (obeys_setFrames look _).bind fun _ => obeys_modifyPlayer_of_gist id fun _ => by rfl) (.pure _)

lemma obeys_stopWalking (me : EntityId) : Obeys R (stopWalking id me) :=
  (obeys_find? me _).bind fun _ => (obeys_modifyPlayer_of_gist id fun _ => by rfl).bind fun _ =>
    (Obeys.orAbsent _).bind fun look => (obeys_sprite look).bind fun _ =>
    (Obeys.orAbsent _).bind fun _ => .lifts fun _ =>
    .ite ((obeys_player id).bind fun _ => obeys_setFrames look _) (.pure _)

lemma obeys_updateMessage : Obeys R (updateMessage id) := by
  refine .allow (R := Orderly Steady) fun w => ?_
  refine snd_run_seen (obeys_player id) (Std.Refl.refl w) fun p hrun => ?_
  obtain ⟨⟨o, ho, hp⟩, -⟩ := run_player_eq_ok.1 hrun
  cases hhud : p.hud? with
  | none => exact Std.Refl.refl w
  | some hud =>
    have hcnt (countdown : Int) : Orderly Steady w
        ((modifyPlayer id ({ · with hud? := some { hud with countdown } })).runOn w).2 := by
      refine .modifyOwned (fun o' ho' => ?_) fun o' ho' hable => ⟨hable.lost, ?_⟩
      · cases ho.symm.trans ho'
        rw [Owned.essence, Owned.essence, hp]
        simp only [Part.gist, hhud, Option.map_some]
      · have hfit := hable.fit
        cases ho.symm.trans ho'
        rw [hp] at hfit ⊢
        exact hfit
    rw [orAbsent, bind_ok (run_pure hud w)]
    split
    · refine snd_run_bind (hcnt _) (fun _ hu => hu) fun _ u _ hu => ?_
      exact IsTrans.trans w u _ hu (Obeys.ite (obeys_say hud.message "") (.pure ()) u)
    · exact Std.Refl.refl w

lemma obeys_showPlace (me : EntityId) : Obeys R (showPlace id me) :=
  (obeys_player id).bind fun _ => (Obeys.orAbsent _).bind fun _ => (obeys_entityPlace me).bind fun _ =>
    .lifts fun _ => .lifts fun _ => obeys_say _ _

lemma obeys_showHealth : Obeys R (showHealth id) :=
  (obeys_player id).bind fun _ => (Obeys.orAbsent _).bind fun _ => (obeys_combat _).bind fun _ =>
    (Obeys.orAbsent _).bind fun bar =>
      obeys_modifyPart_of_gist bar fun p => by cases p <;> exact ⟨rfl, fun h => h⟩

lemma obeys_follow (e : EntityId) (image : Image) : Obeys R (follow e image) :=
  (obeys_entityPoint e).bind fun _ => .bind .get fun _ => .lifts fun _ => .lifts fun _ =>
    (obeys_same fun _ => by rfl).bind fun _ => .lifts fun _ => .lifts fun _ =>
    obeys_same fun _ => by rfl

end Player

lemma obeys_followInventory [IsPreorder World R] [Allows (Orderly Still) R]
    (combat : PartId) : Obeys R (followInventory combat) :=
  (obeys_bag _).bind fun _ => (obeys_combat combat).bind fun _ => by
    split
    · exact (obeys_print _).bind fun _ => .lifts fun _ => .lifts fun _ => obeys_equip combat _
    · exact obeys_unequip combat
    · exact .pure _

lemma obeys_handleClick [IsPreorder World R] [Allows (Orderly Steady) R]
    [Playful R] (me : EntityId) (combat : PartId) : Obeys R (handleClick me combat) :=
  .bind .get fun _ => .ite
    ((obeys_combat combat).bind fun _ => by
      split
      · exact obeys_interact me _ _
      · exact obeys_performAttack combat)
    (.pure _)

/-! ## The frame of an enemy -/

lemma obeys_lookForPlayer [IsPreorder World R] (bodies : List PartId)
    (found : Option (EntityId × Scalar × Scalar)) : Obeys R (lookForPlayer bodies found) := by
  induction bodies generalizing found with
  | nil => exact .pure _
  | cons body rest ih =>
    exact (obeys_owner body).bind fun e => (obeys_hasPart e _).bind fun _ =>
      .ite ((obeys_entityPoint e).bind fun _ => ih _) (ih _)

lemma obeys_lookAround [IsPreorder World R] [Allows (Orderly Still) R]
    (id : PartId) : Obeys R (lookAround id) :=
  (obeys_owner id).bind fun e => (obeys_entity e).bind fun _ =>
    (obeys_bodiesInCircle _ _ _).bind fun _ => (obeys_lookForPlayer _ none).bind fun _ =>
    obeys_modifyEnemy id _

lemma obeys_attackTargeted [IsPreorder World R] [Allows (Orderly Steady) R]
    [Playful R] (other : EntityId) : Obeys R (attackTargeted id other) :=
  (obeys_enemy id).bind fun _ => (Obeys.orAbsent _).bind fun combat =>
    (obeys_combat combat).bind fun _ => (Obeys.orAbsent _).bind fun _ => .lifts fun _ =>
    .lifts fun _ => (obeys_place id).bind fun _ => (obeys_entityPlace other).bind fun _ =>
    .lifts fun _ => .ite ((obeys_find? other _).bind fun _ => obeys_attack combat _)
      (.pure _)

end TileQuest.Game
