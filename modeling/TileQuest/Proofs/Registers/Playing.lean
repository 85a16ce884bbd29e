import TileQuest.Proofs.Bodies.Playing
import TileQuest.Proofs.Play.Strides
import TileQuest.Proofs.Registers.Loading

/-!
# Playing keeps the registers

Talks, attacks, deaths, pick-ups and teleporters take entities out of the area or lead to another
one, players take weapons in hand, and enemies look for somebody to go after. The registers hold
what is in the area all along (`World.Kept`).
-/

namespace TileQuest

variable {o : Owned} {α : Type} {b health : Json}

namespace World

variable {rule : Rule} {i : PartId} {g : Gist} {w w' : World}

/-! ## Steps that go by what a part is -/

def SteadyAt (i : PartId) (g : Gist) (w w' : World) : Prop := w.gist? i = some g → Steady w w'

instance : IsPreorder World (SteadyAt i g) where
  refl w _ := .refl w
  trans _ _ _ h h' hg := (h hg).trans (h' ((h hg).gist?_some hg))

instance : Game.Allows Steady (SteadyAt i g) := ⟨fun _ _ h _ => h⟩

lemma SteadyAt.altered {f : Part → Part} (hgist : ∀ p : Part, p.gist = g → (f p).gist = g)
    (hfit : ∀ p : Part, p.gist = g → p.Fit → (f p).Fit) : SteadyAt i g w (w.altered i f) := by
  intro hg
  obtain ⟨o, ho, hp⟩ := gist?_eq_some.1 hg
  refine .modifyOwned (fun o' ho' => ?_) fun o' ho' hable => ⟨hable.lost, ?_⟩
  · cases ho.symm.trans ho'
    exact Prod.ext ((hgist o.part hp).trans hp.symm) rfl
  · cases ho.symm.trans ho'
    exact hfit o.part hp hable.fit

lemma AtRest.move (h : w.AtRest rule) (hloose : ¬ rule.tiled) (e : EntityId)
    {f : Entity → Entity} (hf : ∀ en, (f en).parts = en.parts) : (w.withEntity e f).AtRest rule :=
  h.of_stays (h.toSound.move hf fun htiled => absurd htiled hloose) ((Stays.refl w).move e hf)

lemma AtRest.aim (h : w.AtRest rule) (hfree : ∀ e, ¬ rule.hunts i e) {en : Enemy} (ho : w.parts[i.index]? = some o)
    (hen : o.part = .enemy en) {f : Part → Part} {en' : Enemy} (hf : f o.part = .enemy en')
    (hfit : (Part.enemy en').Fit) (hcomb : en'.combat? = en.combat?)
    (haimed : ∀ e, en'.targeted? = some e → e.index < w.entities.size ∧ ¬ w.HasLeaver e) :
    (w.altered i f).AtRest rule := by
  have hg : w.gist? i = some (.enemy en.combat? en.targeted? en.health?) :=
    gist?_eq_some.2 ⟨o, ho, by rw [hen]; rfl⟩
  have hg' : (f o.part).gist = .enemy en'.combat? en'.targeted? en'.health? := by
    rw [hf]
    rfl
  have hch := changes_altered h.toTied ho (f := f) (hf ▸ hfit)
  rw [hg'] at hch
  have hunset (g : Gist) (hi : w.gist? i = some g) : g.isSettled = false := by
    cases hg.symm.trans hi
    rfl
  have htakes : w.Takes i (.enemy en'.combat? en'.targeted? en'.health?) :=
    { unsettled := hunset
      distinct := List.nodup_nil
      kept := nofun
      window := nofun
      fighter := nofun
      player := nofun
      leaver := nofun
      aimed := fun _ e _ heq => haimed e (Gist.enemy.inj heq).2.1 }
  have hv (items : List PartId) (hi : w.gist? i = some (.view items)) :
      (∀ q ∈ items, q ∈ w.overlay) → ∃ items',
        Gist.enemy en'.combat? en'.targeted? en'.health? = .view items' ∧
          ∀ q ∈ items', q ∈ w.overlay := by
    cases hg.symm.trans hi
  have hstays : Stays w (w.altered i f) := .altered hunset
  refine h.of_stays ?_ hstays
  by_cases hlive : i ∈ w.live
  · -- the enemy leaves the list for the moment in which it changes
    obtain ⟨pre, post, hspl⟩ := List.append_of_mem hlive
    obtain ⟨g, hi, hrdy⟩ := h.ready i hlive
    cases hg.symm.trans hi
    have hsound := h.toSound
    rw [hspl] at hsound ⊢
    have hout : w.Sound rule (pre ++ post) := hsound.leave hg (fun _ => nofun) rfl fun r => rfl
    have hin := hout.change hsound.notMem_of_middle htakes hch hv
      (fun e he => absurd he (hfree e)) rfl fun r => by cases r <;> rfl
    refine hin.enterPlain hsound.notMem_of_middle hch.new ⟨hrdy.1, ?_⟩ rfl nofun
    have hspare : Spares rule (pre ++ post) w (w.altered i f) :=
      hch.spares hsound.notMem_of_middle htakes hv (fun e he => absurd he (hfree e)) rfl
    rw [hcomb]
    exact hspare.armed hrdy.2
  · exact h.toSound.change hlive htakes hch hv (fun e he => absurd he (hfree e)) rfl
      fun r => by cases r <;> rfl

end World

namespace Game

open World

variable (id : PartId) {rule : Rule} {i : PartId} {w : World}

/-! ## Talks and the use of things -/

lemma Obeys.of_guards {g : Game α} (hg : ∀ ids, Obeys (Guards rule ids) g) :
    Obeys (Kept rule) g :=
  fun w => .of_guards fun ids => hg ids w

instance {ids : List PartId} : Refreshes (Guards rule ids) := ⟨guards_refreshView⟩

lemma kept_removeCurrent (e : EntityId) :
    Obeys (Kept rule) (currentArea >>= fun a => removeEntity a e) := by
  intro w h
  refine Ends.snd (.look obeys_currentArea h fun a hrun => ?_)
  exact (ends_removeEntity h (run_currentArea_eq_ok.1 hrun).1 e).mono (fun _ _ hu => hu.1)
    fun _ hu => hu

instance : Eventful (Kept rule) where
  refresh v := .of_guards fun _ => guards_refreshView v
  write := kept_write
  openTyped script npcName left top := .of_guards fun _ =>
    (guards_buildTyped script npcName left top).bind fun id => (obeys_activate id).bind fun _ => .pure _
  openStepped script npcName left top := .of_guards fun _ =>
    (guards_buildStepped script npcName left top).bind fun id => (obeys_activate id).bind fun _ =>
      .pure _
  close id := .of_guards fun _ => guards_closeDialogue id
  remove := kept_removeCurrent

/-! ## Walking, teleporters and pick-ups -/

lemma kept_modifyEntity (e : EntityId) {f : Entity → Entity}
    (hf : ∀ en, (f en).parts = en.parts) : Obeys (Kept .any) (modifyEntity e f) :=
  fun _ h => h.move nofun e hf

lemma kept_moveToTile (hloose : ¬ rule.tiled) (e : EntityId) (column row : Json) :
    Obeys (Kept rule) (moveToTile e column row) := by
  have hmove {f : Entity → Entity} (hf : ∀ en, (f en).parts = en.parts) :
      Obeys (Kept rule) (modifyEntity e f) := fun _ h => h.move hloose e hf
  exact .lifts fun _ => .bind (hmove fun _ => rfl) fun _ => .lifts fun _ => hmove fun _ => rfl

lemma kept_arrive (hloose : ¬ rule.tiled) (a : AreaId) (column row : Json) : Obeys (Kept rule) (do
      if column ≠ .null && row ≠ .null then
        let player? ← firstWith? Part.isPlayer (← area a).entities
        let _ ← column.times 32
        moveToTile (← orAbsent player?) column row) :=
  .ite (.bind (obeys_area a) fun _ => .bind (obeys_firstWith? _ _) fun _ => .lifts fun _ =>
    .bind (.orAbsent _) fun e => kept_moveToTile hloose e column row) (.pure _)

lemma kept_teleport (file column row : Json) : Obeys (Kept .any) (teleport file column row) := by
  intro w h
  refine Ends.snd (.look obeys_currentArea h fun a hrun => ?_)
  have hsett : w.Settled .any a := ⟨h, (run_currentArea_eq_ok.1 hrun).1⟩
  refine (ends_loadNamed (loads_of_open _) hsett file).bind fun _ u hu => ?_
  have hloose : ¬ Rule.any.tiled := id
  exact .kept (kept_arrive hloose a column row) hu.rest

lemma kept_pickUp {hitbox : Rect} {form : TriggerForm}
    (ho : w.parts[i.index]? = some o) (hform : o.part = .trigger hitbox form) (item : ItemType)
    (quantity : Json) (other : EntityId) :
    Kept rule w ((pickUp i hitbox item quantity other).runOn w).2 := by
  intro h
  have hg : w.gist? i = some (.trigger hitbox) := gist?_eq_some.2 ⟨o, ho, by rw [hform]; rfl⟩
  have hsmall : hitbox.IsSmall := by
    have hfit := (h.able i.index o ho).fit
    rwa [hform] at hfit
  refine Ends.snd (.look (obeys_hasPart other _) h fun isPlayer _ => ?_)
  cases isPlayer with
  | false => exact .pure h
  | true =>
    refine .watch (R := Guards rule w.live) (obeys_give _ item quantity) (fun u hu => ?_)
      fun left u _ hu => ?_
    · exact h.of_stays (hu h.toSound).1 (hu h.toSound).2
    have hrest : u.AtRest rule := h.of_stays (hu h.toSound).1 (hu h.toSound).2
    have hstill : u.gist? i = some (.trigger hitbox) := (hu h.toSound).2.settled i _ rfl hg
    -- from here on all goes by that gist
    refine .watch (R := SteadyAt i (.trigger hitbox)) (obeys_playSound _)
      (fun v hv => hrest.of_steady (hv hstill)) fun _ v _ hv => ?_
    have hrest := hrest.of_steady (hv hstill)
    have hstill := (hv hstill).gist?_some hstill
    refine .lift (fun _ _ => hrest) fun _ _ => .lift (fun _ _ => hrest) fun left _ => ?_
    have hset : SteadyAt i (.trigger hitbox) v
        (v.altered i fun _ => .trigger hitbox (.dropped item left)) :=
      .altered (fun _ _ => rfl) fun _ _ _ => hsmall
    refine .step (u := v.altered i fun _ => .trigger hitbox (.dropped item left)) rfl ?_
    exact .kept (.lifts fun _ => .ite (.bind (obeys_owner i) fun e => kept_removeCurrent e)
      (.pure _)) (hrest.of_steady (hset hstill))

instance : Playful (Kept .any) where
  switch := kept_switchTo
  teleport := kept_teleport
  pickUp _ _ _ _ _ item quantity other ho hform := kept_pickUp ho hform item quantity other

/-! ## Weapons in hand -/

lemma steadyAt_modifyCombat (i : PartId) {f : Combat → Combat}
    (hf : ∀ c, ((f c).health, (f c).maxHealth, (f c).regeneration, (f c).onDeath) =
      (c.health, c.maxHealth, c.regeneration, c.onDeath)) :
    Obeys (SteadyAt i (.fighter .restart none none)) (modifyCombat i f) := by
  have honDeath {c : Combat} (hc : (Part.combat c).gist = .fighter .restart none none) :
      c.onDeath = .restart := by
    rw [Part.gist_combat] at hc
    exact (Gist.fighter.inj hc).1
  intro w
  rw [run_modifyCombat]
  refine .altered (fun p hp => ?_) fun p hp hfit => ?_
  · cases p with
    | combat c =>
      have hdeath : (f c).onDeath = .restart :=
        (congrArg (fun x => x.2.2.2) (hf c)).trans (honDeath hp)
      change (Part.combat (f c)).gist = _
      rw [Part.gist, hdeath, if_neg (by simp)]
    | _ => exact hp
  · cases p with
    | combat c =>
      have hsame := hf c
      simp only [Prod.mk.injEq] at hsame
      obtain ⟨hhp, hmax, hregeneration, hdeath⟩ := hsame
      exact ⟨by rw [hhp, hmax, hregeneration]; exact hfit.1,
        .inl (hdeath.trans (honDeath hp))⟩
    | _ => exact hfit

lemma steadyAt_equip (i : PartId) (item? : Option ItemType) :
    Obeys (SteadyAt i (.fighter .restart none none)) (equip i item?) :=
  .equip i (steadyAt_modifyCombat i fun _ => rfl) (fun _ => obeys_loadSound _ _)
    (fun _ => steadyAt_modifyCombat i fun _ => rfl) fun _ =>
      obeys_placeNew (obeys_newSprite _ false) (fresh_newSprite _ false) fun _ _ =>
        steadyAt_modifyCombat i fun _ => rfl

lemma steadyAt_followInventory (i : PartId) :
    Obeys (SteadyAt i (.fighter .restart none none)) (followInventory i) := by
  refine .bind (obeys_bag _) fun b => .bind (obeys_combat i) fun c => ?_
  split
  · exact .bind (obeys_print _) fun _ => .lifts fun _ => .lifts fun _ => steadyAt_equip i _
  · exact .bind (obeys_requires i _) fun _ => .bind (obeys_print _) fun _ =>
      steadyAt_modifyCombat i fun _ => rfl
  · exact .pure _

lemma kept_armPlayer {k : PartId → Game α}
    (hk : ∀ c, Obeys (Kept rule) (k c)) : Obeys (Kept rule) (do
      let combat ← orAbsent (← player id).combat?
      followInventory combat
      k combat) := by
  intro w h
  refine Ends.snd (.look (obeys_player id) h fun p hrun => ?_)
  obtain ⟨⟨o, ho, hp⟩, -⟩ := run_player_eq_ok.1 hrun
  refine .look (.orAbsent _) h fun c hrun => ?_
  have hc : p.combat? = some c := (run_orAbsent_eq_ok.1 hrun).1
  have hg : w.gist? c = some (.fighter .restart none none) :=
    h.fighter id _ _ c _ (gist?_eq_some.2 ⟨o, ho, by rw [hp, Part.gist, hc]⟩)
  exact .watch (steadyAt_followInventory c) (fun u hu => h.of_steady (hu hg))
    fun _ u _ hu => .kept (hk c) (h.of_steady (hu hg))

/-! ## Fighters -/

lemma num_of_minus {a c : Json} (h : a.minus b = .ok c) : ∃ n, c = .num n := by
  obtain ⟨_, -, h⟩ := bind_eq_ok.1 h
  obtain ⟨_, -, h⟩ := bind_eq_ok.1 h
  obtain ⟨n, -, h⟩ := bind_eq_ok.1 h
  cases h
  exact ⟨n, rfl⟩

lemma num_of_coolDown {a : Json} (ha : ∃ n, a = .num n) (h : coolDown a = .ok b) :
    ∃ n, b = .num n := by
  obtain ⟨cools, -, h⟩ := bind_eq_ok.1 h
  cases cools with
  | true => exact num_of_minus h
  | false => cases h; exact ha

lemma num_of_healed {c : Combat} (hhp : ∃ n, c.health = .num n)
    (h : healed c = .ok health) : ∃ n, health = .num n := by
  obtain ⟨heals, -, h⟩ := bind_eq_ok.1 h
  cases heals with
  | false => cases h; exact hhp
  | true =>
    obtain ⟨n, hn⟩ := hhp
    change c.health.extended c.regeneration = _ at h
    rw [hn, Json.extended, Json.plus] at h
    · obtain ⟨_, -, h⟩ := bind_eq_ok.1 h
      obtain ⟨_, -, h⟩ := bind_eq_ok.1 h
      obtain ⟨m, -, h⟩ := bind_eq_ok.1 h
      cases h
      exact ⟨m, rfl⟩
    all_goals nofun

lemma num_of_capped {maxHealth capped' : Json} (hmax : ∃ n, maxHealth = .num n)
    (hhp : ∃ n, health = .num n) (h : capped maxHealth health = .ok capped') :
    ∃ n, capped' = .num n := by
  obtain ⟨isMore, -, h⟩ := bind_eq_ok.1 h
  cases h
  cases isMore with
  | true => exact hmax
  | false => exact hhp

lemma kept_updateCombat {c : Combat} (ho : w.parts[i.index]? = some o)
    (hc : o.part = .combat c) : Kept .any w ((updateCombat i c).runOn w).2 := by
  intro h
  have hfit := (h.able i.index o ho).fit
  rw [hc] at hfit
  obtain ⟨⟨hhp, hmax, -⟩, hdeath⟩ := hfit
  have hset {health : Json} (hnum : ∃ n, health = .num n) :
      Obeys (Kept .any) (modifyCombat i ({ · with health })) := by
    obtain ⟨n, rfl⟩ := hnum
    exact (steady_setHealth i n).allow
  refine Ends.snd (.lift (fun _ _ => h) fun cooldown hcooldown => ?_)
  have hcool : Steady w ((modifyCombat i ({ · with cooldown })).runOn w).2 := by
    refine .modifyOwned (fun o' ho' => ?_) fun o' ho' hable => ⟨hable.lost, ?_⟩
    · cases ho.symm.trans ho'
      rw [Owned.essence, Owned.essence, hc]
      rfl
    · have hfit := hable.fit
      cases ho.symm.trans ho'
      rw [hc] at hfit ⊢
      exact ⟨hfit.1, hfit.2.imp id fun hleave =>
        ⟨hleave.1, num_of_coolDown hleave.2.1 hcooldown, hleave.2.2⟩⟩
  refine .step rfl (.lift (fun _ _ => h.of_steady hcool) fun health hhealed => ?_)
  have hnum := num_of_healed hhp hhealed
  refine .kept (.bind (hset hnum) fun _ w => ?_) (h.of_steady hcool)
  refine fun h => Ends.snd (.lift (fun _ _ => h) fun most hcapped => ?_)
  refine .kept (.bind (hset (num_of_capped hmax hnum hcapped)) fun _ => ?_) h
  split
  · exact .pure _
  · exact .bind (obeys_owner _) fun held => .bind (obeys_owner i) fun e => .bind (obeys_entity e)
      fun _ => .bind (kept_modifyEntity held fun _ => rfl) fun _ => .lifts fun _ =>
      kept_modifyEntity held fun _ => rfl

lemma lookForPlayer_found {bodies : List PartId} {found found' : Option (EntityId × Scalar × Scalar)}
    (hrun : (lookForPlayer bodies found).runOn w = (.ok found', w))
    (hfnd : ∀ f, found = some f → ∃ p ∈ w.partsOf f.1, w.partIs Part.isPlayer p = true) :
    ∀ f, found' = some f → ∃ p ∈ w.partsOf f.1, w.partIs Part.isPlayer p = true := by
  induction bodies generalizing found with
  | nil =>
    cases hrun
    exact hfnd
  | cons body rest ih =>
    obtain ⟨e, -, hrun⟩ := (obeys_owner body).seen hrun
    obtain ⟨isPlayer, hpl, hrun⟩ := (obeys_hasPart e _).seen hrun
    cases isPlayer with
    | false => exact ih hrun hfnd
    | true =>
      obtain ⟨xy, -, hrun⟩ := (obeys_entityPoint e).seen hrun
      refine ih hrun ?_
      rintro _ ⟨⟩
      obtain ⟨p?, hfind, hsome⟩ := (obeys_find? e _).seen hpl
      obtain ⟨p, rfl⟩ : ∃ p, p? = some p := by
        rw [run_pure, Prod.mk.injEq, Except.ok.injEq] at hsome
        exact Option.isSome_iff_exists.1 hsome.1
      rw [find?, run_get_bind] at hfind
      obtain ⟨en, hen, hfind⟩ := (obeys_entity e).seen hfind
      rw [run_pure, Prod.mk.injEq, Except.ok.injEq] at hfind
      refine ⟨p, ?_, List.find?_some hfind.1⟩
      rw [partsOf, (run_entity_eq_ok.1 hen).1]
      exact List.mem_of_find?_eq_some hfind.1

lemma kept_lookAround : Obeys (Kept .any) (lookAround id) := by
  intro w h
  refine Ends.snd (.look (obeys_owner id) h fun e _ => .look (obeys_entity e) h fun en _ =>
    .look (obeys_bodiesInCircle _ _ _) h fun bodies _ => .look (obeys_lookForPlayer _ none) h
    fun found hrun => .of_ok rfl ?_)
  have hfnd := lookForPlayer_found hrun nofun
  have hpl (e : EntityId) (he : found.map (·.1) = some e) :
      e.index < w.entities.size ∧ ¬ w.HasLeaver e := by
    obtain ⟨f, hf, rfl⟩ := Option.map_eq_some_iff.1 he
    obtain ⟨p, hp, hpl⟩ := hfnd f hf
    obtain ⟨o, ho⟩ : ∃ o, w.parts[p.index]? = some o :=
      ⟨_, Array.getElem?_eq_getElem (h.toTied.lt_of_mem_partsOf hp)⟩
    rw [partIs_of ho] at hpl
    refine ⟨lt_of_mem_partsOf hp, h.player f.1 p hp _ (gist?_eq_some.2 ⟨o, ho, rfl⟩) ?_⟩
    cases hpart : o.part with
    | player => rfl
    | _ => rw [hpart] at hpl; cases hpl
  let aim (e : Enemy) : Enemy :=
    { e with targeted? := found.map (·.1), target? := found.map fun f => (f.2.1, f.2.2) }
  change (w.altered id (.mapEnemy aim)).AtRest .any
  by_cases henemy : ∃ o en, w.parts[id.index]? = some o ∧ o.part = .enemy en
  · obtain ⟨o, en, ho, hen⟩ := henemy
    have haim : Part.mapEnemy aim o.part = .enemy (aim en) := by rw [hen]; rfl
    refine h.aim (fun _ => False.elim) ho hen haim ?_ rfl hpl
    have hfit := (h.able id.index o ho).fit
    rw [hen] at hfit
    exact ⟨hfit.1, hfit.2.1, by cases found <;> rfl⟩
  · have hsame {o : Owned} (ho : w.parts[id.index]? = some o) : o.part.mapEnemy aim = o.part := by
      cases hp : o.part with
      | enemy en => exact absurd ⟨o, en, ho, hp⟩ henemy
      | _ => rfl
    refine h.of_steady (.modifyOwned (fun o ho => ?_) fun o ho hable => ⟨hable.lost, ?_⟩)
    · exact Prod.ext (congrArg Part.gist (hsame ho)) rfl
    · rw [hsame ho]
      exact hable.fit

/-! ## Enemies and players that act -/

/-- The relation allows what players and enemies do by themselves: they move their entities, look
around and take weapons in hand. -/
class Roving (R : World → World → Prop) : Prop extends Playful R where
  move : ∀ e (f : Entity → Entity), (∀ en, (f en).parts = en.parts) → Obeys R (modifyEntity e f)
  look : ∀ id, Obeys R (lookAround id)
  arm : ∀ id me, Obeys R (act id me)

section Roving

variable {R : World → World → Prop} [IsPreorder World R]

lemma obeys_walkToward [Roving R] (tx ty : Scalar) : Obeys R (walkToward id tx ty) :=
  .bind (obeys_owner id) fun me => .bind (obeys_find? me _) fun _ => .bind (obeys_entity me) fun _ =>
    .lifts fun _ => .bind (Roving.move me _ fun _ => rfl) fun _ =>
    .bind (.orAbsent _) fun body => .bind (obeys_positionIsValid body) fun _ =>
    .when (Roving.move me _ fun _ => rfl) fun _ => .lifts fun _ =>
    .bind (Roving.move me _ fun _ => rfl) fun _ => .bind (obeys_positionIsValid body) fun _ =>
    .ite (Roving.move me _ fun _ => rfl) (.pure _)

variable [Allows (Orderly Steady) R]

lemma obeys_turn (me : EntityId) (d? : Option Direction) : Obeys R (turn id me d?) := by
  cases d? with
  | some d => exact obeys_startWalking id me d
  | none => exact .bind (obeys_player id) fun _ => .ite (obeys_stopWalking id me) (.pure _)

variable [Roving R]

lemma obeys_updateEnemy : Obeys R (updateEnemy id) := by
  refine .bind .get fun _ => .bind (obeys_enemy id) fun _ => .when (Roving.look id) fun _ =>
    .bind (obeys_enemy id) fun e => ?_
  cases e.targeted? with
  | some other =>
    refine .bind (obeys_attackTargeted id other) fun _ => .bind (obeys_enemy id) fun e => ?_
    split
    · exact obeys_walkToward id _ _
    · exact .pure _
  | none =>
    refine .bind (obeys_enemy id) fun e => ?_
    split
    · exact obeys_walkToward id _ _
    · exact .pure _

lemma obeys_climb : Obeys R (climb id) :=
  .bind (obeys_updateMessage id) fun _ => .bind (obeys_owner id) fun me =>
    .bind (obeys_showPlace id me) fun _ => .bind (obeys_entity me) fun _ =>
    .bind (obeys_find? me _) fun _ => .bind (obeys_find? me _) fun _ =>
    .bind (obeys_showHealth id) fun _ => .bind .get fun _ => .lifts fun _ =>
    .bind (Roving.move me _ fun _ => rfl) fun _ => .bind (.orAbsent _) fun body =>
    .bind (obeys_positionIsValid body) fun _ => .when (Roving.move me _ fun _ => rfl) fun _ =>
    .pure _

lemma obeys_cross (s : Stance) : Obeys R (cross s) :=
  .bind (obeys_entity s.me) fun _ => .lifts fun _ =>
    .bind (Roving.move s.me _ fun _ => rfl) fun _ => .bind (obeys_positionIsValid s.body) fun _ =>
    .when (Roving.move s.me _ fun _ => rfl) fun _ => .bind (.orAbsent _) fun look =>
    .bind (obeys_sprite look) fun _ => obeys_follow s.me _

lemma obeys_stride : Obeys R (stride id) :=
  .bind (obeys_climb id) fun s => .when (Playful.switch _) fun _ =>
    .bind (Roving.arm id s.me) fun _ =>
    .bind (obeys_cross s) fun _ => .bind (obeys_turn id s.me _) fun _ => .pure _

lemma obeys_updatePlayer : Obeys R (updatePlayer id) := by
  rw [updatePlayer_eq]
  exact .bind (obeys_stride id) fun (body, me) => obeys_touchAll body me

end Roving

instance : Roving (Kept .any) where
  move e _ hf := kept_modifyEntity e hf
  look := kept_lookAround
  arm id me := kept_armPlayer id fun combat => obeys_handleClick me combat

end Game

end TileQuest
