import TileQuest.Proofs.Registers.Assembly

/-!
# Making those who fight

Enemies and the player are complete only when they are set up: then they get the ability to fight,
and an enemy also its weapon. Their body is registered by then, so nothing of that may break off.
This is shown here of enemies; the player has more to put on the screen.
-/

namespace TileQuest

variable {rule : Rule} {w0 w : World} {made : List (PartId × Gist)} {regs : List PartId}
variable {me : EntityId} {α : Type}

def Gist.isFighter : Gist → Bool
  | .fighter .. => true
  | _ => false

namespace Part

lemma Fit.cooldown {c : Combat} (h : (combat c).Fit) (hd : c.onDeath = .leave) :
    ∃ n, c.cooldown = .num n := by
  rcases h.2 with hstart | ⟨-, hcool, -⟩
  · cases hd.symm.trans hstart
  · exact hcool

/-- A fighter changes, and nothing else. -/
def mapCombat (f : Combat → Combat) : Part → Part
  | combat c => combat (f c)
  | p => p

def mapEnemy (f : Enemy → Enemy) : Part → Part
  | enemy e => enemy (f e)
  | p => p

def mapPlayer (f : Player → Player) : Part → Part
  | player p => player (f p)
  | p => p

end Part

namespace World

variable {w' : World}
variable {p k c look e body : PartId} {weapon? : Option ItemType} {sound? : Option WeaponSound}
  {combat? : Option PartId} {targeted? : Option EntityId} {health? : Option Json}

/-! ## Parts by what they are -/

lemma partIs_isCombat {g : Gist} (hg : w.gist? p = some g) :
    w.partIs Part.isCombat p = g.isFighter := by
  obtain ⟨o, ho, rfl⟩ := gist?_eq_some.1 hg
  rw [partIs_of ho]
  cases hp : o.part with
  | combat c => rw [Part.gist_combat]; rfl
  | _ => rfl

lemma combat_of_gist {d : Death} (hg : w.gist? p = some (.fighter d weapon? sound?)) :
    ∃ o c, w.parts[p.index]? = some o ∧ o.part = .combat c ∧ c.onDeath = d := by
  obtain ⟨o, ho, hgist⟩ := gist?_eq_some.1 hg
  cases hp : o.part with
  | combat c =>
    rw [hp, Part.gist_combat] at hgist
    exact ⟨o, c, ho, hp, (Gist.fighter.inj hgist).1⟩
  | _ => rw [hp] at hgist; cases hgist

lemma enemy_of_gist (hg : w.gist? p = some (.enemy combat? targeted? health?)) :
    ∃ o e, w.parts[p.index]? = some o ∧ o.part = .enemy e ∧ e.combat? = combat? ∧
      e.targeted? = targeted? ∧ e.health? = health? := by
  obtain ⟨o, ho, hgist⟩ := gist?_eq_some.1 hg
  cases hp : o.part with
  | enemy e =>
    rw [hp] at hgist
    cases hgist
    exact ⟨o, e, ho, hp, rfl, rfl, rfl⟩
  | combat c => rw [hp, Part.gist_combat] at hgist; cases hgist
  | _ => rw [hp] at hgist; cases hgist

lemma Bench.act (h : Bench rule w0 made regs w) {p : Part} (hfit : p.Fit)
    (hkept : p.gist.kept = []) (hwin : p.gist.window? = none)
    (hfight : ∀ hud? bar? c health?, p.gist ≠ .player hud? bar? (some c) health?)
    (haimed : ∀ combat? e health?, p.gist ≠ .enemy combat? (some e) health?)
    (hlist : ∀ w id, id ∈ w.active → p.gist.Listed w id) :
    Bench rule w0 ((⟨w.parts.size⟩, p.gist) :: made) regs (w.acting p) := by
  have hgrown : Steady (w.withPart p) (w.acting p) := .acting w p
  obtain ⟨hsound, hstays, hlast, hnob⟩ := h.withPart hfit
    (h.sound.toTied.takes_new (by rw [hkept]; exact List.nodup_nil) (by rw [hkept]; nofun) hwin
      hfight haimed)
  exact h.add (hlast.trans hgrown.toLasting) (hstays.trans hgrown.stays)
    (hsound.of_steady hgrown) le_rfl hnob
    ⟨gist?_withPart_self w p, hlist _ _ (mem_active_acting w p)⟩

/-! ## Becoming another one of its sort -/

lemma takes_enemy (hk : w.gist? k = some (.enemy combat? targeted? health?))
    (combat?' : Option PartId) (health?' : Option Json) :
    w.Takes k (.enemy combat?' none health?') where
  unsettled g hg := by cases hk.symm.trans hg; rfl
  distinct := List.nodup_nil
  kept := nofun
  window := nofun
  fighter := nofun
  player := nofun
  leaver := nofun
  aimed := nofun

lemma takes_fighter
    (hk : w.gist? k = some (.fighter .leave weapon? none)) (weapon?' : Option ItemType)
    (sound? : Option WeaponSound) : w.Takes k (.fighter .leave weapon?' sound?) where
  unsettled g hg := by cases hk.symm.trans hg; cases weapon? <;> rfl
  distinct := List.nodup_nil
  kept := nofun
  window := nofun
  fighter := nofun
  player := nofun
  leaver _ := .inl ⟨_, hk, rfl⟩
  aimed := nofun

lemma Staged.arm {weapon?' : Option ItemType}
    (h : Staged rule w0 me (made ++ [(c, .fighter .leave weapon? none)]) regs w)
    (h0 : w0.AtRest rule) (hc : c ∉ regs) {f : Combat → Combat}
    (hf : ∀ cb : Combat, cb.onDeath = .leave → cb.equipped? = weapon? → cb.sound? = none →
      (Part.combat cb).Fit →
      (Part.combat (f cb)).Fit ∧ (Part.combat (f cb)).gist = .fighter .leave weapon?' sound?) :
    Staged rule w0 me (made ++ [(c, .fighter .leave weapon?' sound?)]) regs
      (w.altered c (.mapCombat f)) := by
  have hlists := (h.mine (c, .fighter .leave weapon? none) (by simp)).2.2
  refine .set made [] h h0 ⟨hc, nofun, nofun, fun o ho hfit => ?_,
    takes_fighter hlists.gist weapon?' sound?, hlists.listed⟩ nofun
  obtain ⟨o', cb, ho', hcb, hd⟩ := combat_of_gist hlists.gist
  cases ho.symm.trans ho'
  have hg := hlists.gist
  rw [gist?, ho, Option.map_some, hcb, Part.gist, if_pos hd, Option.some.injEq,
    Gist.fighter.injEq] at hg
  rw [hcb] at hfit ⊢
  exact hf cb hd hg.2.1 hg.2.2 hfit

/-- The entity of an enemy, with the enemy and its fighter as they are at the moment. -/
def enemyParts (look e body c : PartId) (enemy fighter : Gist) : List (PartId × Gist) :=
  [(look, .image false), (e, enemy), (body, .body Game.feet)] ++ [(c, fighter)]

lemma Staged.setEnemy {combat?' : Option PartId} {health?' : Option Json} {fighter : Gist}
    (h : Staged rule w0 me (enemyParts look e body c (.enemy combat? none health?) fighter) [body] w)
    (h0 : w0.AtRest rule)
    {f : Enemy → Enemy} (hf : ∀ en : Enemy, en.combat? = combat? → en.targeted? = none →
      en.health? = health? → (Part.enemy en).Fit →
        (Part.enemy (f en)).Fit ∧ (Part.enemy (f en)).gist = .enemy combat?' none health?') :
    Staged rule w0 me (enemyParts look e body c (.enemy combat?' none health?') fighter) [body]
      (w.altered e (.mapEnemy f)) := by
  have hlists := (h.mine (e, .enemy combat? none health?) (by simp [enemyParts])).2.2
  have hnd : [look, e, body, c].Nodup := h.nodup
  have hne : e ∉ [body] := by
    simp only [List.nodup_cons, List.mem_cons, not_or] at hnd
    simpa using hnd.2.1.1
  refine .set [(look, .image false)] [(body, .body Game.feet), (c, fighter)] h h0
    ⟨hne, nofun, nofun, fun o ho hfit => ?_, takes_enemy hlists.gist combat?' health?', hlists.listed⟩
    nofun
  obtain ⟨o', en, ho', hen, hcomb, htarg, hhp⟩ := enemy_of_gist hlists.gist
  cases ho.symm.trans ho'
  rw [hen] at hfit ⊢
  exact hf en hcomb htarg hhp hfit

lemma Staged.built_enemy {weapon : ItemType} {file : String}
    (h : Staged rule w0 me (enemyParts look e body c (.enemy (some c) none none)
      (.fighter .leave (some weapon) (some (.file file)))) [body] w) (h0 : w0.AtRest rule) :
    Built rule w0 me w := by
  have hps : w.partsOf me = [look, e, body, c] := h.parts
  have hmine := h.mine
  simp only [enemyParts, List.cons_append, List.nil_append, List.forall_mem_cons] at hmine
  obtain ⟨⟨-, -, hlook⟩, ⟨-, hown, henemy⟩, ⟨-, -, hb⟩, ⟨-, -, hfight⟩, -⟩ := hmine
  refine h.built h0 (by simp [enemyParts]) fun x hx => ?_
  simp only [enemyParts, List.cons_append, List.nil_append, List.mem_cons, List.not_mem_nil,
    or_false] at hx
  rcases hx with rfl | rfl | rfl | rfl
  · exact ⟨nofun, fun _ => ⟨⟨rfl, hlook.listed⟩, rfl⟩⟩
  · refine ⟨nofun, fun _ => ⟨⟨henemy.listed, body, Game.feet, c, weapon, file, rfl, me, hown, h.there,
      .inr fun x hx => ?_⟩, rfl⟩⟩
    rw [hps]
    simp only [List.mem_cons, List.not_mem_nil, or_false] at hx
    rcases hx with rfl | rfl
    · exact ⟨by simp, hb.gist, rfl⟩
    · exact ⟨by simp, hfight.gist, rfl⟩
  · exact ⟨nofun, fun hnot => absurd List.mem_cons_self hnot⟩
  · exact ⟨nofun, fun _ => ⟨hfight.listed, rfl⟩⟩

end World

namespace Game

open World

variable {weapon : ItemType} {f : PartId → Game EntityId}

lemma Ends.sure {β : Type} {g : Game α} {f : α → Game β} {Q : β → World → Prop}
    {E : World → Prop} (hg : Obeys Steady g) (hsure : Sure g)
    (hf : ∀ a u, Steady w u → Ends u (f a) Q E) : Ends w (g >>= f) Q E := by
  obtain ⟨a, u, hrun⟩ := hsure w
  exact .step hrun (hf a u (hg.of_run hrun))

lemma run_modifyCombat (w : World) (id : PartId) (f : Combat → Combat) :
    (modifyCombat id f).runOn w = (.ok (), w.altered id (.mapCombat f)) := rfl

lemma run_modifyEnemy (w : World) (id : PartId) (f : Enemy → Enemy) :
    (modifyEnemy id f).runOn w = (.ok (), w.altered id (.mapEnemy f)) := rfl

lemma run_modifyPlayer (w : World) (id : PartId) (f : Player → Player) :
    (modifyPlayer id f).runOn w = (.ok (), w.altered id (.mapPlayer f)) := rfl

lemma run_newCombat (w : World) (health : Json) (onDeath : Death) :
    (newCombat health onDeath).runOn w =
      (.ok ⟨w.parts.size⟩, w.acting (.combat { health, maxHealth := health, onDeath })) := rfl

lemma run_attach (w : World) (e : EntityId) (id : PartId) :
    (attach e id).runOn w = (.ok (), w.attached e id) := rfl

lemma run_find {e : EntityId} (he : e.index < w.entities.size) {test : Part → Bool}
    (id : PartId) (hid : (w.partsOf e).find? (w.partIs test) = some id) :
    (find e test).runOn w = (.ok id, w) := by
  have hen : w.entities[e.index]? = some w.entities[e.index] := Array.getElem?_eq_getElem he
  rw [partsOf, hen] at hid
  rw [find, bind_ok (run_find? hen test)]
  exact congrArg (fun a? => (orAbsent a?).runOn w) hid

/-! ## Enemies -/

lemma getElem?_of_entry {xs : List α} {i : Nat} {a : α}
    (h : entry xs (i : Int) = .ok a) : xs[i]? = some a := by
  rw [entry_natCast] at h
  cases hi : xs[i]? with
  | none => rw [hi] at h; cases h
  | some b => rw [hi] at h; cases h; rfl

lemma exists_of_enemyWeapon (hwp : ItemType.all[4]? = some weapon) :
    ∃ file image, weapon.stat? "sound" = some (.str file) ∧ file ∈ soundFiles ∧
      Image.load weapon.icon = .ok image := by
  obtain ⟨image, himg⟩ := exists_image_of_item (List.mem_of_getElem? hwp)
  cases hwp
  exact ⟨"sword1.mp3", image, rfl, by simp [soundFiles], himg⟩

lemma Builds.act {p : Part} (hfit : p.Fit) (hkept : p.gist.kept = [])
    (hwin : p.gist.window? = none)
    (hfight : ∀ hud? bar? c health?, p.gist ≠ .player hud? bar? (some c) health?)
    (haimed : ∀ combat? e health?, p.gist ≠ .enemy combat? (some e) health?)
    (hlist : ∀ w id, id ∈ w.active → p.gist.Listed w id)
    (hf : ∀ id, Builds rule w0 ((id, p.gist) :: made) regs (f id)) :
    Builds rule w0 made regs (newPart p >>= fun id => activate id >>= fun _ => f id) := by
  refine ⟨fun w hw => .step (a := ⟨w.parts.size⟩) (u := w.withPart p) rfl
    (.step (u := w.acting p) rfl ((hf _).ends _ ?_))⟩
  exact hw.act hfit hkept hwin hfight haimed hlist

lemma Builds.enemy
    (hf : ∀ id, Builds rule w0 ((id, .enemy none none (some 100)) :: made) [] (f id)) :
    Builds rule w0 made [] (newEnemy 100 4 >>= f) := by
  simp only [newEnemy, bind_assoc, pure_bind]
  refine .lift fun weapon hwp => ?_
  refine .act (p := .enemy { health? := some 100, weapon, phase := 0 }) ⟨?_, ?_, rfl⟩ rfl rfl nofun
    nofun (fun _ _ h => h) fun id => ?_
  · rintro _ ⟨⟩
    exact ⟨100, rfl⟩
  · exact getElem?_of_entry hwp
  refine .bind (obeys_randomBetween _ _) (.inl rfl) fun phase => ?_
  refine .bind (obeys_modifyPart_of_gist id fun p => ?_) (.inl rfl) fun _ => hf id
  cases p <;> exact ⟨rfl, fun h => h⟩

lemma ends_equip (h0 : w0.AtRest rule) {c : PartId} (hc : c ∉ regs)
    (hwp : ItemType.all[4]? = some weapon)
    (h : Staged rule w0 me (made ++ [(c, .fighter .leave none none)]) regs w) :
    Ends w (equip c (some weapon)) (fun _ w' => ∃ file, Staged rule w0 me
      (made ++ [(c, .fighter .leave (some weapon) (some (.file file)))]) regs w') fun _ => False := by
  obtain ⟨file, image, hstat, hf, himg⟩ := exists_of_enemyWeapon hwp
  have hmem : (c, Gist.fighter .leave none none) ∈ made ++ [(c, .fighter .leave none none)] :=
    List.mem_append_right _ (.head _)
  obtain ⟨o, cb, ho, hcb, hd⟩ := combat_of_gist (h.mine _ hmem).2.2.gist
  rw [equip]
  simp only [hstat]
  refine .step (run_requires ho (h.sound.able c.index o ho).lost .equip) ?_
  -- first the weapon, then its sound
  refine .step (run_modifyCombat w c _) ?_
  have h1 : Staged rule w0 me (made ++ [(c, .fighter .leave (some weapon) none)]) regs
      (w.altered c (.mapCombat ({ · with equipped? := some weapon }))) := by
    refine h.arm h0 hc fun cb hd hequip hsound hfit => ⟨⟨hfit.1, .inr ⟨hd, ?_, ?_⟩⟩, ?_⟩
    · exact hfit.cooldown hd
    · rintro _ ⟨⟩
      exact hwp
    · rw [Part.gist, if_pos hd, hsound]
  refine .step rfl (.sure (obeys_loadSound _ _) (sure_loadSound hf _) fun _ u hu => ?_)
  have h2 := h1.of_steady hu
  refine .step (run_modifyCombat u c _) ?_
  have h3 : Staged rule w0 me (made ++ [(c, .fighter .leave (some weapon) (some (.file file)))]) regs
      (u.altered c (.mapCombat ({ · with sound? := some (.file file) }))) := by
    refine h2.arm h0 hc fun cb hd hequip _ hfit => ⟨hfit, ?_⟩
    rw [Part.gist, if_pos hd, hequip]
  -- the picture of the weapon disturbs nothing
  have hst : Obeys Steady (hold c weapon) :=
    steady_placeNew (crafts_newSprite _ _).steady (crafts_newSprite _ _).fresh fun _ _ =>
      obeys_modifyPart_of_gist c fun p => by cases p <;> exact ⟨rfl, fun h => h⟩
  have hsure : Sure (hold c weapon) :=
    (sure_newSprite himg false).bind fun sprite w =>
      ⟨_, _, bind_ok (run_placeParts w [sprite] 0 0)⟩
  obtain ⟨a, w', hrun⟩ := hsure (u.altered c (.mapCombat ({ · with sound? := some (.file file) })))
  exact .of_ok hrun ⟨file, h3.of_steady (hst.of_run hrun)⟩

lemma ends_setUp_enemy (h0 : w0.AtRest rule) {look e body : PartId} (h : Staged rule w0 me
      [(look, .image false), (e, .enemy none none (some 100)), (body, .body feet)] [body] w) :
    Ends w (setUp e) (fun _ w' => ∃ c weapon file, Staged rule w0 me (enemyParts look e body c
      (.enemy (some c) none none) (.fighter .leave (some weapon) (some (.file file)))) [body] w')
      fun _ => False := by
  obtain ⟨-, hown, hlists⟩ := h.mine (e, .enemy none none (some 100)) (by simp)
  obtain ⟨o, en, ho, hen, hcomb, htarg, hhp⟩ := enemy_of_gist hlists.gist
  have hwp : ItemType.all[4]? = some en.weapon := by
    have hfit := (h.sound.able e.index o ho).fit
    rw [hen] at hfit
    exact hfit.2.1
  have hown' : o.owner? = some me := by
    rw [ownerOf?, ho] at hown
    exact hown
  let c : PartId := ⟨w.parts.size⟩
  rw [setUp]
  refine .step (run_part ho) ?_
  simp only [hen, setUpEnemy]
  refine .step (run_owner ho hown') ?_
  rw [hhp]
  refine .step (run_orAbsent_some _ w) ?_
  refine .step (run_newCombat w _ _) (.step (run_attach _ me _) ?_)
  have h1 : Staged rule w0 me (enemyParts look e body c (.enemy none none (some 100))
      (.fighter .leave none none)) [body] _ :=
    h.join h0.toTied (p := .combat { health := 100, maxHealth := 100, onDeath := .leave })
      ⟨⟨⟨100, rfl⟩, ⟨100, rfl⟩, _, rfl⟩, .inr ⟨rfl, ⟨_, rfl⟩, by simp⟩⟩ rfl
      (fun _ => by simp [Gist.isPlayer]) ⟨(e, .enemy none none (some 100)), by simp, rfl⟩
  -- the ability to fight is the only one
  refine .step (run_find h1.there c ?_) ?_
  · have hcomb {x : PartId × Gist} (hx : x ∈ enemyParts look e body c
        (.enemy none none (some 100)) (.fighter .leave none none)) :=
      partIs_isCombat (h1.mine x hx).2.2.gist
    have hlook := hcomb (x := (look, .image false)) (by simp [enemyParts])
    have henemy := hcomb (x := (e, .enemy none none (some 100))) (by simp [enemyParts])
    have hb := hcomb (x := (body, .body feet)) (by simp [enemyParts])
    have hfight := hcomb (x := (c, .fighter .leave none none)) (by simp [enemyParts])
    rw [h1.parts]
    simp only [Gist.isFighter] at hlook henemy hb hfight
    simp [enemyParts, hlook, henemy, hb, hfight]
  refine .step (run_modifyEnemy _ e _) ?_
  have h2 : Staged rule w0 me (enemyParts look e body c (.enemy (some c) none (some 100))
      (.fighter .leave none none)) [body] _ :=
    h1.setEnemy h0 (f := ({ · with combat? := some c })) fun en _ htarg hhp hfit =>
      ⟨hfit, by rw [Part.gist, htarg, hhp]⟩
  have hnd : [look, e, body, c].Nodup := h2.nodup
  refine .bind (ends_equip h0 (by grind) hwp h2) ?_
  rintro _ u ⟨file, h3⟩
  refine .of_ok (run_modifyEnemy u e _) ⟨c, en.weapon, file, ?_⟩
  refine Staged.setEnemy h3 h0 fun en hcomb htarg _ hfit => ⟨⟨by simp, hfit.2⟩, ?_⟩
  rw [Part.gist, hcomb, htarg]

lemma builds_makeEnemy (h0 : w0.AtRest rule) (args : Json) :
    Builds rule w0 [] [] (makeEnemy args) := by
  rw [makeEnemy]
  refine .lift fun _ _ => .lift fun _ _ => ?_
  refine .part (crafts_newSprite _ _) (.inl rfl) fun look => .enemy fun e => .body (by decide) fun body => ?_
  refine ⟨fun w hw => ?_⟩
  have hstg : Staged rule w0 ⟨w.entities.size⟩ _ [body] _ :=
    hw.stage (by simp [Gist.isLeaver]) 0 0
  have hlook := (hstg.mine (look, .image false) (by simp)).2.2
  rw [spawn]
  simp only [List.forM, bind_assoc, pure_bind]
  refine .step (run_placeParts w _ 0 0) (.step (run_setUp hlook.gist (.inl ⟨_, rfl⟩)) ?_)
  have hset := ends_setUp_enemy h0 hstg
  refine .bind (hset.mono (fun _ _ h => h) fun _ h => False.elim h) ?_
  rintro _ u ⟨c, weapon, file, h⟩
  have hb := (h.mine (body, .body feet) (by simp [enemyParts])).2.2
  refine .step (run_setUp hb.gist (.inr ⟨.bodies, rfl⟩)) (.pure ?_)
  exact h.built_enemy h0

end Game

end TileQuest
