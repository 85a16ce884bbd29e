import TileQuest.Proofs.Play.Enemies

/-!
# What an attack of an enemy comes to

An enemy that is near enough strikes whom it is after. If that uses up the health of the player,
the stage starts anew: everything in the area is taken down, the enemy itself included, in the
middle of its frame. The enemy then goes on to walk, and has no body any more to walk with.
-/

namespace TileQuest

variable {w u : World} {p c id : PartId} {e me other : EntityId} {prey? : Option EntityId}
variable {weapon : ItemType} {fighter victim : Combat} {hot dies : Bool} {distance : Scalar}
variable {o : Owned}

/-- How long the weapon of an enemy cools down, in frames. -/
def ItemType.coolingTime : Scalar := .ofRat 30

namespace World

def part? (w : World) (p : PartId) : Option Part := w.parts[p.index]?.map Owned.part

def fighterOf? (w : World) (e : EntityId) : Option PartId :=
  (w.partsOf e).find? (w.partIs Part.isCombat)

/-- The enemy is after somebody, with a weapon in hand that has cooled down. -/
def Threatens (w : World) (id : PartId) (other : EntityId) (weapon : ItemType) : Prop :=
  ∃ en c fighter, w.part? id = some (.enemy en) ∧ en.targeted? = some other ∧
    en.combat? = some c ∧ w.part? c = some (.combat fighter) ∧ fighter.equipped? = some weapon ∧
    Json.less 0 fighter.cooldown = .ok false

/-- The weapon reaches from where the enemy is to where somebody else is. -/
def Reaches (w : World) (id : PartId) (other : EntityId) (weapon : ItemType) : Prop :=
  ∃ me here there range distance, w.ownerOf? id = some me ∧ w.placeOf? me = some here ∧
    w.placeOf? other = some there ∧ (weapon.stat "range" >>= Json.toInt) = .ok range ∧
    Json.distance here.1 here.2 there.1 there.2 = .ok distance ∧
    distance.lt (.int range) = true

/-- Somebody can fight, and has health left when struck with the weapon. -/
def Survives (w : World) (other : EntityId) (weapon : ItemType) : Prop :=
  ∃ c fighter damage health, w.fighterOf? other = some c ∧ w.part? c = some (.combat fighter) ∧
    (weapon.stat "damage" >>= Json.toInt) = .ok damage ∧
    fighter.health.minus (.ofInt damage) = .ok health ∧ health.atMost 0 = .ok false

/-- An enemy strikes somebody who does not survive it. -/
def Fells (w : World) (id : PartId) : Prop :=
  ∃ other weapon, w.Threatens id other weapon ∧ w.Reaches id other weapon ∧
    ¬ w.Survives other weapon

lemma part?_eq_some {p : PartId} {a : Part} :
    w.part? p = some a ↔ ∃ o, w.parts[p.index]? = some o ∧ o.part = a :=
  Option.map_eq_some_iff

/-- What becomes of the one who strikes and the one who is struck; the other parts stay what they
are. -/
structure Struck (c p : PartId) (fighter victim : Combat) (health : Scalar) (w u : World) :
    Prop where
  step : u.step = w.step
  part : ∀ q : PartId, q ≠ c → q ≠ p → u.parts[q.index]? = w.parts[q.index]?
  fighter : u.part? c = some (.combat { fighter with cooldown := .num ItemType.coolingTime })
  victim : u.part? p = some (.combat { victim with health := .num health })

lemma Tied.exists_fighter (h : w.Tied) {sound? : Option WeaponSound}
    (hg : w.gist? c = some (.fighter .leave (some weapon) sound?)) :
    ∃ o fighter, w.parts[c.index]? = some o ∧ o.part = .combat fighter ∧ o.lost = [] ∧
      fighter.equipped? = some weapon ∧ fighter.sound? = sound? ∧
      (∃ n, fighter.cooldown = .num n) ∧ ItemType.all[4]? = some weapon := by
  obtain ⟨o, ho, hgist⟩ := gist?_eq_some.1 hg
  have hable := h.able c.index o ho
  cases hp : o.part with
  | combat fighter =>
    have hfit := hable.fit
    rw [hp] at hgist hfit
    rw [Part.gist_combat] at hgist
    obtain ⟨hdeath, hequip, hsound⟩ := Gist.fighter.inj hgist
    rw [if_pos hdeath] at hequip hsound
    rcases hfit.2 with hstart | ⟨-, hcool, hforged⟩
    · cases hstart.symm.trans hdeath
    · exact ⟨o, fighter, ho, hp, hable.lost, hequip, hsound, hcool, hforged weapon hequip⟩
  | _ => rw [hp] at hgist; cases hgist

lemma Tied.exists_victim (h : w.Tied) (hp : w.partIs Part.isCombat p = true)
    (hmem : p ∈ w.partsOf e) (hlv : ¬ w.HasLeaver e) :
    ∃ o fighter, w.parts[p.index]? = some o ∧ o.part = .combat fighter ∧
      fighter.onDeath = .restart ∧ ∃ n, fighter.health = .num n := by
  obtain ⟨o, ho⟩ : ∃ o, w.parts[p.index]? = some o :=
    ⟨_, Array.getElem?_eq_getElem (h.lt_of_mem_partsOf hmem)⟩
  rw [partIs_of ho] at hp
  cases hpart : o.part with
  | combat fighter =>
    have hfit := (h.able p.index o ho).fit
    rw [hpart] at hfit
    refine ⟨o, fighter, ho, hpart, ?_, hfit.1.1⟩
    rcases hfit.2 with hstart | ⟨hleave, -⟩
    · exact hstart
    · refine absurd ⟨p, hmem, _, gist?_eq_some.2 ⟨o, ho, rfl⟩, ?_⟩ hlv
      rw [hpart, Part.gist, if_pos hleave]
      rfl
  | _ => rw [hpart] at hp; cases hp

end World

lemma ItemType.stats_of_weakSword {weapon : ItemType} (hwp : ItemType.all[4]? = some weapon) :
    weapon.stat "damage" = .ok (.num 2) ∧ weapon.stat "range" = .ok (.num 50) ∧
      ∃ stat, weapon.stat "cooldown" = .ok stat ∧ stat.times 60 = .ok (.num coolingTime) := by
  cases hwp
  exact ⟨rfl, rfl, _, rfl, by decide +kernel⟩

namespace Json

lemma toInt_two : (num 2).toInt = .ok 2 := rfl

lemma toInt_fifty : (num 50).toInt = .ok 50 := rfl

lemma exists_minus_two (n : Scalar) :
    ∃ m dies, (num n).minus (.ofInt 2) = .ok (num m) ∧ (num m).atMost 0 = .ok dies := by
  cases n with
  | int n => exact ⟨_, _, rfl, rfl⟩
  | real x =>
    obtain ⟨y, hy, -⟩ := (Scalar.Holds.int 0 (n := 2) (i := 2) (by decide)).toBinary64 (by decide)
      (by decide)
    have hsub : (Scalar.real x).sub (.int 2) = .ok (.real (x.sub y)) := by
      rw [Scalar.sub, Scalar.mixed, hy]
      · rfl
      · simp
    refine ⟨.real (x.sub y), _, ?_, rfl⟩
    rw [minus, ofInt, toScalar, toScalar, ok_bind, ok_bind, hsub]
    rfl

end Json

namespace Game

open World

lemma exists_run_playSound (file : String) (w : World) :
    ∃ u, (playSound file).runOn w = (.ok (), u) ∧ (u.parts, u.step) = (w.parts, w.step) ∧
      Steady w u := by
  rw [playSound, run_get_bind]
  split
  · exact ⟨_, rfl, rfl, .of_same rfl⟩
  · exact ⟨w, rfl, rfl, .refl w⟩

lemma exists_run_hit {n : Nat}
    (ho : w.parts[p.index]? = some o) (hvic : o.part = .combat victim)
    (hdeath : victim.onDeath = .restart) (hown : w.ownerOf? p = some other)
    (hplcd : w.IsPlaced n other) (hdies : victim.health.atMost 0 = .ok dies) (damage : Int) :
    ∃ u, (Steady w u ∧ (u.parts, u.step) = (w.parts, w.step)) ∧ (hit p damage).runOn w =
      if dies = true then (switchTo "Play").runOn u else (.ok (), u) := by
  obtain ⟨en, hen, -⟩ := hplcd.entity
  have hplace : (place p).runOn w = (.ok (en.x, en.y), w) := by
    rw [place, bind_ok (run_owner_eq_ok.2 ⟨hown, rfl⟩), entityPlace, bind_ok (run_entity hen)]
    rfl
  let u : World :=
    { w with
      effects := w.effects ++ [.hitText en.x en.y (toString damage)]
      log := .line ("Took " ++ toString damage ++ " damage") :: w.log }
  refine ⟨u, ⟨.of_same rfl, rfl⟩, ?_⟩
  have hcomb : (combat p).runOn u = (.ok victim, u) :=
    run_combat_eq_ok.2 ⟨⟨o, ho, hvic⟩, rfl⟩
  rw [hit, bind_ok hplace]
  change (combat p >>= _).runOn u = _
  rw [bind_ok hcomb, run_lift_bind hdies]
  cases dies with
  | true =>
    have hown' : u.ownerOf? p = some other := hown
    rw [if_pos rfl, bind_ok (run_owner_eq_ok.2 ⟨hown', rfl⟩), hdeath]
    rfl
  | false => rfl

lemma exists_run_strike {o' : Owned} {fighter : Combat} {file : String} {n : Nat}
    {health : Scalar} (ho : w.parts[c.index]? = some o)
    (hfight : o.part = .combat fighter) (hequip : fighter.equipped? = some weapon)
    (hsound : fighter.sound? = some (.file file)) (hwp : ItemType.all[4]? = some weapon)
    (ho' : w.parts[p.index]? = some o') (hvic : o'.part = .combat victim)
    (hdeath : victim.onDeath = .restart) (hne : c ≠ p) (hown : w.ownerOf? p = some other)
    (hplcd : w.IsPlaced n other) (hhp : victim.health.minus (.ofInt 2) = .ok (.num health))
    (hdies : (Json.num health).atMost 0 = .ok dies) :
    ∃ u, (Steady w u ∧ Struck c p fighter victim health w u) ∧
      (strike c weapon (some p)).runOn w =
        if dies = true then (switchTo "Play").runOn u else (.ok (), u) := by
  obtain ⟨hdmg, -, stat, hstat, hcool⟩ := ItemType.stats_of_weakSword hwp
  -- the other one loses health
  obtain ⟨w1, hw1⟩ : ∃ w1, w1 = w.altered p (.mapCombat ({ · with health := .num health })) :=
    ⟨_, rfl⟩
  have hsteady1 : Steady w w1 := hw1 ▸ (steady_setHealth p health w).holds
  have hc1 : w1.parts[c.index]? = some o := by rw [hw1, getElem?_altered_of_ne hne, ho]
  have hp1 : w1.parts[p.index]? =
      some { o' with part := .combat { victim with health := .num health } } := by
    rw [hw1, getElem?_altered_self ho', hvic]
    rfl
  -- the weapon cools down
  obtain ⟨w2, hw2⟩ : ∃ w2, w2 = w1.altered c
      (.mapCombat ({ · with cooldown := .num ItemType.coolingTime })) :=
    ⟨_, rfl⟩
  have hsteady2 : Steady w1 w2 := by
    rw [hw2]
    refine (Orderly.setCooldown (fun o1 f ho1 hf => ?_) hstat hcool).holds
    cases hc1.symm.trans ho1
    cases hfight.symm.trans hf
    exact hequip
  have hc2 : w2.parts[c.index]? =
      some { o with part := .combat { fighter with cooldown := .num ItemType.coolingTime } } := by
    rw [hw2, getElem?_altered_self hc1, hfight]
    rfl
  have hp2 : w2.parts[p.index]? =
      some { o' with part := .combat { victim with health := .num health } } := by
    rw [hw2, getElem?_altered_of_ne hne.symm, hp1]
  -- it is heard and shown
  obtain ⟨w3, hplay, hsame3, hsteady3⟩ := exists_run_playSound file w2
  have hst := (hsteady1.trans hsteady2).trans hsteady3
  have hps : w3.parts = w2.parts := congrArg Prod.fst hsame3
  have hp3 : w3.parts[p.index]? =
      some { o' with part := .combat { victim with health := .num health } } := hps ▸ hp2
  obtain ⟨u, ⟨hu, hsame⟩, hrun⟩ := exists_run_hit hp3 rfl hdeath (hst.ownerOf?_some hown)
    (hst.isPlaced hplcd) hdies 2
  have hps' : u.parts = w2.parts := congrArg Prod.fst (hsame.trans hsame3)
  have hstruck : Struck c p fighter victim health w u :=
    { step := (congrArg Prod.snd (hsame.trans hsame3)).trans (by rw [hw2, hw1]; rfl)
      part := fun q hqc hqp => by
        rw [hps', hw2, getElem?_altered_of_ne hqc, hw1, getElem?_altered_of_ne hqp]
      fighter := part?_eq_some.2 ⟨_, hps' ▸ hc2, rfl⟩
      victim := part?_eq_some.2 ⟨_, hps' ▸ hp2, rfl⟩ }
  refine ⟨u, ⟨hst.trans hu, hstruck⟩, ?_⟩
  rw [strike, run_lift_bind hdmg, run_lift_bind Json.toInt_two, bind_ok (run_orAbsent_some p w),
    bind_ok (run_combat_eq_ok.2 ⟨⟨o', ho', hvic⟩, rfl⟩), run_lift_bind hhp,
    bind_ok (run_modifyCombat w p _), ← hw1, run_lift_bind hstat,
    run_lift_bind hcool, bind_ok (run_modifyCombat w1 c _), ← hw2]
  change (combat c >>= _).runOn w2 = _
  rw [bind_ok (run_combat_eq_ok.2 ⟨⟨_, hc2, rfl⟩, rfl⟩)]
  dsimp only
  rw [hsound]
  dsimp only
  rw [bind_ok hplay]
  exact hrun

end Game

namespace World

/-- All that an attack goes by: the weapon in the hand of an enemy, whether it is hot, and how far
away somebody is. -/
structure Engaged (w : World) (id : PartId) (other : EntityId) (c : PartId) (fighter : Combat)
    (weapon : ItemType) (hot : Bool) (distance : Scalar) : Prop where
  enemy : ∃ en, w.part? id = some (.enemy en) ∧ en.targeted? = some other ∧ en.combat? = some c
  able : ∃ o, w.parts[c.index]? = some o ∧ o.part = .combat fighter ∧ o.lost = []
  equipped : fighter.equipped? = some weapon
  forged : ItemType.all[4]? = some weapon
  cooldown : Json.less 0 fighter.cooldown = .ok hot
  apart : ∃ me here there, w.ownerOf? id = some me ∧ w.placeOf? me = some here ∧
    w.placeOf? other = some there ∧ Json.distance here.1 here.2 there.1 there.2 = .ok distance

lemma Prowls.exists_engaged (h : w.Prowls id (some other)) :
    ∃ c fighter weapon hot distance, w.Engaged id other c fighter weapon hot distance ∧
      ∃ file, fighter.sound? = some (.file file) ∧
        w.gist? c = some (.fighter .leave (some weapon) (some (.file file))) := by
  obtain ⟨me, c, b, hitbox, weapon, file, health?, ⟨hme, hown⟩, hid, -, hc⟩ := h.arms
  obtain ⟨o, fighter, ho, hfight, hlost, hequip, hsound, ⟨cooldown, hcool⟩, hforged⟩ :=
    h.rest.toTied.exists_fighter hc
  obtain ⟨oid, en, hoid, hen, htarg⟩ := h.exists_enemy
  have hcomb : en.combat? = some c := by
    obtain ⟨o1, ho1, hg⟩ := gist?_eq_some.1 hid
    cases hoid.symm.trans ho1
    rw [hen] at hg
    exact (Gist.enemy.inj hg).1
  have hfar : reach ≤ farthest := by decide
  obtain ⟨x, y, hplace, hx, hy⟩ := h.ranged.placed me hme
  obtain ⟨x', y', hplace', hx', hy'⟩ := h.prey other rfl
  obtain ⟨d, hd⟩ := (hx.mono hfar).distance (hy.mono hfar) (hx'.mono hfar) (hy'.mono hfar)
  exact ⟨c, fighter, weapon, Scalar.lt 0 cooldown, d,
    { enemy := ⟨en, part?_eq_some.2 ⟨oid, hoid, hen⟩, htarg, hcomb⟩
      able := ⟨o, ho, hfight, hlost⟩
      equipped := hequip
      forged := hforged
      cooldown := by rw [hcool]; rfl
      apart := ⟨me, (x, y), (x', y'), hown, hplace, hplace', hd⟩ }, file, hsound, hc⟩

section

variable (h : w.Engaged id other c fighter weapon hot distance)
include h

lemma Engaged.threatens_iff {other' : EntityId} {weapon' : ItemType} :
    w.Threatens id other' weapon' ↔ other' = other ∧ weapon' = weapon ∧ hot = false := by
  obtain ⟨en, hen, htarg, hcomb⟩ := h.enemy
  obtain ⟨o, ho, hfight, -⟩ := h.able
  constructor
  · rintro ⟨en', c', fighter', hen', htarg', hcomb', hfight', hequip', hcool'⟩
    cases hen.symm.trans hen'
    cases htarg.symm.trans htarg'
    cases hcomb.symm.trans hcomb'
    cases (part?_eq_some.2 ⟨o, ho, hfight⟩).symm.trans hfight'
    cases h.equipped.symm.trans hequip'
    cases h.cooldown.symm.trans hcool'
    exact ⟨rfl, rfl, rfl⟩
  · rintro ⟨rfl, rfl, rfl⟩
    exact ⟨en, c, fighter, hen, htarg, hcomb, part?_eq_some.2 ⟨o, ho, hfight⟩, h.equipped,
      h.cooldown⟩

lemma Engaged.reaches_iff : w.Reaches id other weapon ↔ distance.lt (.int 50) = true := by
  obtain ⟨me, here, there, hown, hhere, hth, hdist⟩ := h.apart
  obtain ⟨-, hrange, -⟩ := ItemType.stats_of_weakSword h.forged
  have hrange : (weapon.stat "range" >>= Json.toInt) = .ok 50 := by
    rw [hrange]
    rfl
  constructor
  · rintro ⟨me', here', there', range, d, hown', hhere', hth', hrange', hd, hlt⟩
    cases hown.symm.trans hown'
    cases hhere.symm.trans hhere'
    cases hth.symm.trans hth'
    cases hrange.symm.trans hrange'
    cases hdist.symm.trans hd
    exact hlt
  · intro hlt
    exact ⟨me, here, there, 50, distance, hown, hhere, hth, hrange, hdist, hlt⟩

lemma Engaged.fells_iff :
    w.Fells id ↔ hot = false ∧ distance.lt (.int 50) = true ∧ ¬ w.Survives other weapon := by
  constructor
  · rintro ⟨other', weapon', hthreat, hreach, hdead⟩
    obtain ⟨rfl, rfl, hcold⟩ := h.threatens_iff.1 hthreat
    exact ⟨hcold, h.reaches_iff.1 hreach, hdead⟩
  · rintro ⟨hcold, hreach, hdead⟩
    exact ⟨other, weapon, h.threatens_iff.2 ⟨rfl, rfl, hcold⟩, h.reaches_iff.2 hreach, hdead⟩

end

lemma survives_iff {health : Json}
    (hforged : ItemType.all[4]? = some weapon) (hp : w.fighterOf? other = some p)
    (hvic : w.part? p = some (.combat victim))
    (hhp : victim.health.minus (.ofInt 2) = .ok health) (hdies : health.atMost 0 = .ok dies) :
    w.Survives other weapon ↔ dies = false := by
  obtain ⟨hdmg, -⟩ := ItemType.stats_of_weakSword hforged
  have hdmg : (weapon.stat "damage" >>= Json.toInt) = .ok 2 := by
    rw [hdmg]
    rfl
  constructor
  · rintro ⟨p', victim', damage, health', hp', hvic', hdmg', hhp', halive⟩
    cases hp.symm.trans hp'
    cases hvic.symm.trans hvic'
    cases hdmg.symm.trans hdmg'
    cases hhp.symm.trans hhp'
    cases hdies.symm.trans halive
    rfl
  · rintro rfl
    exact ⟨p, victim, 2, health, hp, hvic, hdmg, hhp, hdies⟩

end World

namespace Game

open World

lemma run_attackTargeted (h : w.Engaged id other c fighter weapon hot distance) :
    (attackTargeted id other).runOn w =
      if distance.lt (.int 50) = true ∧ hot = false then
        (strike c weapon (w.fighterOf? other)).runOn w
      else (.ok (), w) := by
  obtain ⟨en, hen, htarg, hcomb⟩ := h.enemy
  obtain ⟨oid, hoid, hen⟩ := part?_eq_some.1 hen
  obtain ⟨o, ho, hfight, hlost⟩ := h.able
  obtain ⟨me, ⟨x, y⟩, ⟨x', y'⟩, hown, hhere, hth, hdist⟩ := h.apart
  obtain ⟨-, hrange, -⟩ := ItemType.stats_of_weakSword h.forged
  obtain ⟨mine, hmine, hxy⟩ := Option.map_eq_some_iff.1 hhere
  obtain ⟨its, hits, hxy'⟩ := Option.map_eq_some_iff.1 hth
  cases hxy
  cases hxy'
  have hlook : (combat c).runOn w = (.ok fighter, w) :=
    run_combat_eq_ok.2 ⟨⟨o, ho, hfight⟩, rfl⟩
  have hplace : (place id).runOn w = (.ok (mine.x, mine.y), w) := by
    rw [place, bind_ok (run_owner_eq_ok.2 ⟨hown, rfl⟩), entityPlace, bind_ok (run_entity hmine)]
    rfl
  have hplace' : (entityPlace other).runOn w = (.ok (its.x, its.y), w) := by
    rw [entityPlace, bind_ok (run_entity hits)]
    rfl
  have hfind : (find? other Part.isCombat).runOn w = (.ok (w.fighterOf? other), w) := by
    rw [run_find? hits, fighterOf?, partsOf, hits]
    rfl
  rw [attackTargeted, bind_ok (run_enemy_eq_ok.2 ⟨⟨oid, hoid, hen⟩, rfl⟩), hcomb,
    bind_ok (run_orAbsent_some c w), bind_ok hlook, h.equipped,
    bind_ok (run_orAbsent_some weapon w), run_lift_bind hrange,
    run_lift_bind Json.toInt_fifty, bind_ok hplace]
  dsimp only
  rw [bind_ok hplace']
  dsimp only
  rw [run_lift_bind hdist]
  by_cases hlt : distance.lt (.int 50) = true
  · rw [if_pos hlt, bind_ok hfind, attack, bind_ok (run_requires ho hlost _), bind_ok hlook,
      h.equipped]
    dsimp only
    rw [run_lift_bind h.cooldown]
    cases hot <;> simp [hlt]
  · rw [if_neg hlt, if_neg fun h => hlt h.1]
    rfl

lemma attackTargeted_cases (h : w.Prowls id (some other)) :
    (¬ w.Fells id ∧ ∃ u, Steady w u ∧ (attackTargeted id other).runOn w = (.ok (), u)) ∨
      w.Fells id ∧ ((∃ fault u, (attackTargeted id other).runOn w = (.error fault, u)) ∨
        ∃ u, Steady w u ∧ (attackTargeted id other).runOn w = (switchTo "Play").runOn u) := by
  obtain ⟨c, fighter, weapon, hot, distance, heng, file, hsound, hc⟩ := h.exists_engaged
  obtain ⟨o, ho, hfight, -⟩ := heng.able
  rw [heng.fells_iff, run_attackTargeted heng]
  by_cases hstr : distance.lt (.int 50) = true ∧ hot = false
  · rw [if_pos hstr]
    rcases hp : w.fighterOf? other with _ | p
    · -- there is nobody to be struck
      refine .inr ⟨⟨hstr.2, hstr.1, ?_⟩, .inl ⟨.absent, w, ?_⟩⟩
      · rintro ⟨p, _, _, _, hsome, -⟩
        cases hp.symm.trans hsome
      · obtain ⟨hdmg, -⟩ := ItemType.stats_of_weakSword heng.forged
        rw [strike, run_lift_bind hdmg, run_lift_bind Json.toInt_two]
        rfl
    · have hmem : p ∈ w.partsOf other := List.mem_of_find?_eq_some hp
      obtain ⟨combat?, health?, hid⟩ := h.enemy
      obtain ⟨o', victim, ho', hvic, hdeath, n, hn⟩ := h.rest.toTied.exists_victim
        (List.find?_some hp) hmem (h.rest.aimed id _ other _ hid).2
      obtain ⟨health, dies, hhp, hdies⟩ := Json.exists_minus_two n
      rw [← hn] at hhp
      have hne : c ≠ p := by
        rintro rfl
        cases ho.symm.trans ho'
        cases hfight.symm.trans hvic
        obtain ⟨o1, ho1, hg⟩ := gist?_eq_some.1 hc
        cases ho.symm.trans ho1
        rw [hfight, Part.gist, hdeath, if_neg (by simp)] at hg
        cases hg
      obtain ⟨u, ⟨hu, -⟩, hrun⟩ := exists_run_strike ho hfight heng.equipped hsound
        heng.forged ho' hvic hdeath hne (h.rest.owned other p hmem) (h.prey other rfl)
        hhp hdies
      rw [hrun]
      have hsurvives : w.Survives other weapon ↔ dies = false :=
        survives_iff heng.forged hp (part?_eq_some.2 ⟨o', ho', hvic⟩) hhp hdies
      cases dies with
      | true => exact .inr ⟨⟨hstr.2, hstr.1, by simp [hsurvives]⟩, .inr ⟨u, hu, rfl⟩⟩
      | false => exact .inl ⟨fun hfells => hfells.2.2 (hsurvives.2 rfl), u, hu, rfl⟩
  · rw [if_neg hstr]
    exact .inl ⟨fun hfells => hstr ⟨hfells.2.1, hfells.1⟩, w, .refl w, rfl⟩

lemma exists_fault_walkToward (hown : w.ownerOf? id = some me) (hbare : w.IsBare me)
    (tx ty : Scalar) : ∃ fault u, (walkToward id tx ty).runOn w = (.error fault, u) := by
  obtain ⟨en, hen⟩ : ∃ en, w.entities[me.index]? = some en :=
    ⟨_, Array.getElem?_eq_getElem hbare.1⟩
  have hps : en.parts = [] := by
    have hnil := hbare.2
    rwa [partsOf, hen] at hnil
  rw [walkToward, bind_ok (run_owner_eq_ok.2 ⟨hown, rfl⟩),
    bind_ok (run_find? hen _), bind_ok (run_entity hen), hps]
  rcases hstep : stepToward en.x tx with fault | x
  · exact ⟨fault, w, rfl⟩
  · exact ⟨.absent, _, rfl⟩

/-- What an enemy does after its attack. -/
def pursue (id : PartId) : Game Unit := do
  match (← enemy id).target? with
  | some (tx, ty) => walkToward id tx ty
  | none => return

lemma exists_run_pursue (h : w.Prowls id prey?) : ∃ u, (pursue id).runOn w = (.ok (), u) := by
  obtain ⟨o, en, ho, hen, -⟩ := h.exists_enemy
  rw [pursue, bind_ok (run_enemy_eq_ok.2 ⟨⟨o, ho, hen⟩, rfl⟩)]
  rcases en.target? with _ | ⟨tx, ty⟩
  · exact ⟨w, rfl⟩
  · obtain ⟨_, u, hrun, -⟩ := (ends_walkToward h tx ty).completes
    exact ⟨u, hrun⟩

lemma exists_fault_restart (h : w.Prowls id (some other)) :
    ∃ fault u, (switchTo "Play" >>= fun _ => pursue id).runOn w = (.error fault, u) := by
  obtain ⟨me, c, b, hitbox, weapon, file, health?, ⟨hme, hown⟩, hid, -⟩ := h.arms
  rw [run_bind]
  rcases hswitch : (switchTo "Play").runOn w with ⟨fault | _, v⟩
  · exact ⟨fault, v, rfl⟩
  have hv : v.AtRest w.aftermath := (ends_switchTo_play h.rest h.real "Play").ok _ v hswitch
  have hbare : v.IsBare me := hv.past.gone me hme
  obtain ⟨hown', combat?, other', health?', hg⟩ :=
    hv.past.hunts id me ⟨hown, _, other, health?, hid⟩
  obtain ⟨o, ho, hgist⟩ := gist?_eq_some.1 hg
  obtain ⟨en, hen⟩ := Part.exists_enemy_of_gist hgist
  have hfit := (hv.able id.index o ho).fit
  rw [hen] at hgist hfit
  -- it is still after somebody, so it still walks somewhere
  have htarget : en.target?.isSome = true := by
    rw [hfit.2.2, (Gist.enemy.inj hgist).2.1]
    rfl
  obtain ⟨⟨tx, ty⟩, htarget⟩ := Option.isSome_iff_exists.1 htarget
  dsimp only
  rw [pursue, bind_ok (run_enemy_eq_ok.2 ⟨⟨o, ho, hen⟩, rfl⟩), htarget]
  exact exists_fault_walkToward hown' hbare tx ty

end Game

namespace World

/-- The world in which an enemy attacks: it has looked around, if it was time to. -/
def alerted (w : World) (id : PartId) : World :=
  match w.part? id with
  | some (.enemy en) => if w.step % 30 = en.phase then ((Game.lookAround id).runOn w).2 else w
  | _ => w

end World

namespace Game

open World

lemma exists_run_updateEnemy (h : w.Prowls id prey?) : ∃ prey?', (w.alerted id).Prowls id prey?' ∧
    (updateEnemy id).runOn w = (do
      match prey?' with
      | some other => attackTargeted id other
      | none => pure ()
      pursue id : Game Unit).runOn (w.alerted id) := by
  obtain ⟨o, en, ho, hen, htarg⟩ := h.exists_enemy
  have hstrike {v : World} {prey?' : Option EntityId} (hv : v.Prowls id prey?') : (do
      match (← enemy id).targeted? with
      | some other => attackTargeted id other
      | none => pure ()
      pursue id : Game Unit).runOn v = (do
      match prey?' with
      | some other => attackTargeted id other
      | none => pure ()
      pursue id : Game Unit).runOn v := by
    obtain ⟨o, en, ho, hen, rfl⟩ := hv.exists_enemy
    rw [bind_ok (run_enemy_eq_ok.2 ⟨⟨o, ho, hen⟩, rfl⟩)]
  have hp : w.part? id = some (.enemy en) := part?_eq_some.2 ⟨o, ho, hen⟩
  rw [updateEnemy, run_get_bind, bind_ok (run_enemy_eq_ok.2 ⟨⟨o, ho, hen⟩, rfl⟩), alerted, hp]
  dsimp only
  split
  · obtain ⟨prey?', v, hlook, hv⟩ := exists_run_lookAround h
    rw [bind_ok hlook, hlook]
    exact ⟨prey?', hv, hstrike hv⟩
  · exact ⟨prey?, h, hstrike h⟩

lemma exists_run_updateEnemy_iff (h : w.Prowls id prey?) :
    (∃ u, (updateEnemy id).runOn w = (.ok (), u)) ↔ ¬ (w.alerted id).Fells id := by
  obtain ⟨prey?', hv, hrun⟩ := exists_run_updateEnemy h
  rw [hrun]
  rcases prey?' with _ | other
  · refine iff_of_true (exists_run_pursue hv) ?_
    rintro ⟨other, weapon, ⟨en, c, fighter, hen, htarg, -⟩, -⟩
    obtain ⟨o, en', ho, hen', hnone⟩ := hv.exists_enemy
    cases (part?_eq_some.2 ⟨o, ho, hen'⟩).symm.trans hen
    cases hnone.symm.trans htarg
  · change (∃ u, (attackTargeted id other >>= fun _ => pursue id).runOn (w.alerted id) = (.ok (), u)) ↔ _
    rcases attackTargeted_cases hv with ⟨hno, u, hst, hatt⟩ | ⟨hfells, hatt⟩
    · rw [bind_ok hatt]
      exact iff_of_true (exists_run_pursue (hv.of_steady hst)) hno
    · refine iff_of_false ?_ (not_not_intro hfells)
      rintro ⟨v, hok⟩
      rcases hatt with ⟨fault, u, hatt⟩ | ⟨u, hst, hatt⟩
      · rw [run_bind, hatt] at hok
        cases hok
      · obtain ⟨fault, v', hf⟩ := exists_fault_restart (hv.of_steady hst)
        rw [run_bind, hatt, ← run_bind, hf] at hok
        cases hok

end Game

end TileQuest
