import TileQuest.Proofs.Bodies.Moving
import TileQuest.Proofs.Play.Contact
import TileQuest.Proofs.Registers.Frames

/-!
# What becomes of an enemy

In a frame an enemy looks around, attacks whom it is after and walks there. Who is within some
distance, and whether a body may be somewhere, can be worked out if everything in the area stands on
whole or half pixels and nobody is a million pixels away (`World.Ranged`). An enemy in the area
(`World.Prowls`) has all else that it takes, so neither looking around nor walking can fail then.
-/

namespace TileQuest

variable {w u : World} {b id : PartId} {me : EntityId} {n : Nat} {prey? : Option EntityId}
variable {x : Json} {rule : Rule} {bx : Box}

namespace World

variable {e : EntityId}

/-- The entity stands on whole or half pixels, at most `n` half pixels away from the origin. -/
def IsPlaced (w : World) (n : Nat) (e : EntityId) : Prop :=
  ∃ x y, w.placeOf? e = some (x, y) ∧ x.Within n ∧ y.Within n

/-- There is ground in the area, all of whose tiles are of a kind, and everything there stands on
whole or half pixels, at most `n` half pixels away from the origin. -/
structure Ranged (w : World) (n : Nat) : Prop where
  ground : ∃ map, w.HasGround map ∧ map.IsValid
  placed : ∀ e ∈ w.present, w.IsPlaced n e

lemma IsPlaced.mono {m : Nat} (h : w.IsPlaced m e) (hle : m ≤ n) : w.IsPlaced n e := by
  obtain ⟨x, y, hplace, hx, hy⟩ := h
  exact ⟨x, y, hplace, hx.mono hle, hy.mono hle⟩

lemma IsPlaced.entity (h : w.IsPlaced n e) :
    ∃ en, w.entities[e.index]? = some en ∧ en.x.Within n ∧ en.y.Within n := by
  obtain ⟨x, y, hplace, hx, hy⟩ := h
  obtain ⟨en, hen, hxy⟩ := Option.map_eq_some_iff.1 hplace
  cases hxy
  exact ⟨en, hen, hx, hy⟩

lemma Tied.exists_box (h : w.Tied) {hitbox : Rect} (hb : w.gist? b = some (.body hitbox))
    (hown : w.ownerOf? b = some e) (he : w.IsPlaced farthest e) :
    ∃ bx, w.HasBox b bx ∧ bx.InRange := by
  obtain ⟨o, ho, hg⟩ := gist?_eq_some.1 hb
  have hbox : o.part.hitbox? = some hitbox := by
    rw [← Part.hitbox?_gist, hg]
    rfl
  have hsmall : hitbox.IsSmall := by
    have hfit := (h.able b.index o ho).fit
    cases hp : o.part with
    | body r =>
      rw [hp] at hg hfit
      cases hg
      exact hfit
    | combat c => rw [hp, Part.gist_combat] at hg; cases hg
    | _ => rw [hp] at hg; cases hg
  obtain ⟨x, y, hplace, hx, hy⟩ := he
  obtain ⟨bx, hbx, hrange⟩ := Box.exists_place hsmall hx hy
  exact ⟨bx, ⟨e, (x, y), hitbox, hown, hplace, by rw [ho, Option.map_some, hbox], hbx⟩, hrange⟩

lemma AtRest.body_of_mem (h : w.AtRest rule) (hb : b ∈ w.bodies) :
    ∃ e ∈ w.present, b ∈ w.partsOf e ∧ ∃ hitbox, w.gist? b = some (.body hitbox) := by
  have hlist : w.bodies = w.live.filter (w.partIs Register.bodies.test) := h.registered .bodies
  rw [hlist, List.mem_filter] at hb
  obtain ⟨hlive, hbody⟩ := hb
  obtain ⟨e, he, hp⟩ := mem_live.1 hlive
  obtain ⟨g, hg, -⟩ := h.ready b hlive
  rw [partIs_of_gist hg, decide_eq_true_eq] at hbody
  cases g with
  | body hitbox => exact ⟨e, he, hp, hitbox, hg⟩
  | _ => cases hbody

lemma AtRest.exists_box (h : w.AtRest rule) (hrange : w.Ranged farthest) (hb : b ∈ w.bodies) :
    ∃ bx, w.HasBox b bx ∧ bx.InRange := by
  obtain ⟨e, he, hp, hitbox, hg⟩ := h.body_of_mem hb
  exact h.toTied.exists_box hg (h.owned e b hp) (hrange.placed e he)

end World

namespace Game

open World

lemma exists_run_meetsOther {others : List PartId} (hb : w.HasBox b bx)
    (hrange : bx.InRange) (hoth : ∀ other ∈ others, ∃ ox, w.HasBox other ox ∧ ox.InRange) :
    ∃ met, (meetsOther b others).runOn w = (.ok met, w) := by
  induction others with
  | nil => exact ⟨false, rfl⟩
  | cons other others ih =>
    obtain ⟨⟨ox, hox, hoxrange⟩, hrest⟩ := List.forall_mem_cons.1 hoth
    rw [meetsOther]
    by_cases hne : other ≠ b
    · rw [if_pos hne]
      obtain ⟨met, hmeets⟩ := hoxrange.meets hrange
      rw [bind_ok (run_collides_eq_ok.2 ⟨⟨ox, bx, hox, hb, hmeets⟩, rfl⟩)]
      cases met with
      | true => exact ⟨true, rfl⟩
      | false => exact ih hrest
    · rw [if_neg hne]
      exact ih hrest

lemma exists_run_positionIsValid (hb : w.HasBox b bx) (hrange : bx.InRange)
    (hgr : ∃ map, w.HasGround map ∧ map.IsValid)
    (hoth : ∀ other ∈ w.bodies, ∃ ox, w.HasBox other ox ∧ ox.InRange) :
    ∃ valid, (positionIsValid b).runOn w = (.ok valid, w) := by
  obtain ⟨map, hmap, hval⟩ := hgr
  have hfar : farthest = 4000000 := rfl
  obtain ⟨solid, hsol⟩ := hval.rectIsSolid (x := .num bx.x) (y := .num bx.y)
    ⟨bx.x, rfl, hrange.x⟩ ⟨bx.y, rfl, hrange.y⟩ hrange.w hrange.h (by omega)
  rw [positionIsValid, bind_ok (run_box_eq_ok.2 ⟨hb, rfl⟩),
    bind_ok (run_currentMap_eq_ok.2 ⟨hmap, rfl⟩), run_lift_bind hsol]
  cases solid with
  | true => exact ⟨false, rfl⟩
  | false =>
    obtain ⟨met, hmet⟩ := exists_run_meetsOther hb hrange hoth
    refine ⟨!met, ?_⟩
    rw [if_neg (by simp), run_get_bind, bind_ok hmet]
    rfl

lemma exists_run_bodiesInCircle {x y : Json} (hx : x.Within farthest) (hy : y.Within farthest)
    {radius : Int} (hrad : radius.natAbs ≤ 1000)
    (hbods : ∀ b ∈ w.bodies, ∃ bx, w.HasBox b bx ∧ bx.InRange) :
    ∃ bs, (bodiesInCircle x y (.num (.int radius))).runOn w = (.ok bs, w) ∧ bs ⊆ w.bodies := by
  obtain ⟨x, rfl, s, hs⟩ := hx
  obtain ⟨y, rfl, t, ht⟩ := hy
  have hfar : farthest = 4000000 := rfl
  have hmet (b : PartId) (hb : b ∈ w.bodies) :
      ∃ met, (meetsCircle b (.num x) (.num y) (.num (.int radius))).runOn w = (.ok met, w) := by
    obtain ⟨bx, hbx, ⟨p, hp⟩, ⟨q, hq⟩, hw, hh⟩ := hbods b hb
    have hmeets := Box.meetsCircle_eq _ hp hq (Scalar.Holds.mono hs (by omega))
      (Scalar.Holds.mono ht (by omega)) (by omega) (by omega) (hrad.trans_lt (by omega)) (by omega)
    exact ⟨_, (run_meetsCircle hbx _ _ _).trans (congrArg (·, w) hmeets)⟩
  choose! met hrun using hmet
  refine ⟨w.bodies.filter met, ?_, List.filter_sublist.subset⟩
  rw [bodiesInCircle, run_get_bind]
  exact run_filterM hrun

end Game

lemma Part.exists_enemy_of_gist {p : Part} {combat? : Option PartId} {prey? : Option EntityId}
    {health? : Option Json} (h : p.gist = .enemy combat? prey? health?) : ∃ en, p = .enemy en := by
  cases p with
  | enemy en => exact ⟨en, rfl⟩
  | combat c => cases (gist_combat c).symm.trans h
  | _ => cases h

namespace World

variable {p : PartId} {e : EntityId}

/-- How far anybody in the area is from the origin at most, in half pixels. -/
def reach : Nat := 2000000

/-- An enemy is in the area, after somebody or after nobody, and nobody is out of reach. -/
structure Prowls (w : World) (id : PartId) (prey? : Option EntityId) : Prop where
  rest : w.AtRest .any
  real : w.NoStandIns
  ranged : w.Ranged reach
  live : id ∈ w.live
  enemy : ∃ combat? health?, w.gist? id = some (.enemy combat? prey? health?)
  prey : ∀ e, prey? = some e → w.IsPlaced reach e

lemma Steady.isPlaced (h : Steady w u) (he : w.IsPlaced n e) : u.IsPlaced n e := by
  obtain ⟨x, y, hplace, hx, hy⟩ := he
  obtain ⟨en, hen, -⟩ := Option.map_eq_some_iff.1 hplace
  refine ⟨x, y, ?_, hx, hy⟩
  rw [placeOf?, h.entity e.index (lt_of_getElem? hen)]
  exact hplace

lemma Steady.ranged (h : Steady w u) (hrange : w.Ranged n) : u.Ranged n := by
  obtain ⟨has, harea, hgrs, -⟩ := frame_eq_iff.1 h.frame
  obtain ⟨⟨map, ⟨a, g, ha, hg, hmap⟩, hval⟩, hplcd⟩ := hrange
  refine ⟨⟨map, ⟨a, g, harea.trans ha, has ▸ hg, hgrs ▸ hmap⟩, hval⟩, fun e he => ?_⟩
  rw [h.stays.present_eq] at he
  exact h.isPlaced (hplcd e he)

lemma Prowls.of_steady (h : w.Prowls id prey?) (hst : Steady w u) : u.Prowls id prey? := by
  have hlive : u.live = w.live := h.rest.live_eq hst.stays
  refine ⟨h.rest.of_steady hst, fun p hp => ?_, hst.ranged h.ranged, hlive ▸ h.live, ?_,
    fun e he => hst.isPlaced (h.prey e he)⟩
  · rw [hlive] at hp
    rw [hst.gist?_eq (h.rest.lt_of_mem hp)]
    exact h.real p hp
  · obtain ⟨combat?, health?, hg⟩ := h.enemy
    exact ⟨combat?, health?, hst.gist?_some hg⟩

lemma AtRest.exists_owner (h : w.AtRest rule) (hp : p ∈ w.live) :
    ∃ e ∈ w.present, p ∈ w.partsOf e ∧ w.ownerOf? p = some e := by
  obtain ⟨e, he, hmem⟩ := mem_live.1 hp
  exact ⟨e, he, hmem, h.owned e p hmem⟩

lemma Comes.all {parts : List (PartId × Gist)} (h : w.Comes p parts)
    (hown : w.ownerOf? p = some e) (hp : p ∈ w.partsOf e) :
    ∀ x ∈ parts, x.1 ∈ w.partsOf e ∧ w.gist? x.1 = some x.2 := by
  obtain ⟨e', hown', -, hps⟩ := h
  cases hown.symm.trans hown'
  intro x hx
  obtain ⟨hmem, hg, -⟩ := hps.resolve_left (List.ne_nil_of_mem hp) x hx
  exact ⟨hmem, hg⟩

lemma Prowls.arms (h : w.Prowls id prey?) :
    ∃ me c b hitbox weapon file health?, (me ∈ w.present ∧ w.ownerOf? id = some me) ∧
      w.gist? id = some (.enemy (some c) prey? health?) ∧
      (b ∈ w.partsOf me ∧ w.gist? b = some (.body hitbox)) ∧
      w.gist? c = some (.fighter .leave (some weapon) (some (.file file))) := by
  obtain ⟨me, hme, hmem, hown⟩ := h.rest.exists_owner h.live
  obtain ⟨combat?, health?, hg⟩ := h.enemy
  obtain ⟨g, hg', hrdy⟩ := h.rest.ready id h.live
  cases hg.symm.trans hg'
  obtain ⟨b, hitbox, c, weapon, file, rfl, hcomes⟩ := hrdy.2
  have hall := hcomes.all hown hmem
  simp only [List.forall_mem_cons] at hall
  obtain ⟨hb, ⟨-, hc⟩, -⟩ := hall
  exact ⟨me, c, b, hitbox, weapon, file, health?, ⟨hme, hown⟩, hg, hb, hc⟩

lemma Prowls.alter (h : w.Prowls id prey?) {o : Owned} {en : Enemy}
    (ho : w.parts[id.index]? = some o) (hen : o.part = .enemy en) {f : Enemy → Enemy}
    (hrest : (w.altered id (.mapEnemy f)).AtRest .any)
    (hprey : ∀ e, (f en).targeted? = some e → w.IsPlaced reach e) :
    (w.altered id (.mapEnemy f)).Prowls id (f en).targeted? := by
  have hg : w.gist? id = some (Part.enemy en).gist := gist?_eq_some.2 ⟨o, ho, by rw [hen]⟩
  have hg' : (w.altered id (.mapEnemy f)).gist? id = some (Part.enemy (f en)).gist := by
    rw [gist?_altered_self ho, hen]
    rfl
  have hstays : Stays w (w.altered id (.mapEnemy f)) := .altered fun g hid => by
    cases hg.symm.trans hid
    rfl
  have hlive := h.rest.live_eq hstays
  refine ⟨hrest, fun p hp => ?_, ⟨h.ranged.ground, h.ranged.placed⟩, hlive ▸ h.live,
    ⟨_, _, hg'⟩, hprey⟩
  by_cases hpid : p = id
  · rw [hpid, hg']
    nofun
  · rw [gist?_altered_of_ne hpid]
    exact h.real p (hlive ▸ hp)

lemma Prowls.exists_enemy (h : w.Prowls id prey?) :
    ∃ o en, w.parts[id.index]? = some o ∧ o.part = .enemy en ∧ en.targeted? = prey? := by
  obtain ⟨combat?, health?, hg⟩ := h.enemy
  obtain ⟨o, ho, hgist⟩ := gist?_eq_some.1 hg
  obtain ⟨en, hen⟩ := Part.exists_enemy_of_gist hgist
  rw [hen] at hgist
  exact ⟨o, en, ho, hen, (Gist.enemy.inj hgist).2.1⟩

/-! ## Standing somewhere -/

lemma exists_hitbox_of_partIs (hb : w.partIs Part.isBody b = true) :
    ∃ hitbox, w.gist? b = some (.body hitbox) := by
  rcases ho : w.parts[b.index]? with _ | o
  · rw [partIs, ho] at hb
    cases hb
  · rw [partIs_of ho] at hb
    cases hp : o.part with
    | body hitbox => exact ⟨hitbox, gist?_eq_some.2 ⟨o, ho, by rw [hp]; rfl⟩⟩
    | _ => rw [hp] at hb; cases hb

/-- Somebody in the area has a body, and everybody there is near enough to be looked at. -/
structure Ambles (w : World) (me : EntityId) (b : PartId) : Prop where
  rest : w.AtRest .any
  ranged : w.Ranged farthest
  here : me ∈ w.present
  mine : b ∈ w.partsOf me
  body : ∃ hitbox, w.gist? b = some (.body hitbox)

lemma Ranged.mono {m : Nat} (h : w.Ranged m) (hle : m ≤ n) : w.Ranged n :=
  ⟨h.ground, fun e he => (h.placed e he).mono hle⟩

lemma Ranged.move (h : w.Ranged n) {f : Entity → Entity}
    (hf : ∀ en, w.entities[me.index]? = some en → (f en).x.Within n ∧ (f en).y.Within n) :
    (w.withEntity me f).Ranged n := by
  refine ⟨h.ground, fun e he => ?_⟩
  by_cases heq : e = me
  · subst heq
    obtain ⟨en, hen, -⟩ := (h.placed e he).entity
    obtain ⟨hx, hy⟩ := hf en hen
    exact ⟨(f en).x, (f en).y, by rw [placeOf?_withEntity, hen]; rfl, hx, hy⟩
  · obtain ⟨x, y, hplace, hx, hy⟩ := h.placed e he
    refine ⟨x, y, ?_, hx, hy⟩
    have hne : me.index ≠ e.index := fun hidx => heq (EntityId.eq_of_index hidx).symm
    rwa [placeOf?, withEntity, Array.getElem?_modify, if_neg hne]

lemma Ambles.move (h : w.Ambles me b) {f : Entity → Entity} (hps : ∀ en, (f en).parts = en.parts)
    (hf : ∀ en, en.x.Within farthest → en.y.Within farthest →
      (f en).x.Within farthest ∧ (f en).y.Within farthest) : (w.withEntity me f).Ambles me b where
  rest := h.rest.move id me hps
  ranged := h.ranged.move fun en hen => by
    obtain ⟨en', hen', hx, hy⟩ := (h.ranged.placed me h.here).entity
    cases hen.symm.trans hen'
    exact hf en hx hy
  here := h.here
  mine := by
    have hsame : (w.withEntity me f).partsOf me = w.partsOf me :=
      congrArg (Option.getD · []) (map_getElem?_modify (fun en _ => hps en) me.index)
    exact hsame ▸ h.mine
  body := h.body

lemma Ambles.setX (h : w.Ambles me b) (hx : x.Within farthest) :
    (w.withEntity me ({ · with x })).Ambles me b :=
  h.move (fun _ => rfl) fun _ _ hy => ⟨hx, hy⟩

lemma Ambles.setY (h : w.Ambles me b) {y : Json} (hy : y.Within farthest) :
    (w.withEntity me ({ · with y })).Ambles me b :=
  h.move (fun _ => rfl) fun _ hx _ => ⟨hx, hy⟩

end World

namespace Game

open World

lemma exists_valid (h : w.Ambles me b) :
    ∃ valid, (positionIsValid b).runOn w = (.ok valid, w) := by
  obtain ⟨hitbox, hb⟩ := h.body
  obtain ⟨bx, hbx, hrange⟩ := h.rest.toTied.exists_box hb (h.rest.owned me b h.mine)
    (h.ranged.placed me h.here)
  exact exists_run_positionIsValid hbx hrange h.ranged.ground fun _ hoth =>
    h.rest.exists_box h.ranged hoth

/-! ## Walking -/

lemma fine_enemyPace : enemyPace.Fine 1 1 :=
  ⟨mkRat 1 2, by decide +kernel, 1, by decide, by norm_num [Rat.mkRat_eq_div]⟩

lemma exists_stepToward (hx : x.Within n) (hn : n + 2 < 2 ^ 53) (target : Scalar) :
    ∃ z, stepToward x target = .ok z ∧ z.Within (n + 2) := by
  obtain ⟨a, rfl, ha⟩ := hx
  have hless (p q : Scalar) : (Json.num p).less (.num q) = .ok (p.lt q) := rfl
  have hback {b : Scalar} (hb : b.Fine 1 (n + 1)) : ∃ z, (do
      if ← Json.less target (.num b) then (Json.num b).minus enemyPace else return .num b) = .ok z ∧
        z.Within (n + 2) := by
    rw [hless, ok_bind]
    split
    · obtain ⟨c, hc, hfine⟩ := hb.sub fine_enemyPace (by omega) (by omega)
      exact ⟨.num c, by simp only [Json.minus, Json.toScalar, ok_bind, hc]; rfl, c, rfl, hfine⟩
    · exact ⟨.num b, rfl, b, rfl, hb.mono (by omega)⟩
  rw [stepToward, hless, ok_bind]
  dsimp only
  split
  · obtain ⟨b, hb, hfine⟩ := ha.add fine_enemyPace (by omega) (by omega)
    have hplus : (Json.num a).plus enemyPace = .ok (.num b) := by
      simp only [Json.plus, Json.toScalar, ok_bind, hb]
      rfl
    rw [hplus, ok_bind]
    exact hback hfine
  · exact hback (ha.mono (by omega))

lemma ends_goBack {β : Type} {back : Entity → Entity} {k : Unit → Game β}
    {Q : β → World → Prop} (hth : w.Ambles me b) (hback : (w.withEntity me back).Ambles me b)
    (hk : ∀ u, u.Ambles me b → Ends u (k ()) Q fun _ => False) :
    Ends w (positionIsValid b >>= fun valid =>
      if (!valid) = true then modifyEntity me back >>= k else k ()) Q fun _ => False := by
  obtain ⟨valid, hval⟩ := exists_valid hth
  refine .step hval ?_
  cases valid with
  | true => exact hk w hth
  | false => exact .step rfl (hk _ hback)

lemma ends_walkToward (h : w.Prowls id prey?) (tx ty : Scalar) :
    Ends w (walkToward id tx ty) (fun _ _ => True) fun _ => False := by
  obtain ⟨me, c, b, hitbox, weapon, file, health?, ⟨hme, hown⟩, -, ⟨hb, hbody⟩, -⟩ := h.arms
  obtain ⟨en, hen, hx, hy⟩ := (h.ranged.placed me hme).entity
  have hfar : reach + 2 ≤ farthest := by decide
  have hps : w.partsOf me = en.parts := by
    rw [partsOf, hen]
    rfl
  obtain ⟨b', hfind⟩ : ∃ b', en.parts.find? (w.partIs Part.isBody) = some b' := by
    rw [← Option.isSome_iff_exists, List.find?_isSome]
    exact ⟨b, hps ▸ hb, (partIs_of_gist hbody .bodies).trans rfl⟩
  have hamble : w.Ambles me b' :=
    { rest := h.rest
      ranged := h.ranged.mono (by omega)
      here := hme
      mine := hps ▸ List.mem_of_find?_eq_some hfind
      body := exists_hitbox_of_partIs (List.find?_some hfind) }
  obtain ⟨x, hstepX, hx'⟩ := exists_stepToward hx (by decide) tx
  obtain ⟨y, hstepY, hy'⟩ := exists_stepToward hy (by decide) ty
  refine .step (run_owner_eq_ok.2 ⟨hown, rfl⟩) (.step (run_find? hen _)
    (.step (run_entity hen) ?_))
  rw [hfind, hstepX]
  refine .step rfl (.step rfl (.step rfl (ends_goBack (hamble.setX (hx'.mono hfar))
    ((hamble.setX (hx'.mono hfar)).setX (hx.mono (by omega))) fun u hu => ?_)))
  rw [hstepY]
  have hth := hu.setY (hy'.mono hfar)
  obtain ⟨valid, hval⟩ := exists_valid hth
  refine .step rfl (.step rfl (.step hval ?_))
  cases valid <;> exact .of_ok rfl trivial

lemma exists_run_lookForPlayer {rule : Rule} (h : w.AtRest rule) (hrange : w.Ranged n)
    {bodies : List PartId} (hbods : bodies ⊆ w.bodies)
    {found : Option (EntityId × Scalar × Scalar)} (hfnd : ∀ f, found = some f → f.1 ∈ w.present) :
    ∃ found', (lookForPlayer bodies found).runOn w = (.ok found', w) ∧
      ∀ f, found' = some f → f.1 ∈ w.present := by
  induction bodies generalizing found with
  | nil => exact ⟨found, rfl, hfnd⟩
  | cons body rest ih =>
    obtain ⟨hb, hrest⟩ := List.cons_subset.1 hbods
    obtain ⟨e, he, hp, -⟩ := h.body_of_mem hb
    obtain ⟨en, hen, ⟨x, hx, -⟩, y, hy, -⟩ := (hrange.placed e he).entity
    have hhas : (hasPart e Part.isPlayer).runOn w =
        (.ok (en.parts.find? (w.partIs Part.isPlayer)).isSome, w) := by
      rw [hasPart, bind_ok (run_find? hen _)]
      rfl
    have hpoint : (entityPoint e).runOn w = (.ok (x, y), w) := by
      rw [entityPoint, bind_ok (run_entity hen), hx, hy]
      rfl
    rw [lookForPlayer, bind_ok (run_owner_eq_ok.2 ⟨h.owned e body hp, rfl⟩), bind_ok hhas]
    split
    · rw [bind_ok hpoint]
      refine ih hrest fun f hf => ?_
      cases hf
      exact he
    · exact ih hrest hfnd

lemma exists_run_lookAround (h : w.Prowls id prey?) :
    ∃ prey?' u, (lookAround id).runOn w = (.ok (), u) ∧ u.Prowls id prey?' := by
  obtain ⟨me, c, b, hitbox, weapon, file, health?, ⟨hme, hown⟩, -⟩ := h.arms
  obtain ⟨en, hen, hx, hy⟩ := (h.ranged.placed me hme).entity
  have hfar : reach ≤ farthest := by decide
  have hrange := h.ranged.mono hfar
  have hrad : Int.natAbs 500 ≤ 1000 := by decide
  obtain ⟨bodies, hbods, hsubset⟩ := exists_run_bodiesInCircle (hx.mono hfar) (hy.mono hfar)
    hrad fun b hb => h.rest.exists_box hrange hb
  have hnob : ∀ f : EntityId × Scalar × Scalar, none = some f → f.1 ∈ w.present := nofun
  obtain ⟨found, hfnd, hpres⟩ := exists_run_lookForPlayer h.rest h.ranged hsubset hnob
  let aim (e : Enemy) : Enemy :=
    { e with targeted? := found.map (·.1), target? := found.map fun f => (f.2.1, f.2.2) }
  have hlook : (lookAround id).runOn w = (.ok (), w.altered id (.mapEnemy aim)) := by
    rw [lookAround, bind_ok (run_owner_eq_ok.2 ⟨hown, rfl⟩), bind_ok (run_entity hen)]
    change (bodiesInCircle en.x en.y (.num (.int 500)) >>= _).runOn w = _
    rw [bind_ok hbods, bind_ok hfnd]
    rfl
  have hrest : (w.altered id (.mapEnemy aim)).AtRest .any := by
    have hkept := kept_lookAround id w h.rest
    rwa [hlook] at hkept
  obtain ⟨o, enemy, ho, henemy, -⟩ := h.exists_enemy
  refine ⟨_, _, hlook, h.alter ho henemy hrest fun e he => ?_⟩
  obtain ⟨f, hf, rfl⟩ := Option.map_eq_some_iff.1 he
  exact h.ranged.placed f.1 (hpres f hf)

end Game

end TileQuest
