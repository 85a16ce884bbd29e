import TileQuest.Proofs.Bodies.Making

/-!
# Where bodies may stand

`World.MayStand w b` says that the body `b` may be where its entity stands. `World.mayStand_iff`
takes that apart: the body has a box, the area has ground, the box touches no solid tile, and every
other registered body has a box that does not meet it.
-/

namespace TileQuest

variable {x z : Json} {w u : World} {b : PartId} {bx : Box} {map : TileMap} {n : Int}
variable {rowStep left : Nat} {e : EntityId} {p : Json × Json}

/-! ## Boxes with far edges -/

namespace Box

/-- The right and the lower edge of the box can be worked out. -/
structure HasEdges (b : Box) : Prop where
  right : ∃ right, b.x.add b.w = .ok right
  bottom : ∃ bottom, b.y.add b.h = .ok bottom

lemma meets_eq {a b : Box} {ar ab br bb : Scalar} (har : a.x.add a.w = .ok ar)
    (hab : a.y.add a.h = .ok ab) (hbr : b.x.add b.w = .ok br) (hbb : b.y.add b.h = .ok bb) :
    a.meets b = .ok (a.x.lt br && b.x.lt ar && (a.y.lt bb && b.y.lt ab)) := by
  simp only [meets, har, hab, hbr, hbb, ok_bind]
  cases a.x.lt br <;> cases b.x.lt ar <;> cases a.y.lt bb <;> rfl

lemma meets_comm {a b : Box} (ha : a.HasEdges) (hb : b.HasEdges) : a.meets b = b.meets a := by
  obtain ⟨⟨ar, har⟩, ab, hab⟩ := ha
  obtain ⟨⟨br, hbr⟩, bb, hbb⟩ := hb
  rw [meets_eq har hab hbr hbb, meets_eq hbr hbb har hab, Bool.and_comm (a.x.lt br),
    Bool.and_comm (a.y.lt bb)]

end Box

/-- The value is a binary64 number. -/
def Json.IsReal (j : Json) : Prop := ∃ x, j = .num (.real x)

lemma Json.IsReal.plus {n : Int} (hx : x.IsReal)
    (h : Json.plus (.ofInt n) x = .ok z) : z.IsReal := by
  obtain ⟨r, rfl⟩ := hx
  obtain ⟨_, h1, h⟩ := bind_eq_ok.1 h
  cases h1
  obtain ⟨_, h2, h⟩ := bind_eq_ok.1 h
  cases h2
  obtain ⟨s, hadd, h⟩ := bind_eq_ok.1 h
  cases h
  obtain ⟨_, -, hadd⟩ := bind_eq_ok.1 hadd
  obtain ⟨_, -, hadd⟩ := bind_eq_ok.1 hadd
  cases hadd
  exact ⟨_, rfl⟩

lemma Scalar.add_real_int {r r' : Binary64} {s : Scalar}
    (h : (Scalar.real r).add (.int n) = .ok s) : ∃ s', (Scalar.real r').add (.int n) = .ok s' := by
  obtain ⟨_, -, h⟩ := bind_eq_ok.1 h
  obtain ⟨x, hx, -⟩ := bind_eq_ok.1 h
  exact ⟨_, bind_eq_ok.2 ⟨r', rfl, bind_eq_ok.2 ⟨x, hx, rfl⟩⟩⟩

lemma Scalar.exists_add {a : Scalar}
    (hreal : (Json.num a).IsReal → x.IsReal) (h : x.plus (.ofInt n) = .ok z) :
    ∃ s, a.add n = .ok s := by
  cases a with
  | int m => exact ⟨_, rfl⟩
  | real r =>
    obtain ⟨r', rfl⟩ := hreal ⟨r, rfl⟩
    obtain ⟨_, h1, h⟩ := bind_eq_ok.1 h
    cases h1
    obtain ⟨_, h2, h⟩ := bind_eq_ok.1 h
    cases h2
    obtain ⟨s, hadd, -⟩ := bind_eq_ok.1 h
    exact add_real_int hadd

namespace TileMap

variable {isSolid : Json → Json → Except Fault Bool} {x y x' y' : Json}

lemma isReal_of_walkRow {step : Nat}
    (h : walkRow isSolid rowStep left step x y = .ok (some (x', y'))) :
    (x.IsReal → x'.IsReal) ∧ (y.IsReal → y'.IsReal) := by
  induction left generalizing step x y with
  | zero =>
    cases h
    exact ⟨id, id⟩
  | succ left ih =>
    obtain ⟨x1, hx, h⟩ := bind_eq_ok.1 h
    obtain ⟨y1, hy, h⟩ := bind_eq_ok.1 h
    obtain ⟨solid, -, h⟩ := bind_eq_ok.1 h
    cases solid with
    | true => cases h
    | false => exact ⟨fun hr => (ih h).1 (hr.plus hx), fun hr => (ih h).2 (hr.plus hy)⟩

lemma isReal_of_walk {columns : Nat}
    (h : walk isSolid columns left rowStep x y = .ok (some (x', y'))) :
    (x.IsReal → x'.IsReal) ∧ (y.IsReal → y'.IsReal) := by
  induction left generalizing rowStep x y with
  | zero =>
    cases h
    exact ⟨id, id⟩
  | succ left ih =>
    obtain ⟨row?, hrow, h⟩ := bind_eq_ok.1 h
    cases row? with
    | none => cases h
    | some p =>
      have hfst := isReal_of_walkRow hrow
      exact ⟨fun hr => (ih h).1 (hfst.1 hr), fun hr => (ih h).2 (hfst.2 hr)⟩

lemma hasEdges_of_touches {b : Box}
    (h : touches isSolid b.x b.y (.ofInt b.w) (.ofInt b.h) = .ok false) : b.HasEdges := by
  obtain ⟨_, -, h⟩ := bind_eq_ok.1 h
  obtain ⟨_, -, h⟩ := bind_eq_ok.1 h
  obtain ⟨columns, -, h⟩ := bind_eq_ok.1 h
  obtain ⟨_, -, h⟩ := bind_eq_ok.1 h
  obtain ⟨_, -, h⟩ := bind_eq_ok.1 h
  obtain ⟨rows, -, h⟩ := bind_eq_ok.1 h
  obtain ⟨end?, hwalk, h⟩ := bind_eq_ok.1 h
  cases end? with
  | none => cases h
  | some p =>
    obtain ⟨hx, hy⟩ := isReal_of_walk hwalk
    obtain ⟨right, hright, h⟩ := bind_eq_ok.1 h
    obtain ⟨solid, -, h⟩ := bind_eq_ok.1 h
    cases solid with
    | true => cases h
    | false =>
      obtain ⟨bottom, hbot, -⟩ := bind_eq_ok.1 h
      exact ⟨Scalar.exists_add hx hright, Scalar.exists_add hy hbot⟩

end TileMap

/-! ## What a body needs to stand somewhere -/

namespace World

def placeOf? (w : World) (e : EntityId) : Option (Json × Json) := w.entities[e.index]?.map placeOf

def HasBox (w : World) (b : PartId) (bx : Box) : Prop :=
  ∃ e p r, w.ownerOf? b = some e ∧ w.placeOf? e = some p ∧
    w.parts[b.index]?.map (·.part.hitbox?) = some (some r) ∧ Box.place r p.1 p.2 = .ok bx

def HasGround (w : World) (map : TileMap) : Prop :=
  ∃ a g, w.area? = some a ∧ w.areas[a.index]?.map Area.ground? = some (some g) ∧
    w.grounds[g.index]? = some map

def MayStand (w : World) (b : PartId) : Prop :=
  (Game.positionIsValid b).runOn w = (.ok true, w)

lemma HasBox.unique {bx' : Box} (h : w.HasBox b bx) (h' : w.HasBox b bx') : bx = bx' := by
  obtain ⟨e, p, r, he, hp, hr, hbx⟩ := h
  obtain ⟨e', p', r', he', hp', hr', hbx'⟩ := h'
  cases he.symm.trans he'
  cases hp.symm.trans hp'
  cases hr.symm.trans hr'
  exact Except.ok.inj (hbx.symm.trans hbx')

end World

namespace Game

open World

lemma run_hitbox_eq_ok {r : Rect} : (hitbox b).runOn w = (.ok r, u) ↔
    w.parts[b.index]?.map (·.part.hitbox?) = some (some r) ∧ u = w := by
  constructor
  · intro h
    obtain ⟨p, _, hp, hbox⟩ := run_bind_eq_ok.1 h
    obtain ⟨o, _, howned, hpure⟩ := run_bind_eq_ok.1 hp
    obtain ⟨ho, rfl⟩ := run_orAbsent_eq_ok.1 howned
    cases hpure
    obtain ⟨hr, rfl⟩ := run_orAbsent_eq_ok.1 hbox
    exact ⟨by rw [ho, Option.map_some, hr], rfl⟩
  · rintro ⟨h, rfl⟩
    obtain ⟨o, ho, hr⟩ := Option.map_eq_some_iff.1 h
    rw [hitbox, bind_ok (run_part ho), hr, run_orAbsent_some]

lemma run_entityPlace_eq_ok :
    (entityPlace e).runOn w = (.ok p, u) ↔ w.placeOf? e = some p ∧ u = w := by
  constructor
  · intro h
    obtain ⟨en, _, hent, hpure⟩ := run_bind_eq_ok.1 h
    obtain ⟨hen, rfl⟩ := run_entity_eq_ok.1 hent
    cases hpure
    exact ⟨by rw [placeOf?, hen]; rfl, rfl⟩
  · rintro ⟨h, rfl⟩
    obtain ⟨en, hen, rfl⟩ := Option.map_eq_some_iff.1 h
    rw [entityPlace, bind_ok (run_entity hen)]
    rfl

lemma run_box_eq_ok : (box b).runOn w = (.ok bx, u) ↔ w.HasBox b bx ∧ u = w := by
  constructor
  · intro h
    obtain ⟨p, _, hplace, hrest⟩ := run_bind_eq_ok.1 h
    obtain ⟨e, _, hown, hent⟩ := run_bind_eq_ok.1 hplace
    obtain ⟨he, rfl⟩ := run_owner_eq_ok.1 hown
    obtain ⟨hp, rfl⟩ := run_entityPlace_eq_ok.1 hent
    obtain ⟨r, _, hbox, hlift⟩ := run_bind_eq_ok.1 hrest
    obtain ⟨hr, rfl⟩ := run_hitbox_eq_ok.1 hbox
    obtain ⟨hbx, rfl⟩ := run_lift_eq_ok.1 hlift
    exact ⟨⟨e, p, r, he, hp, hr, hbx⟩, rfl⟩
  · rintro ⟨⟨e, p, r, he, hp, hr, hbx⟩, rfl⟩
    have hplace : (place b).runOn u = (.ok p, u) := by
      rw [place, bind_ok (run_owner_eq_ok.2 ⟨he, rfl⟩)]
      exact run_entityPlace_eq_ok.2 ⟨hp, rfl⟩
    rw [box, bind_ok hplace]
    exact run_bind_eq_ok.2 ⟨r, u, run_hitbox_eq_ok.2 ⟨hr, rfl⟩, run_lift_eq_ok.2 ⟨hbx, rfl⟩⟩

lemma run_currentMap_eq_ok : currentMap.runOn w = (.ok map, u) ↔ w.HasGround map ∧ u = w := by
  constructor
  · intro h
    obtain ⟨g, _, hcur, hgr⟩ := run_bind_eq_ok.1 h
    obtain ⟨a, _, hnum, hof⟩ := run_bind_eq_ok.1 hcur
    obtain ⟨ha, rfl⟩ := run_orAbsent_eq_ok.1 hnum
    obtain ⟨ar, _, harea, hrest⟩ := run_bind_eq_ok.1 hof
    obtain ⟨har, rfl⟩ := run_orAbsent_eq_ok.1 harea
    obtain ⟨hg, rfl⟩ := run_orAbsent_eq_ok.1 hrest
    obtain ⟨hmap, rfl⟩ := run_orAbsent_eq_ok.1 hgr
    exact ⟨⟨a, g, ha, by rw [har, Option.map_some, hg], hmap⟩, rfl⟩
  · rintro ⟨⟨a, g, ha, hg, hmap⟩, rfl⟩
    obtain ⟨ar, har, hg⟩ := Option.map_eq_some_iff.1 hg
    have harea : currentArea.runOn u = (.ok a, u) := run_orAbsent_eq_ok.2 ⟨ha, rfl⟩
    have hgr : currentGround.runOn u = (.ok g, u) := by
      rw [currentGround, bind_ok harea, run_groundOf har hg]
    rw [currentMap, bind_ok hgr, run_ground hmap]

lemma run_collides_eq_ok {a : PartId} {meets : Bool} : (collides a b).runOn w = (.ok meets, u) ↔
      (∃ ax bx, w.HasBox a ax ∧ w.HasBox b bx ∧ ax.meets bx = .ok meets) ∧ u = w := by
  constructor
  · intro h
    obtain ⟨ax, _, hfst, hrest⟩ := run_bind_eq_ok.1 h
    obtain ⟨ha, rfl⟩ := run_box_eq_ok.1 hfst
    obtain ⟨bx, _, hsnd, hlift⟩ := run_bind_eq_ok.1 hrest
    obtain ⟨hb, rfl⟩ := run_box_eq_ok.1 hsnd
    obtain ⟨hmeets, rfl⟩ := run_lift_eq_ok.1 hlift
    exact ⟨⟨ax, bx, ha, hb, hmeets⟩, rfl⟩
  · rintro ⟨⟨ax, bx, ha, hb, hmeets⟩, rfl⟩
    rw [collides, bind_ok (run_box_eq_ok.2 ⟨ha, rfl⟩),
      bind_ok (run_box_eq_ok.2 ⟨hb, rfl⟩), run_lift, hmeets]

lemma run_meetsOther_eq_false {others : List PartId} :
    (meetsOther b others).runOn w = (.ok false, u) ↔
      (∀ other ∈ others, other ≠ b → (collides other b).runOn w = (.ok false, w)) ∧ u = w := by
  induction others with
  | nil => exact ⟨fun h => by cases h; exact ⟨nofun, rfl⟩, fun h => by rw [h.2]; rfl⟩
  | cons other rest ih =>
    rw [meetsOther, List.forall_mem_cons]
    by_cases hne : other ≠ b
    · rw [if_pos hne]
      constructor
      · intro h
        obtain ⟨met, v, hcoll, h⟩ := run_bind_eq_ok.1 h
        obtain rfl := (run_collides_eq_ok.1 hcoll).2
        cases met with
        | true => cases h
        | false =>
          obtain ⟨hrest, rfl⟩ := ih.1 h
          exact ⟨⟨fun _ => hcoll, hrest⟩, rfl⟩
      · rintro ⟨⟨hoth, hrest⟩, rfl⟩
        rw [bind_ok (hoth hne)]
        exact ih.2 ⟨hrest, rfl⟩
    · rw [if_neg hne, ih]
      exact ⟨fun h => ⟨⟨fun h' => absurd h' hne, h.1⟩, h.2⟩, fun h => ⟨h.1.2, h.2⟩⟩

end Game

namespace World

open Game

lemma mayStand_iff : w.MayStand b ↔ ∃ bx map, w.HasBox b bx ∧ w.HasGround map ∧
    map.rectIsSolid bx.x bx.y (.ofInt bx.w) (.ofInt bx.h) = .ok false ∧
    ∀ other ∈ w.bodies, other ≠ b → ∃ ox, w.HasBox other ox ∧ ox.meets bx = .ok false := by
  constructor
  · intro h
    obtain ⟨bx, _, hbox, hrest⟩ := run_bind_eq_ok.1 h
    obtain ⟨hbx, rfl⟩ := run_box_eq_ok.1 hbox
    obtain ⟨map, _, hmap, hsol⟩ := run_bind_eq_ok.1 hrest
    obtain ⟨hmap, rfl⟩ := run_currentMap_eq_ok.1 hmap
    obtain ⟨solid, _, hlift, hoth⟩ := run_bind_eq_ok.1 hsol
    obtain ⟨hsol, rfl⟩ := run_lift_eq_ok.1 hlift
    cases solid with
    | true => cases hoth
    | false =>
      rw [if_neg (by simp), run_get_bind] at hoth
      obtain ⟨met, _, hmeets, hpure⟩ := run_bind_eq_ok.1 hoth
      cases met with
      | true => cases hpure
      | false =>
        refine ⟨bx, map, hbx, hmap, hsol, fun other hother hne => ?_⟩
        have hcoll := (run_meetsOther_eq_false.1 hmeets).1 other hother hne
        obtain ⟨⟨ox, bx', hox, hbx', hapart⟩, -⟩ := run_collides_eq_ok.1 hcoll
        cases hbx.unique hbx'
        exact ⟨ox, hox, hapart⟩
  · rintro ⟨bx, map, hbx, hmap, hsol, hapart⟩
    have hmeets : (meetsOther b w.bodies).runOn w = (.ok false, w) :=
      run_meetsOther_eq_false.2 ⟨fun other hother hne => by
        obtain ⟨ox, hox, hmeets⟩ := hapart other hother hne
        exact run_collides_eq_ok.2 ⟨⟨ox, bx, hox, hbx, hmeets⟩, rfl⟩, rfl⟩
    rw [MayStand, positionIsValid, bind_ok (run_box_eq_ok.2 ⟨hbx, rfl⟩),
      bind_ok (run_currentMap_eq_ok.2 ⟨hmap, rfl⟩), run_lift_bind hsol,
      if_neg (by simp), run_get_bind, bind_ok hmeets]
    rfl

lemma mayStand_iff_matches :
    w.MayStand b ↔ (((positionIsValid b).runOn w).1 matches .ok true) = true := by
  have hworld : w = ((positionIsValid b).runOn w).2 := obeys_positionIsValid (R := Eq) b w
  constructor
  · intro h
    rw [h]
  · intro h
    rcases hrun : (positionIsValid b).runOn w with ⟨_ | _ | _, u⟩
    · rw [hrun] at h
      cases h
    · rw [hrun] at h
      cases h
    · rw [hrun] at hworld
      cases hworld
      exact hrun

instance : Decidable (w.MayStand b) := decidable_of_iff _ mayStand_iff_matches.symm

/-- No registered body touches a solid tile, and no two of them meet. -/
structure Clear (w : World) : Prop where
  offSolid : ∀ b ∈ w.bodies, ∃ bx map, w.HasBox b bx ∧ w.HasGround map ∧
    map.rectIsSolid bx.x bx.y (.ofInt bx.w) (.ofInt bx.h) = .ok false
  apart : ∀ a ∈ w.bodies, ∀ b ∈ w.bodies, a ≠ b → (collides a b).runOn w = (.ok false, w)

lemma clear_iff : w.Clear ↔ ∀ b ∈ w.bodies, w.MayStand b := by
  constructor
  · intro h b hb
    obtain ⟨bx, map, hbx, hmap, hsol⟩ := h.offSolid b hb
    refine mayStand_iff.2 ⟨bx, map, hbx, hmap, hsol, fun other hoth hne => ?_⟩
    obtain ⟨⟨ox, bx', hox, hbx', hmeets⟩, -⟩ :=
      run_collides_eq_ok.1 (h.apart other hoth b hb hne)
    cases hbx.unique hbx'
    exact ⟨ox, hox, hmeets⟩
  · intro h
    refine ⟨fun b hb => ?_, fun a ha b hb hne => ?_⟩
    · obtain ⟨bx, map, hbx, hmap, hsol, -⟩ := mayStand_iff.1 (h b hb)
      exact ⟨bx, map, hbx, hmap, hsol⟩
    · obtain ⟨bx, map, hbx, -, -, hapart⟩ := mayStand_iff.1 (h b hb)
      obtain ⟨ax, hax, hmeets⟩ := hapart a ha hne
      exact run_collides_eq_ok.2 ⟨⟨ax, bx, hax, hbx, hmeets⟩, rfl⟩

instance : Decidable w.Clear := decidable_of_iff _ clear_iff.symm

/-! ## What is left alone stays where it may stand -/

variable {w' : World}

lemma lt_of_placeOf? (h : w.placeOf? e = some p) : e.index < w.entities.size := by
  obtain ⟨_, hen, -⟩ := Option.map_eq_some_iff.1 h
  exact lt_of_getElem? hen

lemma HasBox.of_firm (h : w.HasBox b bx) (hfirm : Firm w w')
    (hplace : ∀ e, w.ownerOf? b = some e → e.index < w.entities.size →
      w'.placeOf? e = w.placeOf? e) : w'.HasBox b bx := by
  obtain ⟨e, p, r, he, hp, hr, hbx⟩ := h
  have hb : b.index < w.parts.size := by
    obtain ⟨_, ho, -⟩ := Option.map_eq_some_iff.1 hr
    exact lt_of_getElem? ho
  exact ⟨e, p, r, (hfirm.ownerOf?_eq hb).trans he, (hplace e he (lt_of_placeOf? hp)).trans hp,
    (hfirm.hitbox b.index hb).trans hr, hbx⟩

lemma HasGround.of_firm (h : w.HasGround map) (hfirm : Firm w w') : w'.HasGround map := by
  obtain ⟨a, g, ha, hg, hmap⟩ := h
  exact ⟨a, g, hfirm.area.trans ha, (hfirm.ground a.index).trans hg, by rw [hfirm.grounds, hmap]⟩

lemma HasBox.of_still (h : w.HasBox b bx) (hstill : Still w w') : w'.HasBox b bx :=
  h.of_firm hstill.toFirm fun e _ he => hstill.place e.index he

lemma MayStand.of_still (h : w.MayStand b) (hstill : Still w w') : w'.MayStand b := by
  obtain ⟨bx, map, hbx, hmap, hsol, hapart⟩ := mayStand_iff.1 h
  refine mayStand_iff.2
    ⟨bx, map, hbx.of_still hstill, hmap.of_firm hstill.toFirm, hsol, fun other hoth hne => ?_⟩
  obtain ⟨ox, hox, hmeets⟩ := hapart other (hstill.bodies.subset hoth) hne
  exact ⟨ox, hox.of_still hstill, hmeets⟩

end World

end TileQuest
