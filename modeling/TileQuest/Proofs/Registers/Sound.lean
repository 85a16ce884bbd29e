import Mathlib.Data.List.Nodup
import TileQuest.Proofs.Registers.Tied

/-!
# What the registers hold

Bodies, triggers and usables are registered when they are made and taken off the register when they
are broken down. They are broken down with the entity they belong to, part by part, and if one part
cannot be, the rest of the entity stays registered although it has left the area. So whether the
registers hold exactly what is in the area comes down to whether every part of every entity there
can be broken down.
-/

namespace TileQuest

variable {w : World} {g : Gist} {r : Register}

/-! ## The registers of an area -/

inductive Register where
  /-- The hitboxes that stop others. -/
  | bodies
  | triggers
  /-- What can be clicked. -/
  | usables
deriving DecidableEq

namespace Register

def list (w : World) : Register → List PartId
  | bodies => w.bodies
  | triggers => w.triggers
  | usables => w.usables

def put (w : World) (ids : List PartId) : Register → World
  | bodies => { w with bodies := ids }
  | triggers => { w with triggers := ids }
  | usables => { w with usables := ids }

def test : Register → Part → Bool
  | bodies => Part.isBody
  | triggers => Part.isTrigger
  | usables => Part.isUsable

lemma list_put (r r' : Register) (w : World) (ids : List PartId) :
    r'.list (r.put w ids) = if r = r' then ids else r'.list w := by
  cases r <;> cases r' <;> rfl

end Register

def Gist.register? : Gist → Option Register
  | body _ => some .bodies
  | trigger _ => some .triggers
  | usable => some .usables
  | _ => none

lemma Register.test_eq (r : Register) (p : Part) :
    r.test p = decide (p.gist.register? = some r) := by
  cases p with
  | combat c => rw [Part.gist_combat]; cases r <;> rfl
  | _ => cases r <;> rfl

namespace World

lemma partIs_of_gist {p : PartId} (hg : w.gist? p = some g)
    (r : Register) : w.partIs r.test p = decide (g.register? = some r) := by
  obtain ⟨o, ho, rfl⟩ := gist?_eq_some.1 hg
  rw [partIs_of ho, r.test_eq]

/-! ## What stands in the area -/

/-- A label or a bar of a player is on the screen, in an entity of its own. -/
def Tagged (w : World) (q : PartId) : Prop :=
  q ∈ w.overlay ∧ ∃ e, w.ownerOf? q = some e ∧ e.index < w.entities.size ∧
    (w.partsOf e = [] ∨ w.partsOf e = [q])

/-- The inventory window of a player is there, and all it shows is on the screen, unless it was
taken down. -/
def Windowed (w : World) (e : EntityId) : Prop :=
  e.index < w.entities.size ∧ (w.partsOf e = [] ∨ ∃ v items, w.partsOf e = [v] ∧
    w.gist? v = some (.view items) ∧ v ∈ w.active ∧ ∀ q ∈ items, q ∈ w.overlay)

structure Screened (w : World) (hud : PartId × PartId × EntityId) (bar : PartId) : Prop where
  place : w.Tagged hud.1
  message : w.Tagged hud.2.1
  window : w.Windowed hud.2.2
  bar : w.Tagged bar

/-- The entity of a part has these parts for good, unless it was taken down. -/
def Comes (w : World) (p : PartId) (parts : List (PartId × Gist)) : Prop :=
  ∃ e, w.ownerOf? p = some e ∧ e.index < w.entities.size ∧ (w.partsOf e = [] ∨
    ∀ x ∈ parts, x.1 ∈ w.partsOf e ∧ w.gist? x.1 = some x.2 ∧ x.2.isSettled = true)

/-- The enemy has a hitbox, and a weapon to fight with. -/
def Armed (w : World) (p : PartId) (combat? : Option PartId) : Prop :=
  ∃ b hitbox c weapon file, combat? = some c ∧ w.Comes p
    [(b, .body hitbox), (c, .fighter .leave (some weapon) (some (.file file)))]

/-- The player has an image and a hitbox, and can fight. -/
def Equipped (w : World) (p : PartId) (combat? : Option PartId) : Prop :=
  ∃ s b hitbox c, combat? = some c ∧ w.Comes p
    [(s, .image false), (b, .body hitbox), (c, .fighter .restart none none)]

end World

/-- A part of an entity in the area can be broken down. -/
def Gist.Ready (w : World) (p : PartId) : Gist → Prop
  | .image isOverlay => isOverlay = false ∧ p ∈ w.drawn
  | .body _ => True
  | .trigger _ => True
  | .usable => True
  | .fighter .. => p ∈ w.active
  | .enemy combat? _ _ => p ∈ w.active ∧ w.Armed p combat?
  | .player hud? bar? combat? _ => p ∈ w.active ∧ w.Equipped p combat? ∧
    ∃ hud bar, hud? = some hud ∧ bar? = some bar ∧ w.Screened hud bar
  | .placeholder => ∃ e, w.ownerOf? p = some e ∧ e.index < w.entities.size ∧ ∀ q ∈ w.partsOf e,
    (∃ isOverlay, w.gist? q = some (.image isOverlay)) ∨ w.gist? q = some .placeholder
  | _ => False

lemma Gist.ready_of_register (hr : g.register? = some r) (w : World)
    (p : PartId) : g.Ready w p := by
  cases g <;> trivial

namespace World

/-- What stands for an entity in the editor is on a tile, given by its column and row. -/
def Seated (w : World) (p : PartId) (tile : Int × Int) : Prop :=
  ∃ e en, w.ownerOf? p = some e ∧ w.entities[e.index]? = some en ∧
    en.x = .num (.int (tile.1 * 32)) ∧ en.y = .num (.int (tile.2 * 32))

def tileKey (tile : Int × Int) : Scalar := .int (tile.1 * 32 * 10000000 + tile.2 * 32)

/-- Who stands for an entity in the editor, and on which tile. -/
abbrev Seating : Type := PartId → Int × Int → Prop

def IsBare (w : World) (e : EntityId) : Prop := e.index < w.entities.size ∧ w.partsOf e = []

def Hunts (w : World) (p : PartId) (e : EntityId) : Prop :=
  w.ownerOf? p = some e ∧
    ∃ combat? other health?, w.gist? p = some (.enemy combat? (some other) health?)

lemma not_hunts {p : PartId} (hg : w.gist? p = some g)
    (hoth : ∀ combat? other health?, g ≠ .enemy combat? (some other) health?) (e : EntityId) :
    ¬ w.Hunts p e := by
  rintro ⟨-, combat?, other, health?, hp⟩
  exact hoth combat? other health? (Option.some.inj (hg.symm.trans hp))

structure Rule where
  /-- Whatever stands for an entity is on a tile. -/
  tiled : Prop
  /-- The rule is followed. -/
  allows : Seating → List Scalar → Prop
  /-- Where places do not matter, nothing about them does. -/
  loose : ¬ tiled → ∀ seating taken, allows seating taken
  leave : ∀ seating taken p key, allows seating taken → (∃ tile, seating p tile) →
    (∀ tile, seating p tile → tileKey tile = key) →
    allows (fun q tile => q ≠ p ∧ seating q tile) (taken.filter fun k => !k.same key)
  /-- Those who were taken down. -/
  gone : EntityId → Prop := fun _ => False
  /-- The enemies of those who were after somebody. -/
  hunts : PartId → EntityId → Prop := fun _ _ => False

namespace Rule

def free (tiled : Prop) : Rule where
  tiled := tiled
  allows _ _ := True
  loose _ _ _ := trivial
  leave _ _ _ _ _ _ _ := trivial

/-- Anything goes anywhere. -/
def any : Rule := free False

/-- Anything goes anywhere, after some were taken down, with enemies among them that were after
somebody. -/
def without (gone : EntityId → Prop) (hunts : PartId → EntityId → Prop) : Rule :=
  { free False with gone, hunts }

structure Past (rule : Rule) (w : World) : Prop where
  gone : ∀ e, rule.gone e → w.IsBare e
  hunts : ∀ p e, rule.hunts p e → w.Hunts p e

lemma allows_of (rule : Rule) {seating : Seating} {taken : List Scalar}
    (h : rule.tiled → rule.allows seating taken) : rule.allows seating taken := by
  by_cases htiled : rule.tiled
  · exact h htiled
  · exact rule.loose htiled seating taken

end Rule

variable {p k q : PartId} {g g' : Gist} {e : EntityId} {combat? : Option PartId}
  {live' : List PartId}

/-- Those of the list who stand for an entity in the editor. -/
def seating (w : World) (live : List PartId) : Seating :=
  fun p tile => p ∈ live ∧ w.gist? p = some .placeholder ∧ w.Seated p tile

lemma seating_nil (w : World) : w.seating [] = fun _ _ => False := by
  funext p tile
  exact propext ⟨fun h => absurd h.1 List.not_mem_nil, False.elim⟩

/-- The parts of the list are ready to be broken down, and the registers hold exactly these, in
order. What stands for entities in the editor follows the rule. -/
structure Sound (rule : Rule) (live : List PartId) (w : World) : Prop extends Tied w where
  nodup : live.Nodup
  ready : ∀ p ∈ live, ∃ g, w.gist? p = some g ∧ g.Ready w p
  registered : ∀ r : Register, r.list w = live.filter (w.partIs r.test)
  seated : rule.tiled → ∀ p ∈ live, w.gist? p = some .placeholder → ∃ tile, w.Seated p tile
  ruled : rule.allows (w.seating live) w.taken
  past : rule.Past w

/-- What stands in the area relies on a part: it is one of the list, or in the window of one. -/
def Relies (w : World) (live : List PartId) (k : PartId) : Prop :=
  k ∈ live ∨ ∃ p ∈ live, ∃ g e, w.gist? p = some g ∧ g.window? = some e ∧ k ∈ w.partsOf e

variable {rule : Rule} {live pre post : List PartId} {w w' : World}

lemma Sound.windowed (h : w.Sound rule live) (hp : p ∈ live)
    (hg : w.gist? p = some g) (he : g.window? = some e) : w.Windowed e := by
  obtain ⟨g', hg', hready⟩ := h.ready p hp
  cases hg.symm.trans hg'
  cases g with
  | player hud? bar? combat? health? =>
    obtain ⟨-, -, hud, bar, rfl, -, hscrn⟩ := hready
    cases he
    exact hscrn.window
  | _ => cases he

lemma Sound.of_relies (h : w.Sound rule live) (hk : w.Relies live k) :
    k ∈ live ∨ ∃ items, w.gist? k = some (.view items) := by
  rcases hk with hk | ⟨p, hp, g, e, hg, he, hk⟩
  · exact .inl hk
  · rcases (h.windowed hp hg he).2 with hnil | ⟨v, items, hps, hv, -, -⟩
    · rw [hnil] at hk
      cases hk
    · rw [hps, List.mem_singleton] at hk
      exact .inr ⟨items, hk ▸ hv⟩

/-! ## Steps that spare what stands in the area -/

def Hosts (w : World) (e : EntityId) : Prop :=
  ∃ p ∈ w.partsOf e, ∃ g, w.gist? p = some g ∧ g.isHost = true

/-- Whatever is done, what stands in the area does not lose what it relies on. Entities keep their
parts or lose all of them, except that the player and enemies may get more. -/
structure Spares (rule : Rule) (live : List PartId) (w w' : World) : Prop where
  entities_le : w.entities.size ≤ w'.entities.size
  gist : ∀ p ∈ live, ∀ g, w.gist? p = some g → w'.gist? p = some g
  settled : ∀ p g, g.isSettled = true → w.gist? p = some g → w'.gist? p = some g
  view : ∀ k items, w.Relies live k → w.gist? k = some (.view items) →
    (∀ q ∈ items, q ∈ w.overlay) →
      ∃ items', w'.gist? k = some (.view items') ∧ ∀ q ∈ items', q ∈ w'.overlay
  owner : ∀ p e, w.ownerOf? p = some e → w'.ownerOf? p = some e
  parts : ∀ e : EntityId, e.index < w.entities.size →
    w'.partsOf e = w.partsOf e ∨ w'.partsOf e = [] ∨ w.Hosts e ∧ w.partsOf e ⊆ w'.partsOf e
  drawn : ∀ p ∈ live, p ∈ w.drawn → p ∈ w'.drawn
  active : ∀ k, w.Relies live k → k ∈ w.active → k ∈ w'.active
  overlay : ∀ k ∈ live, ∀ g, w.gist? k = some g → ∀ q ∈ g.kept, q ∈ w.overlay → q ∈ w'.overlay
  place : rule.tiled → ∀ p ∈ live, w.gist? p = some .placeholder → ∀ e, w.ownerOf? p = some e →
    w'.entities[e.index]?.map placeOf = w.entities[e.index]?.map placeOf
  hunts : ∀ p e, rule.hunts p e → w.Hunts p e → w'.Hunts p e

lemma Spares.tagged (h : Spares rule live w w') (hg : w.gist? q = some g)
    (hshn : g.isShown = true) (hq : w.Tagged q) (hlay : q ∈ w.overlay → q ∈ w'.overlay) :
    w'.Tagged q := by
  obtain ⟨hmem, e, hown, he, hps⟩ := hq
  refine ⟨hlay hmem, e, h.owner q e hown, he.trans_le h.entities_le, ?_⟩
  rcases h.parts e he with hsame | hnil | ⟨⟨p, hp, g', hg', hhost⟩, -⟩
  · rwa [hsame]
  · exact .inl hnil
  · -- an entity with a label in it has no room for a player
    rcases hps with hnil | hone
    · rw [hnil] at hp
      cases hp
    · rw [hone, List.mem_singleton] at hp
      subst hp
      cases hg.symm.trans hg'
      rw [Gist.isHost_of_isShown hshn] at hhost
      cases hhost

lemma Spares.windowed (h : Spares rule live w w') (he : w.Windowed e)
    (hrel : ∀ k ∈ w.partsOf e, w.Relies live k) : w'.Windowed e := by
  obtain ⟨hlt, hps⟩ := he
  refine ⟨hlt.trans_le h.entities_le, ?_⟩
  rcases h.parts e hlt with hsame | hnil | ⟨⟨p, hp, g', hg', hhost⟩, -⟩
  · rw [hsame]
    rcases hps with hnil | ⟨v, items, hps, hv, hact, hits⟩
    · exact .inl hnil
    · have hrel := hrel v (hps ▸ List.mem_cons_self)
      obtain ⟨items', hv', hits'⟩ := h.view v items hrel hv hits
      exact .inr ⟨v, items', hps, hv', h.active v hrel hact, hits'⟩
  · exact .inl hnil
  · rcases hps with hnil | ⟨v, items, hone, hv, -⟩
    · rw [hnil] at hp
      cases hp
    · rw [hone, List.mem_singleton] at hp
      subst hp
      cases hv.symm.trans hg'
      cases hhost

lemma Spares.comes (h : Spares rule live w w') {parts : List (PartId × Gist)}
    (hp : w.Comes p parts) : w'.Comes p parts := by
  obtain ⟨e, hown, he, hps⟩ := hp
  refine ⟨e, h.owner p e hown, he.trans_le h.entities_le, ?_⟩
  have hkept (hsub : w.partsOf e ⊆ w'.partsOf e) (hne : w.partsOf e ≠ []) : w'.partsOf e = [] ∨
      ∀ x ∈ parts, x.1 ∈ w'.partsOf e ∧ w'.gist? x.1 = some x.2 ∧ x.2.isSettled = true := by
    refine .inr fun x hx => ?_
    obtain ⟨hmem, hg, hsett⟩ := hps.resolve_left hne x hx
    exact ⟨hsub hmem, h.settled x.1 x.2 hsett hg, hsett⟩
  rcases h.parts e he with hsame | hnil | ⟨⟨q, hq, -⟩, hsub⟩
  · by_cases hnil : w.partsOf e = []
    · exact .inl (hsame.trans hnil)
    · exact hkept (hsame ▸ List.Subset.refl _) hnil
  · exact .inl hnil
  · exact hkept hsub (List.ne_nil_of_mem hq)

section

variable (h : Spares rule live w w')
include h

lemma Spares.armed (hp : w.Armed p combat?) : w'.Armed p combat? := by
  obtain ⟨b, hitbox, c, weapon, file, hcomb, hcomes⟩ := hp
  exact ⟨b, hitbox, c, weapon, file, hcomb, h.comes hcomes⟩

lemma Spares.equipped (hp : w.Equipped p combat?) : w'.Equipped p combat? := by
  obtain ⟨s, b, hitbox, c, hcomb, hcomes⟩ := hp
  exact ⟨s, b, hitbox, c, hcomb, h.comes hcomes⟩

lemma Spares.ready (htied : w.Tied) (hp : p ∈ live)
    (hg : w.gist? p = some g) (hready : g.Ready w p) : g.Ready w' p := by
  have hrel : w.Relies live p := .inl hp
  cases g with
  | image isOverlay => exact ⟨hready.1, h.drawn p hp hready.2⟩
  | body | trigger | usable => trivial
  | fighter => exact h.active p hrel hready
  | enemy => exact ⟨h.active p hrel hready.1, h.armed hready.2⟩
  | player hud? bar? combat? health? =>
    obtain ⟨hact, hequip, hud, bar, rfl, rfl, hscrn⟩ := hready
    have htag {q : PartId} (hq : q ∈ [hud.1, hud.2.1, bar]) (htag : w.Tagged q) :
        w'.Tagged q := by
      have hkept : q ∈ (Gist.player (some hud) (some bar) combat? health?).kept := by
        simpa [Gist.kept] using hq
      obtain ⟨g', hg', hshn⟩ := htied.shown p _ hg q hkept
      exact h.tagged hg' hshn htag (h.overlay p hp _ hg q hkept)
    refine ⟨h.active p hrel hact, h.equipped hequip, hud, bar, rfl, rfl, ?_, ?_, ?_, ?_⟩
    · exact htag (by simp) hscrn.place
    · exact htag (by simp) hscrn.message
    · exact h.windowed hscrn.window fun k hk => .inr ⟨p, hp, _, _, hg, rfl, hk⟩
    · exact htag (by simp) hscrn.bar
  | placeholder =>
    obtain ⟨e, hown, he, hps⟩ := hready
    refine ⟨e, h.owner p e hown, he.trans_le h.entities_le, fun q hq => ?_⟩
    rcases h.parts e he with hsame | hnil | ⟨⟨q', hq', g', hg', hhost⟩, -⟩
    · rw [hsame] at hq
      rcases hps q hq with ⟨isOverlay, himg⟩ | hoth
      · exact .inl ⟨isOverlay, h.settled q _ rfl himg⟩
      · exact .inr (h.settled q _ rfl hoth)
    · rw [hnil] at hq
      cases hq
    · rcases hps q' hq' with ⟨isOverlay, himg⟩ | hoth
      · cases himg.symm.trans hg'
        cases hhost
      · cases hoth.symm.trans hg'
        cases hhost
  | _ => exact hready.elim

lemma Spares.placeOf_eq (htiled : rule.tiled) (hp : p ∈ live) (hg : w.gist? p = some .placeholder)
    (hown : w.ownerOf? p = some e) {en : Entity} (hen : w.entities[e.index]? = some en) :
    ∃ en', w'.entities[e.index]? = some en' ∧ en'.x = en.x ∧ en'.y = en.y := by
  have hplace := h.place htiled p hp hg e hown
  rw [hen, Option.map_some] at hplace
  obtain ⟨en', hen', hsame⟩ := Option.map_eq_some_iff.1 hplace
  obtain ⟨hx, hy⟩ := Prod.mk.inj hsame
  exact ⟨en', hen', hx, hy⟩

lemma Spares.seated (htiled : rule.tiled) (hp : p ∈ live)
    (hg : w.gist? p = some .placeholder) {tile : Int × Int} (hseat : w.Seated p tile) :
    w'.Seated p tile := by
  obtain ⟨e, en, hown, hen, hx, hy⟩ := hseat
  obtain ⟨en', hen', hx', hy'⟩ := h.placeOf_eq htiled hp hg hown hen
  exact ⟨e, en', h.owner p e hown, hen', hx'.trans hx, hy'.trans hy⟩

lemma Spares.isBare (he : w.IsBare e) : w'.IsBare e := by
  obtain ⟨hlt, hnil⟩ := he
  refine ⟨hlt.trans_le h.entities_le, ?_⟩
  rcases h.parts e hlt with hsame | hnil' | ⟨⟨p, hp, -⟩, -⟩
  · exact hsame.trans hnil
  · exact hnil'
  · rw [hnil] at hp
    cases hp

lemma Spares.past (hpast : rule.Past w) : rule.Past w' :=
  ⟨fun e he => h.isBare (hpast.gone e he), fun p e hp => h.hunts p e hp (hpast.hunts p e hp)⟩

end

/-- What is drawn, and what acts, is so still, as far as a list of parts relies on it. -/
structure KeepsShown (live : List PartId) (w w' : World) : Prop where
  drawn : ∀ p ∈ live, p ∈ w.drawn → p ∈ w'.drawn
  active : ∀ k, w.Relies live k → k ∈ w.active → k ∈ w'.active
  overlay : ∀ k g, w.Relies live k → w.gist? k = some g → ∀ q ∈ g.kept, q ∈ w.overlay → q ∈ w'.overlay

lemma KeepsShown.of_eq (h : w'.screen = w.screen) : KeepsShown live w w' := by
  simp only [screen, Prod.mk.injEq] at h
  obtain ⟨hact, hdrawn, hlay⟩ := h
  exact ⟨fun _ _ hmem => hdrawn ▸ hmem, fun _ _ hmem => hact ▸ hmem,
    fun _ _ _ _ _ _ hmem => hlay ▸ hmem⟩

lemma Spares.of_kept (hents : w.entities.size ≤ w'.entities.size)
    (hgist : ∀ p g, w.gist? p = some g → w'.gist? p = some g)
    (hown : ∀ p e, w.ownerOf? p = some e → w'.ownerOf? p = some e)
    (hps : ∀ e : EntityId, e.index < w.entities.size →
      w'.partsOf e = w.partsOf e ∨ w'.partsOf e = []) (hshn : KeepsShown live w w')
    (hplace : rule.tiled → ∀ p ∈ live, w.gist? p = some .placeholder → ∀ e, w.ownerOf? p = some e →
      w'.entities[e.index]?.map placeOf = w.entities[e.index]?.map placeOf) :
    Spares rule live w w' where
  entities_le := hents
  gist p _ := hgist p
  settled p g _ := hgist p g
  view k items hk hg hits :=
    ⟨items, hgist k _ hg, fun q hq => hshn.overlay k _ hk hg q hq (hits q hq)⟩
  owner := hown
  parts e he := (hps e he).imp id .inl
  drawn := hshn.drawn
  active := hshn.active
  overlay k hk g hg := hshn.overlay k g (.inl hk) hg
  place := hplace
  hunts p e _ hp := ⟨hown p e hp.1, by
    obtain ⟨combat?, other, health?, hg⟩ := hp.2
    exact ⟨combat?, other, health?, hgist p _ hg⟩⟩

section

variable (h : w.Sound rule live)
include h

lemma Sound.seating_eq (hspare : Spares rule live w w')
    (htiled : rule.tiled) (hsub : live' ⊆ live) : w'.seating live' = w.seating live' := by
  funext p tile
  refine propext (and_congr_right fun hp => ?_)
  obtain ⟨g, hg, -⟩ := h.ready p (hsub hp)
  constructor
  · rintro ⟨hg', e, en', hown', hen', hx', hy'⟩
    -- a part of the list that stands for an entity did so before
    cases (hspare.gist p (hsub hp) g hg).symm.trans hg'
    obtain ⟨_, e0, en, hown, hen, -, -⟩ := h.seated htiled p (hsub hp) hg
    cases hown'.symm.trans (hspare.owner p e0 hown)
    obtain ⟨en0, hen0, hx, hy⟩ := hspare.placeOf_eq htiled (hsub hp) hg hown hen
    cases hen'.symm.trans hen0
    exact ⟨hg, e, en, hown, hen, hx.symm.trans hx', hy.symm.trans hy'⟩
  · rintro ⟨hg, hseat⟩
    exact ⟨hspare.gist p (hsub hp) _ hg, hspare.seated htiled (hsub hp) hg hseat⟩

lemma Sound.narrow (htied : w'.Tied) (hspare : Spares rule live w w') (hsub : live'.Sublist live)
    (hregs : ∀ r : Register, r.list w' = live'.filter (w.partIs r.test))
    (hruled : rule.allows (w.seating live') w'.taken) : w'.Sound rule live' := by
  have hmem {p : PartId} (hp : p ∈ live') : p ∈ live := hsub.subset hp
  refine { htied with
    nodup := h.nodup.sublist hsub
    ready := fun p hp => ?_
    registered := fun r => ?_
    seated := fun htiled p hp hg' => ?_
    ruled := rule.allows_of fun htiled => h.seating_eq hspare htiled hsub.subset ▸ hruled
    past := hspare.past h.past }
  · obtain ⟨g, hg, hready⟩ := h.ready p (hmem hp)
    exact ⟨g, hspare.gist p (hmem hp) g hg, hspare.ready h.toTied (hmem hp) hg hready⟩
  · rw [hregs r]
    refine List.filter_congr fun p hp => ?_
    obtain ⟨g, hg, -⟩ := h.ready p (hmem hp)
    rw [partIs_of_gist hg, partIs_of_gist (hspare.gist p (hmem hp) g hg)]
  · obtain ⟨g, hg, -⟩ := h.ready p (hmem hp)
    cases (hspare.gist p (hmem hp) g hg).symm.trans hg'
    obtain ⟨tile, hseat⟩ := h.seated htiled p (hmem hp) hg
    exact ⟨tile, hspare.seated htiled (hmem hp) hg hseat⟩

lemma Sound.of_spares (htied : w'.Tied) (hspare : Spares rule live w w')
    (hregs : ∀ r : Register, r.list w' = r.list w) (htaken : w'.taken = w.taken) :
    w'.Sound rule live :=
  h.narrow htied hspare (List.Sublist.refl live)
    (fun r => (hregs r).trans (h.registered r)) (htaken ▸ h.ruled)

lemma Sound.of_steady (hst : Steady w w') : w'.Sound rule live := by
  obtain ⟨-, -, -, hbods, htrig, huse, htaken, -, -⟩ := frame_eq_iff.1 hst.frame
  have hth {k : PartId} (hk : w.Relies live k) : k.index < w.parts.size := by
    rcases hk with hk | ⟨p, -, -, e, -, -, hk⟩
    · obtain ⟨g, hg, -⟩ := h.ready k hk
      exact lt_of_gist? hg
    · exact h.lt_of_mem_partsOf hk
  refine h.of_spares (h.toTied.of_steady hst)
    (.of_kept hst.entities_le (fun p g hg => hst.gist?_some hg)
      (fun p e he => hst.ownerOf?_some he) (fun e he => .inl (hst.partsOf_eq he))
      ⟨fun p hp hmem => hst.drawn p hmem (hth (.inl hp)),
        fun k hk hmem => hst.active k hmem (hth hk), fun k g hk hg q hq hmem => ?_⟩
      fun htiled p hp hg e he => ?_)
    (fun r => ?_) htaken
  · obtain ⟨g', hg', -⟩ := h.shown k g hg q hq
    exact hst.overlay q hmem (lt_of_gist? hg')
  · obtain ⟨tile, e', en, he', hen, -⟩ := h.seated htiled p hp hg
    cases he.symm.trans he'
    rw [hst.entity e.index (lt_of_getElem? hen)]
  · cases r
    · exact hbods
    · exact htrig
    · exact huse

end

/-! ## Steps that leave the parts alone -/

lemma Thins.spares (h : Thins w w') (hshn : KeepsShown live w w')
    (hplace : rule.tiled → ∀ p ∈ live, w.gist? p = some .placeholder → ∀ e, w.ownerOf? p = some e →
      w'.entities[e.index]?.map placeOf = w.entities[e.index]?.map placeOf) :
    Spares rule live w w' :=
  .of_kept h.entities_le (fun p _ hg => (gist?_of_parts h.parts p).trans hg)
    (fun p _ he => (ownerOf?_of_parts h.parts p).trans he) (fun e _ => h.entity e) hshn hplace

lemma Sound.of_thins (h : w.Sound rule live) (hthins : Thins w w')
    (hspare : Spares rule live w w') (htools : ∀ e ∈ w'.tools, e ∈ w.tools)
    (hregs : ∀ r : Register, r.list w' = r.list w) (htaken : w'.taken = w.taken) :
    w'.Sound rule live :=
  h.of_spares (h.toTied.of_thins hthins fun e he => .inl (htools e he)) hspare hregs htaken

lemma Spares.of_same (hsame : (w'.parts, w'.entities, w'.screen) = (w.parts, w.entities, w.screen)) :
    Spares rule live w w' := by
  simp only [Prod.mk.injEq] at hsame
  obtain ⟨hps, hents, hscrn⟩ := hsame
  exact (Thins.of_same hps hents).spares (.of_eq hscrn) fun _ _ _ _ _ _ => by rw [hents]

section

variable (h : w.Sound rule live)
include h

lemma Sound.of_same (hsame : (w'.parts, w'.entities, w'.screen, w'.tools, w'.taken) =
      (w.parts, w.entities, w.screen, w.tools, w.taken))
    (hregs : ∀ r : Register, r.list w' = r.list w) : w'.Sound rule live := by
  simp only [Prod.mk.injEq] at hsame
  obtain ⟨hps, hents, hscrn, htools, htaken⟩ := hsame
  exact h.of_spares (h.toTied.of_same (by rw [hps, hents, htools]))
    (.of_same (by rw [hps, hents, hscrn])) hregs htaken

lemma Sound.adopt {rule' : Rule} (taken : List Scalar)
    (htiled : rule'.tiled → rule.tiled) (hruled : rule'.allows (w.seating live) taken)
    (hpast : rule'.Past w) : Sound rule' live { w with taken } := by
  have hspare : Spares rule live w { w with taken } := .of_same rfl
  refine { h.toTied.of_same (by rfl) with
    nodup := h.nodup
    ready := fun p hp => ?_
    registered := fun r => ?_
    seated := fun ht => h.seated (htiled ht)
    ruled := hruled
    past := ⟨hpast.gone, hpast.hunts⟩ }
  · obtain ⟨g, hg, hready⟩ := h.ready p hp
    exact ⟨g, hg, hspare.ready h.toTied hp hg hready⟩
  · rw [show r.list { w with taken } = r.list w by cases r <;> rfl]
    exact h.registered r

lemma Sound.clear (e : EntityId) :
    Sound rule live { w with entities := w.entities.modify e.index ({ · with parts := [] }) } := by
  have hthins : Thins w { w with entities := w.entities.modify e.index ({ · with parts := [] }) } :=
    .modifyEntity fun _ => .inr rfl
  refine h.of_thins hthins (hthins.spares (.of_eq rfl) fun _ p _ _ e' _ => ?_) (fun _ he => he) (fun _ => rfl) rfl
  exact map_getElem?_modify (fun en _ => by rfl) e'.index

lemma Sound.move {f : Entity → Entity} (hf : ∀ en, (f en).parts = en.parts)
    (he : rule.tiled → ∀ p ∈ live, w.gist? p = some .placeholder → w.ownerOf? p ≠ some e) :
    Sound rule live { w with entities := w.entities.modify e.index f } := by
  have hthins : Thins w { w with entities := w.entities.modify e.index f } :=
    .modifyEntity fun en => .inl (hf en)
  refine h.of_thins hthins (hthins.spares (.of_eq rfl) fun htiled p hp hg e' he' => ?_) (fun _ he => he) (fun _ => rfl) rfl
  have hne : e.index ≠ e'.index := fun heq =>
    he htiled p hp hg (he'.trans (congrArg some (EntityId.eq_of_index heq).symm))
  rw [Array.getElem?_modify, if_neg hne]

lemma Sound.of_screen
    (hsame : (w'.parts, w'.entities, w'.tools, w'.taken) = (w.parts, w.entities, w.tools, w.taken))
    (hregs : ∀ r : Register, r.list w' = r.list w)
    (hshn : KeepsShown live w w') : w'.Sound rule live := by
  simp only [Prod.mk.injEq] at hsame
  obtain ⟨hps, hents, htools, htaken⟩ := hsame
  have hthins : Thins w w' := .of_same hps hents
  exact h.of_thins hthins (hthins.spares hshn fun _ _ _ _ _ _ => by rw [hents])
    (fun e he => htools ▸ he) hregs htaken

lemma Sound.erase_active (hq : ¬ w.Relies live q) :
    Sound rule live { w with active := w.active.erase q } := by
  refine h.of_screen rfl (fun r => by cases r <;> rfl) ⟨fun _ _ hmem => hmem, fun k hk hmem => ?_,
    fun _ _ _ _ _ _ hmem => hmem⟩
  have hne : k ≠ q := fun heq => hq (heq ▸ hk)
  exact (List.mem_erase_of_ne hne).2 hmem

lemma Sound.erase_overlay (hq : ∀ k g, w.Relies live k → w.gist? k = some g → q ∉ g.kept) :
    Sound rule live { w with overlay := w.overlay.erase q } := by
  refine h.of_screen rfl (fun r => by cases r <;> rfl) ⟨fun _ _ hmem => hmem, fun _ _ hmem => hmem,
    fun k g hk hg q' hq' hmem => ?_⟩
  have hne : q' ≠ q := fun heq => hq k g hk hg (heq ▸ hq')
  exact (List.mem_erase_of_ne hne).2 hmem

lemma Sound.erase_drawn (hq : q ∉ live) :
    Sound rule live { w with drawn := w.drawn.erase q } := by
  refine h.of_screen rfl (fun r => by cases r <;> rfl) ⟨fun p hp hmem => ?_, fun _ _ hmem => hmem,
    fun _ _ _ _ _ _ hmem => hmem⟩
  have hne : p ≠ q := fun heq => hq (heq ▸ hp)
  exact (List.mem_erase_of_ne hne).2 hmem

end

/-! ## Parts that come to the list and leave it -/

lemma erase_filter_middle {test : PartId → Bool} (hp : test p = true)
    (hpre : p ∉ pre) : ((pre ++ p :: post).filter test).erase p = (pre ++ post).filter test := by
  have hnot : p ∉ pre.filter test := fun hmem => hpre (List.mem_filter.1 hmem).1
  rw [List.filter_append, List.filter_cons_of_pos hp, List.erase_append_right _ hnot,
    List.erase_cons_head, List.filter_append]

lemma mem_middle : q ∈ pre ++ p :: post ↔ q = p ∨ q ∈ pre ++ post :=
  List.perm_middle.mem_iff.trans List.mem_cons

lemma sublist_middle (p : PartId) : (pre ++ post).Sublist (pre ++ p :: post) :=
  (List.sublist_cons_self p post).append_left pre

lemma Sound.notMem_of_middle (h : w.Sound rule (pre ++ p :: post)) :
    p ∉ pre ++ post := (List.nodup_middle.1 h.nodup).notMem

lemma seating_middle (hp : w.gist? p ≠ some .placeholder) :
    w.seating (pre ++ p :: post) = w.seating (pre ++ post) := by
  funext q tile
  refine propext (and_congr_left fun ⟨hgq, _⟩ => ?_)
  have hne : q ≠ p := by
    rintro rfl
    exact hp hgq
  rw [mem_middle, or_iff_right hne]

lemma Sound.leave (h : w.Sound rule (pre ++ p :: post))
    (hg : w.gist? p = some g) (hoth : rule.tiled → g ≠ .placeholder)
    (hsame : (w'.parts, w'.entities, w'.screen, w'.tools, w'.taken) =
      (w.parts, w.entities, w.screen, w.tools, w.taken))
    (hregs : ∀ r : Register, r.list w' =
      if g.register? = some r then (r.list w).erase p else r.list w) :
    w'.Sound rule (pre ++ post) := by
  simp only [Prod.mk.injEq] at hsame
  obtain ⟨hps, hents, hscrn, htools, htaken⟩ := hsame
  have hpre : p ∉ pre := fun hmem => h.notMem_of_middle (List.mem_append_left _ hmem)
  refine h.narrow (h.toTied.of_same (by rw [hps, hents, htools]))
    (.of_same (by rw [hps, hents, hscrn])) (sublist_middle p) (fun r => ?_)
    (rule.allows_of fun htiled => ?_)
  · have hp := partIs_of_gist hg r
    rw [hregs r, h.registered r]
    split
    · rename_i hr
      exact erase_filter_middle (hp.trans (decide_eq_true hr)) hpre
    · rename_i hr
      simp [hp, hr]
  · rw [htaken, ← seating_middle fun heq => hoth htiled (Option.some.inj (hg.symm.trans heq))]
    exact h.ruled

lemma Sound.unseat (h : w.Sound rule (pre ++ p :: post))
    (hg : w.gist? p = some .placeholder) {key : Scalar}
    (hkey : rule.tiled → ∀ tile, w.Seated p tile → tileKey tile = key) :
    Sound rule (pre ++ post) { w with taken := w.taken.filter fun k => !k.same key } := by
  refine h.narrow (h.toTied.of_same (by rfl)) (.of_same (by rfl)) (sublist_middle p) (fun r => ?_)
    (rule.allows_of fun htiled => ?_)
  · have hp : w.partIs r.test p = false := partIs_of_gist hg r
    change r.list w = _
    rw [h.registered r]
    simp [hp]
  · have hmem : p ∈ pre ++ p :: post := mem_middle.2 (.inl rfl)
    obtain ⟨tile, hseat⟩ := h.seated htiled p hmem hg
    have hleft : w.seating (pre ++ post) =
        fun q tile' => q ≠ p ∧ w.seating (pre ++ p :: post) q tile' := by
      funext q tile'
      refine propext ⟨fun ⟨hq, hrest⟩ => ⟨?_, mem_middle.2 (.inr hq), hrest⟩,
        fun ⟨hne, hq, hrest⟩ => ⟨(mem_middle.1 hq).resolve_left hne, hrest⟩⟩
      rintro rfl
      exact h.notMem_of_middle hq
    rw [hleft]
    exact rule.leave _ _ p key h.ruled ⟨tile, hmem, hg, hseat⟩ fun tile' hp =>
      hkey htiled tile' hp.2.2

section

variable (h : w.Sound rule (pre ++ post)) (hp : p ∉ pre ++ post) (hg : w.gist? p = some g)
  (hready : g.Ready w p) (hregister : g.register? = none)
include h hp hg hready hregister

lemma Sound.enter (hseated : rule.tiled → g = .placeholder → ∃ tile, w.Seated p tile)
    (hruled : rule.allows (w.seating (pre ++ p :: post)) w.taken) :
    w.Sound rule (pre ++ p :: post) := by
  refine { h.toTied with
    nodup := List.nodup_middle.2 (List.nodup_cons.2 ⟨hp, h.nodup⟩)
    ready := fun q hq => ?_
    registered := fun r => ?_
    seated := fun htiled q hq hgq => ?_
    ruled := hruled
    past := h.past }
  · rcases mem_middle.1 hq with rfl | hq
    · exact ⟨g, hg, hready⟩
    · exact h.ready q hq
  · have hp : w.partIs r.test p = false := by
      rw [partIs_of_gist hg, hregister]
      rfl
    rw [h.registered r]
    simp [hp]
  · rcases mem_middle.1 hq with rfl | hq
    · exact hseated htiled (Option.some.inj (hg.symm.trans hgq))
    · exact h.seated htiled q hq hgq

lemma Sound.enterPlain (hoth : g ≠ .placeholder) : w.Sound rule (pre ++ p :: post) := by
  refine h.enter hp hg hready hregister (fun _ heq => absurd heq hoth) ?_
  rw [seating_middle fun heq => hoth (Option.some.inj (hg.symm.trans heq))]
  exact h.ruled

end

/-! ## Parts and entities that are made -/

lemma Sound.lt_of_mem (h : w.Sound rule live) (hp : p ∈ live) : p.index < w.parts.size := by
  obtain ⟨g, hg, -⟩ := h.ready p hp
  exact lt_of_gist? hg

section

variable (hk : k ∉ live) (htakes : w.Takes k g') (hch : Changes w w' k g')
  (hv : ∀ items, w.gist? k = some (.view items) → (∀ q ∈ items, q ∈ w.overlay) →
    ∃ items', g' = .view items' ∧ ∀ q ∈ items', q ∈ w.overlay)
  (hidle : ∀ e, rule.hunts k e → ¬ w.Hunts k e)
include hk htakes hch hv hidle

lemma Changes.spares (hsame : w'.screen = w.screen) : Spares rule live w w' := by
  simp only [Prod.mk.injEq, screen] at hsame
  obtain ⟨hact, hdrawn, hlay⟩ := hsame
  have hents : w'.entities = w.entities := (Prod.mk.inj hch.same).1
  refine
    { entities_le := Nat.le_of_eq (by rw [hents])
      gist := fun p hp g hg => (hch.gist p fun heq => hk (heq ▸ hp)).trans hg
      settled := fun p g hsett hg => (hch.gist p (htakes.ne hg hsett)).trans hg
      view := fun p items _ hg hits => ?_
      owner := hch.owner
      parts := fun e _ => .inl (hch.partsOf_eq e)
      drawn := fun _ _ hmem => hdrawn ▸ hmem
      active := fun _ _ hmem => hact ▸ hmem
      overlay := fun _ _ _ _ _ _ hmem => hlay ▸ hmem
      place := fun _ _ _ _ _ _ => by rw [hents]
      hunts := fun p e hp hhunts => ?_ }
  · rw [hlay]
    by_cases hp : p = k
    · subst hp
      obtain ⟨items', rfl, hits'⟩ := hv items hg hits
      exact ⟨items', hch.new, hits'⟩
    · exact ⟨items, (hch.gist p hp).trans hg, hits⟩
  · obtain ⟨hown, combat?, other, health?, hg⟩ := id hhunts
    have hne : p ≠ k := by
      rintro rfl
      exact hidle e hp hhunts
    exact ⟨hch.owner p e hown, combat?, other, health?, (hch.gist p hne).trans hg⟩

lemma Sound.change (h : w.Sound rule live) (hsame : (w'.screen, w'.taken) = (w.screen, w.taken))
    (hregs : ∀ r : Register, r.list w' = r.list w) : w'.Sound rule live := by
  obtain ⟨hscrn, htaken⟩ := Prod.mk.inj hsame
  exact h.of_spares (h.toTied.change htakes hch)
    (hch.spares hk htakes hv hidle hscrn) hregs htaken

end

section

variable (h : w.Sound rule live)
include h

lemma Sound.withPart {p : Part} (hfit : p.Fit)
    (htakes : w.Takes ⟨w.parts.size⟩ p.gist) : (w.withPart p).Sound rule live := by
  refine h.change (fun hmem => (h.lt_of_mem hmem).false) htakes
    (changes_withPart h.toTied hfit) (fun items hg => ?_) (fun e _ hhunts => ?_) rfl
    fun r => by cases r <;> rfl
  · exact absurd (lt_of_gist? hg) (Nat.lt_irrefl _)
  · exact absurd (lt_of_ownerOf? hhunts.1) (Nat.lt_irrefl _)

lemma Sound.enroll (hp : p ∉ live) (hg : w.gist? p = some g) (hr : g.register? = some r) :
    Sound rule (live ++ [p]) (r.put w (r.list w ++ [p])) := by
  have hsame : ((r.put w (r.list w ++ [p])).parts, (r.put w (r.list w ++ [p])).entities,
      (r.put w (r.list w ++ [p])).screen, (r.put w (r.list w ++ [p])).tools,
      (r.put w (r.list w ++ [p])).taken) = (w.parts, w.entities, w.screen, w.tools, w.taken) := by
    cases r <;> rfl
  simp only [Prod.mk.injEq] at hsame
  obtain ⟨hps, hents, hscrn, htools, htaken⟩ := hsame
  have hspare : Spares rule live w (r.put w (r.list w ++ [p])) :=
    .of_same (by rw [hps, hents, hscrn])
  have hgist (q : PartId) : (r.put w (r.list w ++ [p])).gist? q = w.gist? q := gist?_of_parts hps q
  have hoth : g ≠ .placeholder := by
    rintro rfl
    cases hr
  refine { h.toTied.of_same (by rw [hps, hents, htools]) with
    nodup := List.nodup_append.2 ⟨h.nodup, List.nodup_singleton p, ?_⟩
    ready := fun q hq => ?_
    registered := fun r' => ?_
    seated := fun htiled q hq hgq => ?_
    ruled := rule.allows_of fun htiled => ?_
    past := hspare.past h.past }
  · rintro q hq q' hq' rfl
    exact hp (List.mem_singleton.1 hq' ▸ hq)
  · rw [hgist]
    rcases List.mem_append.1 hq with hq | hq
    · obtain ⟨g', hg', hready⟩ := h.ready q hq
      exact ⟨g', hg', hspare.ready h.toTied hq hg' hready⟩
    · rw [List.mem_singleton.1 hq]
      exact ⟨g, hg, Gist.ready_of_register hr _ p⟩
  · have hpartIs : (r.put w (r.list w ++ [p])).partIs r'.test = w.partIs r'.test := by
      funext q
      rw [partIs, hps, partIs]
    rw [hpartIs, r.list_put, List.filter_append, ← h.registered r', List.filter_singleton,
      partIs_of_gist hg, hr]
    split
    · rename_i heq
      subst heq
      simp
    · rename_i hne
      simp [hne]
  · rw [hgist] at hgq
    rcases List.mem_append.1 hq with hq | hq
    · obtain ⟨tile, hseat⟩ := h.seated htiled q hq hgq
      exact ⟨tile, hspare.seated htiled hq hgq hseat⟩
    · rw [List.mem_singleton.1 hq, hg] at hgq
      exact absurd (Option.some.inj hgq) hoth
  · have hplain : (r.put w (r.list w ++ [p])).gist? p ≠ some .placeholder := fun heq =>
      hoth (Option.some.inj ((hgist p).trans hg |>.symm.trans heq))
    rw [htaken, seating_middle hplain, List.append_nil,
      h.seating_eq hspare htiled (List.Subset.refl live)]
    exact h.ruled

lemma Sound.placed {ids : List PartId}
    (hids : ∀ p ∈ ids, p.index < w.parts.size ∧ w.ownerOf? p = none)
    (hlv : ∀ p ∈ ids, ∀ g, w.gist? p = some g → g.isLeaver = false) (x y : Json) :
    (w.placed ids x y).Sound rule live := by
  refine h.of_spares (h.toTied.placed hids hlv x y)
    (.of_kept (by simp [World.placed, given]) (fun p g hg => (gist?_given _ ids _ p).trans hg)
      (fun p e he => ?_) (fun e he => .inl (partsOf_placed_of_lt he x y)) (.of_eq rfl)
      fun htiled p hp hg e he => ?_)
    (fun r => by cases r <;> rfl) rfl
  · have hnot : p ∉ ids := fun hmem => by
      rw [(hids p hmem).2] at he
      cases he
    exact (ownerOf?_given_of_notMem _ _ hnot).trans he
  · obtain ⟨tile, e', en, he', hen, -⟩ := h.seated htiled p hp hg
    cases he.symm.trans he'
    exact congrArg (Option.map placeOf) (getElem?_push_of_lt (lt_of_getElem? hen))

lemma Sound.attached
    (hnob : w.ownerOf? p = none) (hg : w.gist? p = some g) (hpl : g.isPlayer = false)
    (hlv : g.isLeaver = true → (∀ q ∈ w.partsOf e, ∀ g, w.gist? q = some g → g.isPlayer = false) ∧
      ∀ k combat? health?, w.gist? k ≠ some (.enemy combat? (some e) health?))
    (htools : e ∉ w.tools) (hhost : w.Hosts e) : (w.attached e p).Sound rule live := by
  have hps (e' : EntityId) : (w.attached e p).partsOf e' = w.partsOf e' ∨
      (w.attached e p).partsOf e' = [] ∨
        w.Hosts e' ∧ w.partsOf e' ⊆ (w.attached e p).partsOf e' := by
    by_cases he' : e' = e
    · subst he'
      obtain ⟨q, hq, -⟩ := id hhost
      rw [partsOf_attached_self (lt_of_mem_partsOf hq)]
      exact .inr (.inr ⟨hhost, List.subset_append_left _ _⟩)
    · exact .inl (partsOf_attached_of_ne he' p)
  have hgist (q : PartId) : (w.attached e p).gist? q = w.gist? q := gist?_attached w e p q
  have hown (q : PartId) (e' : EntityId) (he' : w.ownerOf? q = some e') :
      (w.attached e p).ownerOf? q = some e' := by
    have hne : q ≠ p := fun heq => by
      rw [heq, hnob] at he'
      cases he'
    exact (ownerOf?_withOwner_of_ne hne _).trans he'
  exact h.of_spares (h.toTied.attached (lt_of_gist? hg) hnob hg hpl hlv htools)
    { entities_le := by simp [World.attached]
      gist := fun q _ g' hg' => (hgist q).trans hg'
      settled := fun q g' _ hg' => (hgist q).trans hg'
      view := fun k items _ hk hits => ⟨items, (hgist k).trans hk, hits⟩
      owner := hown
      parts := fun e' _ => hps e'
      drawn := fun _ _ hmem => hmem
      active := fun _ _ hmem => hmem
      overlay := fun _ _ _ _ _ _ hmem => hmem
      place := fun _ _ _ _ e' _ => map_getElem?_modify (fun _ _ => by rfl) e'.index
      hunts := fun q e' _ hq => ⟨hown q e' hq.1, by simpa only [hgist] using hq.2⟩ }
    (fun r => by cases r <;> rfl) rfl

end

end World

end TileQuest
