import Mathlib.Algebra.BigOperators.Group.List.Basic
import Mathlib.Data.List.Pairwise
import TileQuest.Proofs.Bodies.Standing
import TileQuest.Proofs.Items.Giving
import TileQuest.Proofs.Play.Teleports

/-!
# Picking items up

At the end of a frame the player walks over the triggers and picks up the items among them that are
met. As many as fit go into the inventory, the rest stays on the ground, and where nothing is left
the entity leaves the area, and its trigger the register. So the register shrinks under the walk,
and the trigger behind one that went is passed over in this frame.
-/

namespace TileQuest

variable {bag' bag : Bag} {t' p body t q : PartId} {e' me e : EntityId} {item' item : ItemType}
variable {n' n left : Int} {w v u : World} {items : List PartId} {i : Nat} {o : Owned}

def Part.quantity (item : ItemType) : Part → Int
  | .trigger _ (.dropped t (.num (.int n))) => if t = item then n else 0
  | _ => 0

structure ItemType.IsStackable (item : ItemType) : Prop where
  size : ∃ size : Int, item.stackSize = .ofInt size ∧ 1 ≤ size
  icon : Image.IsKnown item.icon

lemma ItemType.IsStackable.isShowable {item : ItemType} (h : item.IsStackable) : item.IsShowable := by
  obtain ⟨size, hsize, -⟩ := h.size
  exact ⟨⟨size, hsize⟩, h.icon⟩

namespace World

variable {P : PartId → Prop}
/-! ## Items on the ground -/

def quantity (w : World) (item : ItemType) (p : PartId) : Int :=
  (w.parts[p.index]?.map fun o => o.part.quantity item).getD 0

/-- How many items of a type lie on the ground in the area. -/
def lying (w : World) (item : ItemType) : Int := (w.live.map (w.quantity item)).sum

/-- An image in the world, which can be taken down. -/
def IsLook (w : World) (q : PartId) : Prop :=
  q ∈ w.drawn ∧ ∃ o s, w.parts[q.index]? = some o ∧ o.lost = [] ∧ o.part = .sprite s ∧
    s.isOverlay = false

/-- Some items of a type lie on the ground: an entity of the area is their trigger and its images. -/
structure Lies (w : World) (t : PartId) (e : EntityId) (item : ItemType) (n : Int) : Prop where
  trigger : ∃ o hitbox, w.parts[t.index]? = some o ∧ o.lost = [] ∧ o.owner? = some e ∧
    o.part = .trigger hitbox (.dropped item (.ofInt n))
  listed : t ∈ w.triggers
  present : e ∈ w.present
  mem : t ∈ w.partsOf e
  looks : ∀ q ∈ w.partsOf e, q ≠ t → w.IsLook q

/-- A player is in an area and has an inventory that is in order. -/
structure Roams (w : World) (me : EntityId) (bag : Bag) (items : List PartId) : Prop where
  here : ∀ e ∈ w.present, e.index < w.entities.size
  there : ∀ p ∈ w.live, p.index < w.parts.size
  nodup : w.live.Nodup
  distinct : w.triggers.Nodup
  player : ∃ p ∈ w.partsOf me, w.partIs Part.isPlayer p = true
  furnished : w.Furnished bag items
  wellFormed : bag.inventory.WellFormed

/-- The player is about to walk over the triggers, which are all items on the ground. -/
structure Gathers (w : World) (body : PartId) (me : EntityId) (bag : Bag) (items : List PartId) :
    Prop extends Roams w me bag items where
  lies : ∀ t ∈ w.triggers, ∃ e item n, w.Lies t e item n ∧ item.IsStackable ∧ 1 ≤ n
  tells : ∀ t ∈ w.triggers, w.Meets body t ∨ w.Misses body t

lemma quantity_of (ho : w.parts[p.index]? = some o) (item : ItemType) :
    w.quantity item p = o.part.quantity item := by
  rw [quantity, ho]
  rfl

lemma IsLook.quantity (h : w.IsLook q) (item : ItemType) : w.quantity item q = 0 := by
  obtain ⟨-, o, s, ho, -, hp, -⟩ := h
  rw [quantity_of ho, hp]
  rfl

lemma Lies.quantity (h : w.Lies t e item n) (other : ItemType) :
    w.quantity other t = if item = other then n else 0 := by
  obtain ⟨o, hitbox, ho, -, -, hp⟩ := h.trigger
  rw [quantity_of ho, hp]
  rfl

lemma Lies.mem_live (h : w.Lies t e item n) : t ∈ w.live := World.mem_live.2 ⟨e, h.present, h.mem⟩

lemma IsLook.ne (h : w.IsLook q) (ht : w.Lies t e item n) : q ≠ t := by
  rintro rfl
  obtain ⟨-, o, s, ho, -, hp, -⟩ := h
  obtain ⟨o', hitbox, ho', -, -, hp'⟩ := ht.trigger
  cases ho.symm.trans ho'
  cases hp.symm.trans hp'

section

variable (h : w.Lies t e item n)
include h

lemma Lies.entity_ne (h' : w.Lies t' e' item' n') (hne : t' ≠ t) : e' ≠ e := by
  rintro rfl
  exact (h.looks t' h'.mem hne).ne h' rfl

lemma Lies.unique (h' : w.Lies t e' item' n') : e' = e ∧ item' = item ∧ n' = n := by
  obtain ⟨o, hitbox, ho, -, hown, hp⟩ := h.trigger
  obtain ⟨o', hitbox', ho', -, hown', hp'⟩ := h'.trigger
  cases ho.symm.trans ho'
  cases hown.symm.trans hown'
  cases hp.symm.trans hp'
  exact ⟨rfl, rfl, rfl⟩

lemma Lies.not_isTeleporter : ¬ w.IsTeleporter t := by
  obtain ⟨o, hitbox, ho, -, -, hp⟩ := h.trigger
  rw [IsTeleporter, partIs_of ho, hp]
  exact Bool.false_ne_true

lemma Lies.not_player (hp : p ∈ w.partsOf e) : w.partIs Part.isPlayer p = false := by
  by_cases heq : p = t
  · subst heq
    obtain ⟨o, hitbox, ho, -, -, hpart⟩ := h.trigger
    rw [partIs_of ho, hpart]
    rfl
  · obtain ⟨-, o, s, ho, -, hpart, -⟩ := h.looks p hp heq
    rw [partIs_of ho, hpart]
    rfl

end

/-! ## The same ground -/

structure SameGround (P : PartId → Prop) (w u : World) : Prop where
  registers : (u.area?, u.areas, u.triggers, u.drawn) = (w.area?, w.areas, w.triggers, w.drawn)
  entities : ∀ i < w.entities.size, u.entities[i]? = w.entities[i]?
  size : w.parts.size ≤ u.parts.size
  parts : ∀ p : PartId, p.index < w.parts.size → ¬ P p → u.parts[p.index]? = w.parts[p.index]?

lemma Supplied.sameGround {viewer? : Option PartId} (h : Supplied viewer? items w u) :
    SameGround (· ∈ viewer?) w u where
  registers := h.field_eq (fun x => (x.area?, x.areas, x.triggers, x.drawn)) fun _ => rfl
  entities := h.entities
  size := h.size
  parts := h.parts

namespace SameGround

variable (h : SameGround P w u)

include h

lemma triggers_eq : u.triggers = w.triggers := congrArg (·.2.2.1) h.registers

lemma drawn_eq : u.drawn = w.drawn := congrArg (·.2.2.2) h.registers

lemma present_eq : u.present = w.present := by
  have ha : u.area? = w.area? := congrArg (·.1) h.registers
  have has : u.areas = w.areas := congrArg (·.2.1) h.registers
  rw [World.present, ha, has, World.present]

lemma partsOf_eq (he : e.index < w.entities.size) : u.partsOf e = w.partsOf e := by
  rw [partsOf, h.entities e.index he, partsOf]

lemma live_eq (hhere : ∀ e ∈ w.present, e.index < w.entities.size) : u.live = w.live := by
  rw [live, h.present_eq, live]
  exact List.flatMap_congr fun e he => h.partsOf_eq (hhere e he)

lemma part_eq (ho : w.parts[p.index]? = some o) (hp : ¬ P p) : u.parts[p.index]? = some o :=
  (h.parts p (lt_of_getElem? ho) hp).trans ho

lemma altered (t : PartId) (f : Part → Part) :
    SameGround (fun p => P p ∨ p = t) w (u.altered t f) where
  registers := h.registers
  entities := h.entities
  size := by
    rw [World.altered, Array.size_modify]
    exact h.size
  parts p hp hnot := by
    rw [not_or] at hnot
    exact (getElem?_altered_of_ne hnot.2 f).trans (h.parts p hp hnot.1)

lemma isLook (hq : w.IsLook q) (hnot : ¬ P q) : u.IsLook q := by
  obtain ⟨hdrawn, o, s, ho, hrest⟩ := hq
  exact ⟨h.drawn_eq ▸ hdrawn, o, s, h.part_eq ho hnot, hrest⟩

end SameGround

lemma Furnished.of_screen (h : w.Furnished bag items)
    (hsame : (u.bags, u.fonts, u.parts, u.overlay) = (w.bags, w.fonts, w.parts, w.overlay)) :
    u.Furnished bag items := by
  simp only [Prod.mk.injEq] at hsame
  obtain ⟨hbags, hfonts, hps, hlay⟩ := hsame
  refine ⟨hbags ▸ h.holds, h.counted, by rw [Legible, hfonts]; exact h.legible, fun v hv => ?_⟩
  obtain ⟨hp, hnd, hlist⟩ := h.viewed v hv
  exact ⟨by rw [hps]; exact hp, hnd, hlay ▸ hlist⟩

/-- The parts that a step may change when some items are picked up: their trigger, and the window of
the inventory. -/
def IsStirred (bag : Bag) (t p : PartId) : Prop := p ∈ bag.viewer? ∨ p = t

lemma Furnished.not_isStirred (h : w.Furnished bag items)
    (ho : w.parts[p.index]? = some o) (hview : ∀ view, o.part ≠ .inventoryView view) (hne : p ≠ t) :
    ¬ IsStirred bag t p := by
  rintro (hv | heq)
  · obtain ⟨o', view, ho', hp, -⟩ := (h.viewed p hv).part
    cases ho.symm.trans ho'
    exact hview view hp
  · exact hne heq

section Stirred

variable (hroams : w.Roams me bag items) (hsame : SameGround (IsStirred bag t) w u)

include hroams hsame

lemma SameGround.isLook_of_ne (hq : w.IsLook q) (hne : q ≠ t) : u.IsLook q := by
  obtain ⟨o, s, ho, hlost, hp, hover⟩ := hq.2
  exact hsame.isLook hq (hroams.furnished.not_isStirred ho (by rw [hp]; nofun) hne)

lemma SameGround.lies_of_ne
    (h : w.Lies t' e' item' n') (hlies : w.Lies t e item n) (hne : t' ≠ t) : u.Lies t' e' item' n' := by
  obtain ⟨o, hitbox, ho, hlost, hown, hp⟩ := h.trigger
  have hps := hsame.partsOf_eq (hroams.here e' h.present)
  refine ⟨⟨o, hitbox, ?_, hlost, hown, hp⟩, hsame.triggers_eq ▸ h.listed, hsame.present_eq ▸ h.present,
    hps ▸ h.mem, fun q hq hne' => ?_⟩
  · exact hsame.part_eq ho (hroams.furnished.not_isStirred ho (by rw [hp]; nofun) hne)
  · have hlook := h.looks q (hps ▸ hq) hne'
    exact hsame.isLook_of_ne hroams hlook (hlook.ne hlies)

lemma SameGround.lies_self {left : Int} {hitbox : Rect}
    (ht : u.parts[t.index]? = some { o with part := .trigger hitbox (.dropped item (.ofInt left)) })
    (hlost : o.lost = []) (hown : o.owner? = some e) (h : w.Lies t e item n) :
    u.Lies t e item left := by
  have hps := hsame.partsOf_eq (hroams.here e h.present)
  refine ⟨⟨_, hitbox, ht, hlost, hown, rfl⟩, hsame.triggers_eq ▸ h.listed,
    hsame.present_eq ▸ h.present, hps ▸ h.mem, fun q hq hne' => ?_⟩
  have hlook := h.looks q (hps ▸ hq) hne'
  exact hsame.isLook_of_ne hroams hlook (hlook.ne h)

lemma SameGround.player_eq (hpl : w.partIs Part.isPlayer p = true)
    (hlies : w.Lies t e item n) : u.partIs Part.isPlayer p = true := by
  obtain ⟨o, ho⟩ : ∃ o, w.parts[p.index]? = some o :=
    ⟨_, Array.getElem?_eq_getElem (lt_of_partIs hpl)⟩
  have hpart : o.part.isPlayer = true := (partIs_of ho _).symm.trans hpl
  have hne : p ≠ t := by
    rintro rfl
    cases (hlies.not_player hlies.mem).symm.trans hpl
  have hv : ∀ view, o.part ≠ .inventoryView view := fun view hp => by
    rw [hp] at hpart
    cases hpart
  rwa [partIs_of (hsame.part_eq ho (hroams.furnished.not_isStirred ho hv hne))]

lemma SameGround.quantity_of_ne {items' : List PartId} (hu : u.Furnished bag' items')
    (hviewer : bag'.viewer? = bag.viewer?) (hp : p ∈ w.live) (hne : p ≠ t)
    (other : ItemType) : u.quantity other p = w.quantity other p := by
  by_cases hv : p ∈ bag.viewer?
  · obtain ⟨o, view, ho, hpart, -⟩ := (hroams.furnished.viewed p hv).part
    obtain ⟨o', view', ho', hpart', -⟩ := (hu.viewed p (hviewer ▸ hv)).part
    rw [quantity_of ho, hpart, quantity_of ho', hpart']
    rfl
  · have hnot : ¬ IsStirred bag t p := fun h => h.elim hv hne
    rw [quantity, hsame.parts p (hroams.there p hp) hnot, quantity]

end Stirred

lemma sum_map_add_of_ne {ids : List PartId} (hnd : ids.Nodup) (ht : t ∈ ids) {f g : PartId → Int}
    (hfg : ∀ p ∈ ids, p ≠ t → f p = g p) : (ids.map f).sum + g t = (ids.map g).sum + f t := by
  have hrest : (ids.erase t).map f = (ids.erase t).map g := List.map_congr_left fun p hp => by
    obtain ⟨hne, hmem⟩ := hnd.mem_erase_iff.1 hp
    exact hfg p hmem hne
  rw [← List.sum_map_erase f ht, ← List.sum_map_erase g ht, hrest]
  omega

/-! ## Taking an item away -/

/-- The world after the entity of an item was removed, with these images left. -/
def lifted (w : World) (a : AreaId) (e : EntityId) (t : PartId) (drawn : List PartId) : World :=
  ({ w.departed a e with triggers := w.triggers.erase t, drawn } : World).cleared e

end World

namespace Game

open World

lemma run_breakDown_look (h : w.IsLook q) :
    (breakDown q).runOn w = (.ok (), { w with drawn := w.drawn.erase q }) := by
  obtain ⟨hdrawn, o, s, ho, hlost, hp, hover⟩ := h
  rw [run_breakDown ho hlost, run_breakDownFully ho (by rw [hp]; rfl), breakDownPlain,
    bind_ok (run_part ho), hp]
  change (delist q s.isOverlay).runOn w = _
  rw [hover]
  exact run_delist_drawn hdrawn

lemma run_breakDown_looks {qs : List PartId} (hqs : ∀ q ∈ qs, w.IsLook q) (hnd : qs.Nodup) :
    (qs.forM breakDown).runOn w = (.ok ⟨⟩, { w with drawn := qs.foldl List.erase w.drawn }) := by
  induction qs generalizing w with
  | nil => rfl
  | cons q qs ih =>
    obtain ⟨hnot, hnd⟩ := List.nodup_cons.1 hnd
    rw [run_forM_cons, bind_ok (run_breakDown_look (hqs q (.head _)))]
    refine ih (fun q' hq' => ?_) hnd
    obtain ⟨hdrawn, hp⟩ := hqs q' (.tail _ hq')
    have hne : q' ≠ q := fun heq => hnot (heq ▸ hq')
    exact ⟨(List.mem_erase_of_ne hne).2 hdrawn, hp⟩

lemma run_breakDown_item (h : w.Lies t e item n) {u : World} (hps : u.parts = w.parts)
    (htrig : u.triggers = w.triggers) :
    (breakDown t).runOn u = (.ok (), { u with triggers := u.triggers.erase t }) := by
  obtain ⟨o, hitbox, ho, hlost, -, hp⟩ := h.trigger
  rw [← hps] at ho
  rw [run_breakDown ho hlost, run_breakDownFully ho (by rw [hp]; rfl), breakDownPlain,
    bind_ok (run_part ho), hp]
  exact run_erase (r := World.triggers) (htrig ▸ h.listed)

lemma exists_removeEntity (h : w.Lies t e item n) (he : e.index < w.entities.size)
    (hnd : (w.partsOf e).Nodup) {a : AreaId} (ha : w.area? = some a) :
    ∃ drawn, (removeEntity a e).runOn w = (.ok (), w.lifted a e t drawn) ∧
      ∀ q ∈ w.drawn, q ∉ w.partsOf e → q ∈ drawn := by
  obtain ⟨front, back, hspl⟩ := List.append_of_mem h.mem
  have hapart : (t :: (front ++ back)).Nodup := List.nodup_middle.1 (hspl ▸ hnd)
  obtain ⟨hnot, hnd⟩ := List.nodup_cons.1 hapart
  obtain ⟨hfront, hback, hdisj⟩ := List.nodup_append.1 hnd
  have hlook (q : PartId) (hq : q ∈ front ++ back) : w.IsLook q :=
    h.looks q (hspl ▸ mem_middle.2 (.inr hq)) fun heq => hnot (heq ▸ hq)
  let gone : World := w.departed a e
  let bared : World := { gone with drawn := front.foldl List.erase w.drawn }
  let left : World := { bared with triggers := w.triggers.erase t }
  have hrest (q : PartId) (hq : q ∈ back) : left.IsLook q := by
    obtain ⟨hdrawn, hp⟩ := hlook q (List.mem_append_right _ hq)
    exact ⟨mem_foldl_erase hdrawn fun hmem => hdisj q hmem q hq rfl, hp⟩
  have hbreak : ((w.partsOf e).forM breakDown).runOn gone =
      (.ok ⟨⟩, { left with drawn := back.foldl List.erase left.drawn }) := by
    have happ : (w.partsOf e).forM breakDown =
        front.forM breakDown >>= fun _ => (t :: back).forM breakDown := by
      rw [hspl]
      exact List.forM_append
    have hfst : (front.forM breakDown).runOn gone = (.ok ⟨⟩, bared) :=
      run_breakDown_looks (fun q hq => hlook q (List.mem_append_left _ hq)) hfront
    have hitem : (breakDown t).runOn bared = (.ok (), left) := run_breakDown_item h rfl rfl
    rw [happ, bind_ok hfst, run_forM_cons, bind_ok hitem]
    exact run_breakDown_looks hrest hback
  have hen : gone.entities[e.index]? = some w.entities[e.index] := Array.getElem?_eq_getElem he
  have hps : w.entities[e.index].parts = w.partsOf e := by
    rw [partsOf, Array.getElem?_eq_getElem he]
    rfl
  obtain ⟨area, harea, hpres⟩ : ∃ area, w.areas[a.index]? = some area ∧ e ∈ area.entities := by
    have hmem := h.present
    rw [World.present, ha, Option.bind_some] at hmem
    cases harea : w.areas[a.index]? with
    | none => rw [harea] at hmem; cases hmem
    | some area => rw [harea] at hmem; exact ⟨area, rfl, hmem⟩
  refine ⟨back.foldl List.erase left.drawn, ?_, fun q hq hout => ?_⟩
  · rw [removeEntity, bind_ok (run_area harea), if_neg (not_not.2 hpres)]
    change (clearEntity breakDown e).runOn gone = _
    rw [clearEntity, bind_ok (run_entity hen), hps, bind_ok hbreak]
    rfl
  · rw [hspl] at hout
    refine mem_foldl_erase (mem_foldl_erase hq fun hmem => ?_) fun hmem => ?_
    · exact hout (List.mem_append_left _ hmem)
    · exact hout (List.mem_append_right _ (.tail _ hmem))

lemma run_hasPart_player (h : ∃ p ∈ w.partsOf me, w.partIs Part.isPlayer p = true) :
    (hasPart me Part.isPlayer).runOn w = (.ok true, w) := by
  obtain ⟨p, hp, hpl⟩ := h
  rw [partsOf] at hp
  cases hen : w.entities[me.index]? with
  | none => rw [hen] at hp; cases hp
  | some en =>
    rw [hen] at hp
    have hsome : (en.parts.find? (w.partIs Part.isPlayer)).isSome = true :=
      List.find?_isSome.2 ⟨p, hp, hpl⟩
    rw [hasPart, bind_ok (run_find? hen _), hsome]
    rfl

lemma exists_pickUp {bag : Bag} {items : List PartId} (h : w.Roams me bag items)
    (ht : w.Lies t e item n) (hitem : item.IsShowable) :
    ∃ left u items', (bag.inventory.add item (.ofInt n)).leftover = .ok (.ofInt left) ∧
      (touch t me).runOn w =
        (if left ≤ 0 then currentArea >>= fun a => removeEntity a e else pure ()).runOn u ∧
      u.Furnished { bag with inventory := (bag.inventory.add item (.ofInt n)).inventory } items' ∧
      SameGround (IsStirred bag t) w u ∧ u.Lies t e item left := by
  obtain ⟨o, hitbox, ho, hlost, hown, hp⟩ := ht.trigger
  obtain ⟨left, u, items', hleft, hgive, hfurn, hsup, hnew⟩ :=
    exists_give_furnished h.furnished hitem n
  obtain ⟨u', hsound, hsame⟩ : ∃ u', (playSound "pick_up.mp3").runOn u = (.ok (), u') ∧
      ∃ log, u' = { u with log } := by
    rw [playSound, run_get_bind]
    split
    · exact ⟨_, rfl, _, rfl⟩
    · exact ⟨u, rfl, u.log, rfl⟩
  obtain ⟨log, rfl⟩ := hsame
  let rest : Part := .trigger hitbox (.dropped item (.ofInt left))
  let heard : World := { u with log }
  let put : World := heard.altered t fun _ => rest
  have hheard : SameGround (· ∈ bag.viewer?) w heard :=
    ⟨hsup.sameGround.registers, hsup.entities, hsup.size, hsup.parts⟩
  have hgr : SameGround (IsStirred bag t) w put := hheard.altered t _
  have hview : t ∉ bag.viewer? := fun hv => by
    obtain ⟨o', view, ho', hview, -⟩ := (h.furnished.viewed t hv).part
    cases ho.symm.trans ho'
    cases hp.symm.trans hview
  have ho' : heard.parts[t.index]? = some o := hheard.part_eq ho hview
  have hput : put.parts[t.index]? = some { o with part := rest } := getElem?_altered_self ho' _
  refine ⟨left, put, items', hleft, ?_, ?_, hgr, hgr.lies_self h hput hlost hown ht⟩
  · have hmin : (Json.ofInt n).minus (.ofInt left) = .ok (.ofInt (n - left)) := Json.minus_int n left
    have hback : (Json.ofInt n).minus (.ofInt (n - left)) = .ok (.ofInt left) :=
      (Json.minus_int n (n - left)).trans (by rw [Int.sub_sub_self]; rfl)
    have hset : (setPart t rest).runOn heard = (.ok (), put) := rfl
    rw [touch, bind_ok (run_part ho), hp]
    change (pickUp t hitbox item (.ofInt n) me).runOn w = _
    rw [pickUp, bind_ok (run_hasPart_player h.player), if_pos rfl, bind_ok hgive,
      bind_ok hsound, run_lift_bind hmin, run_lift_bind hback, bind_ok hset,
      run_lift_bind (Inventory.atMost_zero left)]
    by_cases hnone : left ≤ 0
    · rw [decide_eq_true hnone, if_pos rfl, if_pos hnone, bind_ok (run_owner hput hown)]
    · rw [decide_eq_false hnone, if_neg (by simp), if_neg hnone]
  · refine ⟨hfurn.holds, hfurn.counted, hfurn.legible, fun v hv => ?_⟩
    obtain ⟨⟨ov, view, hov, hrest⟩, hnd, hlist⟩ := hfurn.viewed v hv
    have hne : v ≠ t := fun heq => hview (heq ▸ hv)
    exact ⟨⟨ov, view, (getElem?_altered_of_ne hne _).trans hov, hrest⟩, hnd, hlist⟩

end Game

namespace World

variable {bag' : Bag} {items' : List PartId}

/-! ## One item -/

section

variable (h : w.Roams me bag items) (hsame : SameGround (IsStirred bag t) w u) (ht : w.Lies t e item n)
include h hsame ht

lemma Roams.of_same (hfurn : u.Furnished bag' items')
    (hwell : bag'.inventory.WellFormed) : u.Roams me bag' items' where
  here e he := lt_entities_of_eq (h.here e (hsame.present_eq ▸ he))
    (hsame.entities e.index (h.here e (hsame.present_eq ▸ he)))
  there p hp := (h.there p (hsame.live_eq h.here ▸ hp)).trans_le hsame.size
  nodup := hsame.live_eq h.here ▸ h.nodup
  distinct := hsame.triggers_eq ▸ h.distinct
  player := by
    obtain ⟨p, hp, hpl⟩ := h.player
    have hme : me.index < w.entities.size := by
      by_contra hout
      rw [partsOf, Array.getElem?_eq_none (Nat.le_of_not_lt hout)] at hp
      cases hp
    exact ⟨p, hsame.partsOf_eq hme ▸ hp, hsame.player_eq h hpl ht⟩
  furnished := hfurn
  wellFormed := hwell

lemma Roams.lying_of_same (hleft : u.Lies t e item left) (hfurn : u.Furnished bag' items')
    (hviewer : bag'.viewer? = bag.viewer?) (other : ItemType) :
    u.lying other + (if item = other then n - left else 0) = w.lying other := by
  have hsum := sum_map_add_of_ne h.nodup ht.mem_live (f := u.quantity other) (g := w.quantity other)
    fun p hp hne => hsame.quantity_of_ne h hfurn hviewer hp hne other
  rw [ht.quantity, hleft.quantity] at hsum
  rw [lying, hsame.live_eq h.here, lying]
  by_cases hoth : item = other
  · rw [if_pos hoth, if_pos hoth] at hsum
    rw [if_pos hoth]
    omega
  · rw [if_neg hoth, if_neg hoth] at hsum
    rw [if_neg hoth]
    omega

end

section Lifted

variable {a : AreaId} {drawn : List PartId}

lemma present_lifted (ha : w.area? = some a) :
    (w.lifted a e t drawn).present = w.present.erase e := present_departed ha e

lemma partsOf_lifted_of_ne (hne : e' ≠ e) :
    (w.lifted a e t drawn).partsOf e' = w.partsOf e' := partsOf_cleared_of_ne hne

section

variable (h : w.Roams me bag items)
include h

lemma Roams.exists_present_eq (ht : w.Lies t e item n) :
    ∃ es es', w.present = es ++ e :: es' ∧ e ∉ es ∧ e ∉ es' := by
  obtain ⟨es, es', hpres, hnot⟩ := List.eq_append_cons_of_mem ht.present
  refine ⟨es, es', hpres, hnot, fun hmem => ?_⟩
  have hnd := h.nodup
  rw [live, hpres, List.flatMap_append, List.flatMap_cons] at hnd
  have hdisj := (List.nodup_append.1 (List.nodup_append.1 hnd).2.1).2.2
  exact hdisj t ht.mem t (List.mem_flatMap.2 ⟨e, hmem, ht.mem⟩) rfl

lemma Roams.exists_live_lifted (ht : w.Lies t e item n)
    (ha : w.area? = some a) (drawn : List PartId) :
    e ∉ (w.lifted a e t drawn).present ∧ ∃ pre post, w.live = pre ++ (w.partsOf e ++ post) ∧
      (w.lifted a e t drawn).live = pre ++ post := by
  obtain ⟨es, es', hpres, hnot, hnot'⟩ := h.exists_present_eq ht
  have hleft : (w.lifted a e t drawn).present = es ++ es' := by
    rw [present_lifted ha, hpres, List.erase_append_right _ hnot, List.erase_cons_head]
  refine ⟨by rw [hleft, List.mem_append, not_or]; exact ⟨hnot, hnot'⟩, es.flatMap w.partsOf,
    es'.flatMap w.partsOf, ?_, ?_⟩
  · rw [live, hpres, List.flatMap_append, List.flatMap_cons]
  · rw [live, hleft, ← List.flatMap_append]
    refine List.flatMap_congr fun e' he' => partsOf_lifted_of_ne fun heq => ?_
    rw [heq] at he'
    exact (List.mem_append.1 he').elim hnot hnot'

lemma Roams.lying_lifted (ht : w.Lies t e item 0) (ha : w.area? = some a)
    (other : ItemType) : (w.lifted a e t drawn).lying other = w.lying other := by
  obtain ⟨-, pre, post, hlive, hlifted⟩ := h.exists_live_lifted ht ha drawn
  have hzero : ((w.partsOf e).map (w.quantity other)).sum = 0 := List.sum_eq_zero fun k hk => by
    obtain ⟨q, hq, rfl⟩ := List.mem_map.1 hk
    by_cases heq : q = t
    · rw [heq, ht.quantity, ite_self]
    · exact (ht.looks q hq heq).quantity other
  have hsame : (w.lifted a e t drawn).quantity other = w.quantity other := rfl
  rw [lying, lying, hlive, hlifted, hsame]
  simp only [List.map_append, List.sum_append]
  omega

lemma Roams.notMem_partsOf (he : e ∈ w.present)
    (he' : e' ∈ w.present) (hne : e' ≠ e) (hq : q ∈ w.partsOf e') : q ∉ w.partsOf e := by
  have hsymm : Std.Symm (Function.onFun List.Disjoint w.partsOf) := ⟨fun _ _ h _ hq hq' => h hq' hq⟩
  have hdisj : List.Disjoint (w.partsOf e') (w.partsOf e) :=
    (List.nodup_flatMap.1 h.nodup).2.forall he' he hne
  exact fun hmem => hdisj hq hmem

lemma Roams.lies_lifted (ht : w.Lies t e item n) (ha : w.area? = some a)
    (hdrawn : ∀ q ∈ w.drawn, q ∉ w.partsOf e → q ∈ drawn) (h' : w.Lies t' e' item' n') (hne : t' ≠ t) :
    (w.lifted a e t drawn).Lies t' e' item' n' := by
  have hent := ht.entity_ne h' hne
  refine ⟨h'.trigger, (List.mem_erase_of_ne hne).2 h'.listed, ?_, ?_, fun q hq hq' => ?_⟩
  · rw [present_lifted ha]
    exact (List.mem_erase_of_ne hent).2 h'.present
  · rw [partsOf_lifted_of_ne hent]
    exact h'.mem
  · rw [partsOf_lifted_of_ne hent] at hq
    obtain ⟨hlook, hp⟩ := h'.looks q hq hq'
    exact ⟨hdrawn q hlook (h.notMem_partsOf ht.present h'.present hent hq), hp⟩

lemma Roams.lifted (ht : w.Lies t e item n) (ha : w.area? = some a) :
    (w.lifted a e t drawn).Roams me bag items := by
  obtain ⟨-, pre, post, hlive, hlifted⟩ := h.exists_live_lifted ht ha drawn
  have hsub : (w.lifted a e t drawn).live.Sublist w.live := by
    rw [hlive, hlifted]
    exact (List.sublist_append_right _ post).append_left pre
  refine ⟨fun e' he' => ?_, fun p hp => h.there p (hsub.subset hp), h.nodup.sublist hsub,
    h.distinct.erase t, ?_, ?_, h.wellFormed⟩
  · rw [present_lifted ha] at he'
    have hsize : (w.lifted a e t drawn).entities.size = w.entities.size := Array.size_modify
    rw [hsize]
    exact h.here e' (List.mem_of_mem_erase he')
  · obtain ⟨p, hp, hpl⟩ := h.player
    have hne : me ≠ e := by
      rintro rfl
      cases (ht.not_player hp).symm.trans hpl
    exact ⟨p, by rwa [partsOf_lifted_of_ne hne], hpl⟩
  · exact h.furnished.of_screen rfl

end

end Lifted

structure PickedUp (w : World) (t : PartId) (e : EntityId) (item : ItemType) (n left : Int)
    (u : World) : Prop where
  lying : ∀ other, u.lying other + (if item = other then n - left else 0) = w.lying other
  present : u.present.Sublist w.present
  rest : left ≠ 0 → u.Lies t e item left ∧ u.triggers = w.triggers
  gone : left = 0 → e ∉ u.present ∧ u.triggers = w.triggers.erase t
  others : ∀ t' e' item' n', t' ≠ t → w.Lies t' e' item' n' → u.Lies t' e' item' n'

lemma collides_of_still {b : Bool} (h : (Game.collides body t).runOn w = (.ok b, w))
    (hstill : Still w u) : (Game.collides body t).runOn u = (.ok b, u) := by
  obtain ⟨⟨ax, bx, ha, hb, hmeets⟩, -⟩ := Game.run_collides_eq_ok.1 h
  exact Game.run_collides_eq_ok.2 ⟨⟨ax, bx, ha.of_still hstill, hb.of_still hstill, hmeets⟩, rfl⟩

lemma Gathers.exists_touch (h : w.Gathers body me bag items) (ht : w.Lies t e item n)
    (hitem : item.IsStackable) (hn : 1 ≤ n) :
    ∃ left u items', (bag.inventory.add item (.ofInt n)).leftover = .ok (.ofInt left) ∧
      0 ≤ left ∧ (Game.touch t me).runOn w = (.ok (), u) ∧
      u.Gathers body me { bag with inventory := (bag.inventory.add item (.ofInt n)).inventory } items' ∧
      PickedUp w t e item n left u := by
  obtain ⟨size, hsize, hone⟩ := hitem.size
  obtain ⟨left, v, items', hleft, hrun, hfurn, hsame, hlies⟩ :=
    Game.exists_pickUp h.toRoams ht hitem.isShowable
  obtain ⟨hroom, hstows⟩ := Inventory.add_stows h.wellFormed hsize hone hn
  have hnonneg : 0 ≤ left := by
    have heq : left = max 0 (n - Inventory.room item size bag.inventory.slots) := by
      simpa [Json.ofInt] using hleft.symm.trans hroom
    omega
  have hroams := h.toRoams.of_same hsame ht hfurn hstows.inOrder
  have hlying := h.toRoams.lying_of_same hsame ht hlies hfurn rfl
  have hoth (t' : PartId) (e' : EntityId) (item' : ItemType) (n' : Int) (hne : t' ≠ t)
      (h' : w.Lies t' e' item' n') : v.Lies t' e' item' n' := hsame.lies_of_ne h.toRoams h' ht hne
  have htells (u : World) (hrun : (Game.touch t me).runOn w = (.ok (), u)) :
      ∀ t ∈ u.triggers, u.Meets body t ∨ u.Misses body t := fun t' ht' => by
    have hshed := Game.shed_touch ht.not_isTeleporter hrun
    exact (h.tells t' (hshed.triggers.subset ht')).imp (collides_of_still · hshed.toStill)
      (collides_of_still · hshed.toStill)
  by_cases hnone : left = 0
  · subst hnone
    obtain ⟨a, ha⟩ : ∃ a, v.area? = some a := by
      have hmem := hlies.present
      cases ha : v.area? with
      | none => rw [World.present, ha] at hmem; cases hmem
      | some a => exact ⟨a, rfl⟩
    obtain ⟨drawn, hremove, hdrawn⟩ := Game.exists_removeEntity hlies (hroams.here e hlies.present)
      ((List.nodup_flatMap.1 hroams.nodup).1 e hlies.present) ha
    have hcur : Game.currentArea.runOn v = (.ok a, v) := Game.run_currentArea_eq_ok.2 ⟨ha, rfl⟩
    rw [if_pos le_rfl, Game.bind_ok hcur, hremove] at hrun
    have hkeep (t' : PartId) (e' : EntityId) (item' : ItemType) (n' : Int) (hne : t' ≠ t)
        (h' : w.Lies t' e' item' n') : (v.lifted a e t drawn).Lies t' e' item' n' :=
      hroams.lies_lifted hlies ha hdrawn (hoth t' e' item' n' hne h') hne
    have htrig : (v.lifted a e t drawn).triggers = w.triggers.erase t :=
      congrArg (List.erase · t) hsame.triggers_eq
    refine ⟨0, v.lifted a e t drawn, items', hleft, hnonneg, hrun,
      { hroams.lifted hlies ha with lies := fun t' ht' => ?_, tells := htells _ hrun },
      fun other => ?_, ?_, fun hpos => absurd rfl hpos,
      fun _ => ⟨(hroams.exists_live_lifted hlies ha drawn).1, htrig⟩, hkeep⟩
    · rw [htrig] at ht'
      obtain ⟨hne, hmem⟩ := h.distinct.mem_erase_iff.1 ht'
      obtain ⟨e', item', n', h', hrest⟩ := h.lies t' hmem
      exact ⟨e', item', n', hkeep t' e' item' n' hne h', hrest⟩
    · rw [hroams.lying_lifted hlies ha, hlying]
    · rw [present_lifted ha, hsame.present_eq]
      exact List.erase_sublist
  · have hpos : ¬ left ≤ 0 := by omega
    rw [if_neg hpos] at hrun
    refine ⟨left, v, items', hleft, hnonneg, hrun,
      { hroams with lies := fun t' ht' => ?_, tells := htells _ hrun }, hlying,
      hsame.present_eq ▸ List.Sublist.refl _, fun _ => ⟨hlies, hsame.triggers_eq⟩, fun hzero => absurd hzero hnone, hoth⟩
    by_cases hne : t' = t
    · exact ⟨e, item, left, hne ▸ hlies, hitem, by omega⟩
    · obtain ⟨e', item', n', h', hrest⟩ := h.lies t' (hsame.triggers_eq ▸ ht')
      exact ⟨e', item', n', hoth t' e' item' n' hne h', hrest⟩

/-! ## The walk -/

lemma Walks.unique {v' : World} (h : w.Walks body me i v) (h' : w.Walks body me i v') : v' = v := by
  induction h generalizing v' with
  | start => cases h'; rfl
  | miss _ ht hmisses ih =>
    cases h' with
    | miss h' _ _ => exact ih h'
    | touch h' ht' hmeets _ _ =>
      cases ih h'
      cases ht.symm.trans ht'
      cases hmisses.symm.trans hmeets
  | touch _ ht hmeets _ hrun ih =>
    cases h' with
    | miss h' ht' hmisses =>
      cases ih h'
      cases ht.symm.trans ht'
      cases hmisses.symm.trans hmeets
    | touch h' ht' _ _ hrun' =>
      cases ih h'
      cases ht.symm.trans ht'
      cases hrun.symm.trans hrun'
      rfl

lemma Walks.exists_of_lt {j : Nat} (h : w.Walks body me j v) (hlt : i < j) :
    ∃ v' t, w.Walks body me i v' ∧ v'.triggers[i]? = some t := by
  induction h with
  | start => cases hlt
  | miss h ht _ ih =>
    rcases Nat.lt_succ_iff_lt_or_eq.1 hlt with hlt | rfl
    · exact ih hlt
    · exact ⟨_, _, h, ht⟩
  | touch h ht _ _ _ ih =>
    rcases Nat.lt_succ_iff_lt_or_eq.1 hlt with hlt | rfl
    · exact ih hlt
    · exact ⟨_, _, h, ht⟩

/-- What the walk found of an item when it came to it was put into the inventory that the player had
then, and this much was left over. -/
def LeavesOver (w : World) (body : PartId) (me : EntityId) (t : PartId) (item : ItemType)
    (n left : Int) : Prop :=
  ∃ i v bag, w.Walks body me i v ∧ v.triggers[i]? = some t ∧ v.Meets body t ∧
    v.bags[0]? = some bag ∧ (bag.inventory.add item (.ofInt n)).leftover = .ok (.ofInt left)

/-- What has become of some items when the walk has come to a position: it has found them and left
some over, or it has not come to them, or only to miss them. -/
structure Fate (w : World) (body : PartId) (me : EntityId) (t : PartId) (e : EntityId)
    (item : ItemType) (n : Int) (i : Nat) (v : World) (left : Int) : Prop where
  nonneg : 0 ≤ left
  rest : left ≠ 0 → v.Lies t e item left
  gone : left = 0 → e ∉ v.present ∧ t ∉ v.triggers
  share : t ∉ v.triggers.drop i ∧ w.LeavesOver body me t item n left ∨
    left = n ∧ ∀ j v', j < i → w.Walks body me j v' → v'.triggers[j]? = some t → v'.Misses body t

/-- The account of the walk at a position. -/
structure Tally (w : World) (body : PartId) (me : EntityId) (bag : Bag) (i : Nat) (v : World)
    (bag' : Bag) : Prop where
  gathers : ∃ items, v.Gathers body me bag' items
  total : ∀ item, Inventory.total item bag'.inventory.slots + v.lying item =
    Inventory.total item bag.inventory.slots + w.lying item
  fate : ∀ t e item n, w.Lies t e item n → ∃ left, w.Fate body me t e item n i v left

lemma Gathers.tally (h : w.Gathers body me bag items) : w.Tally body me bag 0 w bag where
  gathers := ⟨items, h⟩
  total _ := rfl
  fate t e item n ht := by
    obtain ⟨e', item', n', ht', -, hn⟩ := h.lies t ht.listed
    obtain ⟨rfl, rfl, rfl⟩ := ht.unique ht'
    exact ⟨n', by omega, fun _ => ht, fun hzero => by omega, .inr ⟨rfl, fun _ _ hlt => absurd hlt (Nat.not_lt_zero _)⟩⟩

lemma PickedUp.drop_subset (h : PickedUp v t e item n left u) (hnd : v.triggers.Nodup)
    (hi : v.triggers[i]? = some t) :
    u.triggers.drop (i + 1) ⊆ v.triggers.drop (i + 1) ∧ t ∉ v.triggers.drop (i + 1) := by
  obtain ⟨hlt, rfl⟩ := List.getElem?_eq_some_iff.1 hi
  have hdrop := List.drop_eq_getElem_cons hlt
  have hspl := List.take_append_drop i v.triggers
  rw [hdrop] at hspl
  rw [← hspl] at hnd
  obtain ⟨-, hback, hdisj⟩ := List.nodup_append.1 hnd
  refine ⟨?_, (List.nodup_cons.1 hback).1⟩
  by_cases hleft : left = 0
  · have hnot : v.triggers[i] ∉ v.triggers.take i := fun hmem =>
      hdisj _ hmem _ (.head _) rfl
    have herase : u.triggers = v.triggers.take i ++ v.triggers.drop (i + 1) := by
      rw [(h.gone hleft).2]
      nth_rewrite 1 [← hspl]
      rw [List.erase_append_right _ hnot, List.erase_cons_head]
    have hlen : (v.triggers.take i).length ≤ i + 1 := by
      rw [List.length_take]
      omega
    rw [herase, List.drop_append, List.drop_eq_nil_of_le hlen, List.nil_append]
    exact List.drop_subset _ _
  · rw [(h.rest hleft).2]
    exact List.Subset.refl _

lemma PickedUp.triggers_subset (h : PickedUp v t e item n left u) : u.triggers ⊆ v.triggers := by
  by_cases hleft : left = 0
  · rw [(h.gone hleft).2]
    exact List.erase_subset
  · rw [(h.rest hleft).2]
    exact List.Subset.refl _

section Fates

variable {left' : Int}

section

variable (h : w.Fate body me t e item n i v left) (hwalks : w.Walks body me i v) (hi : v.triggers[i]? = some t')
include h hwalks hi

lemma Fate.miss (hmisses : v.Misses body t') : w.Fate body me t e item n (i + 1) v left where
  nonneg := h.nonneg
  rest := h.rest
  gone := h.gone
  share := by
    rcases h.share with ⟨hbehind, hover⟩ | ⟨hall, hmissed⟩
    · exact .inl ⟨fun hmem => hbehind (List.drop_subset_drop_left _ (Nat.le_succ i) hmem), hover⟩
    · refine .inr ⟨hall, fun j v' hj hwalks' ht => ?_⟩
      rcases Nat.lt_succ_iff_lt_or_eq.1 hj with hj | rfl
      · exact hmissed j v' hj hwalks' ht
      · cases hwalks.unique hwalks'
        cases hi.symm.trans ht
        exact hmisses

lemma Fate.other (hnd : v.triggers.Nodup)
    (hpick : PickedUp v t' e' item' n' left' u) (hne : t ≠ t') :
    w.Fate body me t e item n (i + 1) u left where
  nonneg := h.nonneg
  rest hleft := hpick.others t e item left hne (h.rest hleft)
  gone hleft := ⟨fun hmem => (h.gone hleft).1 (hpick.present.subset hmem), fun hmem =>
    (h.gone hleft).2 (hpick.triggers_subset hmem)⟩
  share := by
    rcases h.share with ⟨hbehind, hover⟩ | ⟨hall, hmissed⟩
    · refine .inl ⟨fun hmem => hbehind ?_, hover⟩
      exact List.drop_subset_drop_left _ (Nat.le_succ i) ((hpick.drop_subset hnd hi).1 hmem)
    · refine .inr ⟨hall, fun j v' hj hwalks' ht => ?_⟩
      rcases Nat.lt_succ_iff_lt_or_eq.1 hj with hj | rfl
      · exact hmissed j v' hj hwalks' ht
      · cases hwalks.unique hwalks'
        exact absurd (Option.some.inj (ht.symm.trans hi)) hne

end

lemma Fate.eq_of_getElem? (h : w.Fate body me t e item n i v left) (hi : v.triggers[i]? = some t) :
    left = n ∧ v.Lies t e item n := by
  have hmem : t ∈ v.triggers.drop i :=
    List.mem_of_getElem? (i := 0) (by rw [List.getElem?_drop, Nat.add_zero, hi])
  obtain rfl : left = n := (h.share.resolve_left fun hshare => hshare.1 hmem).1
  refine ⟨rfl, h.rest fun hzero => ?_⟩
  exact (h.gone hzero).2 (List.mem_of_getElem? hi)

end Fates

lemma Tally.step (h : w.Tally body me bag i v bag') (hwalks : w.Walks body me i v)
    (hi : v.triggers[i]? = some t) :
    ∃ u bag'', w.Walks body me (i + 1) u ∧ w.Tally body me bag (i + 1) u bag'' := by
  obtain ⟨items, hgath⟩ := h.gathers
  have hmem : t ∈ v.triggers := List.mem_of_getElem? hi
  rcases hgath.tells t hmem with hmeets | hmisses
  · obtain ⟨e, item, n, ht, hitem, hn⟩ := hgath.lies t hmem
    obtain ⟨left, u, items', hleft, hnonneg, hrun, hgath', hpick⟩ :=
      hgath.exists_touch ht hitem hn
    obtain ⟨size, hsize, hone⟩ := hitem.size
    obtain ⟨hroom, hstows⟩ := Inventory.add_stows hgath.wellFormed hsize hone hn
    refine ⟨u, _, hwalks.touch hi hmeets ht.not_isTeleporter hrun, ⟨items', hgath'⟩, fun other => ?_,
      fun t' e' item' n' ht' => ?_⟩
    · have hlying := hpick.lying other
      have htotal := h.total other
      by_cases hoth : item = other
      · subst hoth
        have hsame : left = max 0 (n - Inventory.room item size bag'.inventory.slots) := by
          simpa [Json.ofInt] using hleft.symm.trans hroom
        have hsum := hstows.total_eq
        rw [← hsame] at hsum
        rw [if_pos rfl] at hlying
        dsimp only
        omega
      · rw [if_neg hoth] at hlying
        have hsum := hstows.elsewhere other (Ne.symm hoth)
        dsimp only
        omega
    · obtain ⟨left', hfate⟩ := h.fate t' e' item' n' ht'
      by_cases hne : t' = t
      · subst hne
        obtain ⟨rfl, hlies⟩ := hfate.eq_of_getElem? hi
        obtain ⟨rfl, rfl, rfl⟩ := ht.unique hlies
        obtain ⟨hdrop, hnot⟩ := hpick.drop_subset hgath.distinct hi
        refine ⟨left, hnonneg, fun hpos => (hpick.rest hpos).1, fun hzero =>
          ⟨(hpick.gone hzero).1, ?_⟩, .inl ⟨fun hmem => hnot (hdrop hmem), ?_⟩⟩
        · rw [(hpick.gone hzero).2]
          exact hgath.distinct.not_mem_erase
        · exact ⟨i, v, bag', hwalks, hi, hmeets, hgath.furnished.holds, hleft⟩
      · exact ⟨left', hfate.other hwalks hi hgath.distinct hpick hne⟩
  · refine ⟨v, bag', hwalks.miss hi hmisses, h.gathers, h.total, fun t' e' item' n' ht' => ?_⟩
    obtain ⟨left, hfate⟩ := h.fate t' e' item' n' ht'
    exact ⟨left, hfate.miss hwalks hi hmisses⟩

lemma Gathers.exists_end (h : w.Gathers body me bag items) :
    ∃ i v bag', w.Walks body me i v ∧ v.triggers[i]? = none ∧ w.Tally body me bag i v bag' := by
  have hwalk (k : Nat) : ∃ i v bag', w.Walks body me i v ∧ (i = k ∨ v.triggers[i]? = none) ∧
      w.Tally body me bag i v bag' := by
    induction k with
    | zero => exact ⟨0, w, bag, .start, .inl rfl, h.tally⟩
    | succ k ih =>
      obtain ⟨i, v, bag', hwalks, hend, htally⟩ := ih
      rcases hi : v.triggers[i]? with _ | t
      · exact ⟨i, v, bag', hwalks, .inr hi, htally⟩
      · obtain rfl : i = k := hend.resolve_right (by rw [hi]; nofun)
        obtain ⟨u, bag'', hwalks', htally'⟩ := htally.step hwalks hi
        exact ⟨i + 1, u, bag'', hwalks', .inl rfl, htally'⟩
  -- no walk goes further than there are triggers
  obtain ⟨i, v, bag', hwalks, hend, htally⟩ := hwalk (w.triggers.length + 1)
  refine ⟨i, v, bag', hwalks, hend.resolve_left fun heq => ?_, htally⟩
  have hle := hwalks.position_le
  omega

/-- **Picking up conserves items.**  A player walks over triggers that are all items on the ground.
The walk comes to its end, and of every type there are as many items as before in the inventory and
on the ground together. An item to which the walk does not come, or which the body misses, is there
as before. Of one that is met there is left what `Inventory.add` left over from it, and its entity
is in the area still exactly if that is something. -/
theorem Gathers.touchAll_conserves (h : w.Gathers body me bag items) :
    ∃ w' bag', (Game.touchAll body me).runOn w = (.ok (), w') ∧ w'.bags[0]? = some bag' ∧
      (∀ item, Inventory.total item bag'.inventory.slots + w'.lying item =
        Inventory.total item bag.inventory.slots + w.lying item) ∧
      ∀ t e item n, w.Lies t e item n → ∃ left, 0 ≤ left ∧ (e ∈ w'.present ↔ left ≠ 0) ∧
        (left ≠ 0 → w'.Lies t e item left) ∧ (w.LeavesOver body me t item n left ∨ left = n ∧
          ∀ i v, w.Walks body me i v → v.triggers[i]? = some t → v.Misses body t) := by
  obtain ⟨i, v, bag', hwalks, hend, htally⟩ := h.exists_end
  obtain ⟨items', hgathers⟩ := htally.gathers
  obtain ⟨rounds, hrun⟩ := hwalks.run_touchAll
  refine ⟨v, bag', hrun.trans (Game.run_touchFrom_none hend rounds), hgathers.furnished.holds,
    htally.total, fun t e item n ht => ?_⟩
  obtain ⟨left, hfate⟩ := htally.fate t e item n ht
  refine ⟨left, hfate.nonneg, ⟨fun hmem hzero => (hfate.gone hzero).1 hmem, fun hleft =>
    (hfate.rest hleft).present⟩, hfate.rest, hfate.share.imp And.right fun hshare =>
    ⟨hshare.1, fun j v' hwalks' ht' => ?_⟩⟩
  rcases Nat.lt_or_ge j i with hlt | hge
  · exact hshare.2 j v' hlt hwalks' ht'
  · -- the walk did not go on behind its end
    exfalso
    rcases Nat.lt_or_eq_of_le hge with hlt | rfl
    · obtain ⟨v'', t'', hwalks'', ht''⟩ := hwalks'.exists_of_lt hlt
      cases hwalks.unique hwalks''
      cases hend.symm.trans ht''
    · cases hwalks.unique hwalks'
      cases hend.symm.trans ht'

/-! A player stands on three heaps of diamonds, and has four diamonds and a free slot. -/

def heap (e : EntityId) (n : Int) : List Owned :=
  [{ part := .trigger { w := 32, h := 32 } (.dropped Inventory.diamond (.ofInt n)), owner? := some e },
    { part := .sprite { image := default, width := 32, height := 32 }, owner? := some e }]

def gladeBag : Bag :=
  { inventory := { capacity := 2, slots := [{ item? := some Inventory.diamond, amount := 4 }, {}] }
    viewer? := some ⟨2⟩ }

/-- The glade with the three heaps: of three diamonds, of one and of four. -/
def glade : World :=
  { parts := [{ part := .player {}, owner? := some ⟨0⟩ },
      { part := .body { w := 16, h := 16 }, owner? := some ⟨0⟩ },
      { part := .inventoryView { bag := Game.playerBag, window := {} } }].toArray ++
      (heap ⟨1⟩ 3 ++ heap ⟨2⟩ 1 ++ heap ⟨3⟩ 4).toArray
    entities := #[{ parts := [⟨0⟩, ⟨1⟩] }, { parts := [⟨3⟩, ⟨4⟩] }, { parts := [⟨5⟩, ⟨6⟩] },
      { parts := [⟨7⟩, ⟨8⟩] }]
    triggers := [⟨3⟩, ⟨5⟩, ⟨7⟩]
    drawn := [⟨4⟩, ⟨6⟩, ⟨8⟩]
    areas := #[{ entities := [⟨0⟩, ⟨1⟩, ⟨2⟩, ⟨3⟩] }]
    area? := some ⟨0⟩
    bags := #[gladeBag] }

lemma diamond_isStackable : Inventory.diamond.IsStackable := ⟨⟨5, rfl, by decide⟩, ⟨_, rfl⟩⟩

lemma lies_heap {t l : PartId} {e : EntityId} {n : Int} {s : Owned}
    (ht : glade.parts[t.index]? = some o) (ho : heap e n = [o, s])
    (hs : glade.parts[l.index]? = some s) (hps : glade.partsOf e = [t, l])
    (hlist : t ∈ glade.triggers) (hdrawn : l ∈ glade.drawn) (he : e ∈ glade.present) :
    glade.Lies t e Inventory.diamond n := by
  obtain ⟨rfl, rfl⟩ : _ ∧ _ := by simpa [heap] using ho
  refine ⟨⟨_, _, ht, rfl, rfl, rfl⟩, hlist, he, hps ▸ List.mem_cons_self, fun q hq hne => ?_⟩
  rw [hps] at hq
  obtain rfl := List.mem_singleton.1 ((List.mem_cons.1 hq).resolve_left hne)
  exact ⟨hdrawn, _, _, hs, rfl, rfl, rfl⟩

lemma gathers_glade : glade.Gathers ⟨1⟩ ⟨0⟩ gladeBag [] := by
  have hfacts : (∀ e ∈ glade.present, e.index < glade.entities.size) ∧
      (∀ p ∈ glade.live, p.index < glade.parts.size) ∧ glade.live.Nodup ∧ glade.triggers.Nodup ∧
      (∃ p ∈ glade.partsOf ⟨0⟩, glade.partIs Part.isPlayer p = true) ∧
      ∀ t ∈ glade.triggers, ((Game.collides ⟨1⟩ t).runOn glade).1 = .ok true := by
    decide +kernel
  obtain ⟨hhere, hth, hnd, hdist, hpl, hmeets⟩ := hfacts
  have hs : ∀ slot ∈ gladeBag.inventory.slots, slot.item? = some Inventory.diamond ∧
      slot.amount = .ofInt 4 ∨ slot.item? = none := by decide
  refine ⟨⟨hhere, hth, hnd, hdist, hpl, ⟨rfl, ?_, nofun, ?_⟩, ?_⟩, ?_,
    fun t ht => .inl (meets_of_fst (hmeets t ht))⟩
  · intro slot hmem t ht
    rcases hs slot hmem with ⟨hitem, hamount⟩ | hnone
    · cases hitem.symm.trans ht
      exact ⟨diamond_isStackable.isShowable, 4, hamount⟩
    · cases hnone.symm.trans ht
  · rintro v hv
    cases hv
    exact ⟨⟨_, _, rfl, rfl, rfl, rfl, ⟨rfl, ⟨_, rfl, _, rfl⟩, ⟨_, rfl, _, rfl⟩⟩⟩, List.nodup_nil, nofun⟩
  · intro slot hmem t ht
    rcases hs slot hmem with ⟨hitem, hamount⟩ | hnone
    · cases hitem.symm.trans ht
      exact ⟨5, 4, rfl, hamount, by decide, by decide⟩
    · cases hnone.symm.trans ht
  · intro t ht
    have hcases : t = ⟨3⟩ ∨ t = ⟨5⟩ ∨ t = ⟨7⟩ := by simpa [glade] using ht
    rcases hcases with rfl | rfl | rfl
    · exact ⟨⟨1⟩, _, 3, lies_heap (l := ⟨4⟩) rfl rfl rfl rfl ht (by decide) (by decide),
        diamond_isStackable, by decide⟩
    · exact ⟨⟨2⟩, _, 1, lies_heap (l := ⟨6⟩) rfl rfl rfl rfl ht (by decide) (by decide),
        diamond_isStackable, by decide⟩
    · exact ⟨⟨3⟩, _, 4, lies_heap (l := ⟨8⟩) rfl rfl rfl rfl ht (by decide) (by decide),
        diamond_isStackable, by decide⟩

/-- The first heap is picked up, the second one is passed over, and one diamond of the third is
left. -/
theorem touchAll_conserves_glade : glade.Gathers ⟨1⟩ ⟨0⟩ gladeBag [] ∧
      ∃ w' bag', (Game.touchAll ⟨1⟩ ⟨0⟩).runOn glade = (.ok (), w') ∧ w'.bags[0]? = some bag' ∧
        (∀ item, Inventory.total item bag'.inventory.slots + w'.lying item =
          Inventory.total item gladeBag.inventory.slots + glade.lying item) ∧
        ∀ t e item n, glade.Lies t e item n → ∃ left, 0 ≤ left ∧ (e ∈ w'.present ↔ left ≠ 0) ∧
          (left ≠ 0 → w'.Lies t e item left) ∧ (glade.LeavesOver ⟨1⟩ ⟨0⟩ t item n left ∨ left = n ∧
            ∀ i v, glade.Walks ⟨1⟩ ⟨0⟩ i v → v.triggers[i]? = some t → v.Misses ⟨1⟩ t) :=
  ⟨gathers_glade, gathers_glade.touchAll_conserves⟩

example : ((Game.touchAll ⟨1⟩ ⟨0⟩).runOn glade).2.present = [⟨0⟩, ⟨2⟩, ⟨3⟩] ∧
    ((Game.touchAll ⟨1⟩ ⟨0⟩).runOn glade).2.lying Inventory.diamond = 2 := by decide +kernel

end World

end TileQuest
