import TileQuest.Proofs.Obeys

/-!
# Steps under which nothing moves

Whether a body may be where it stands depends on a small part of the world: which bodies are
registered, their hitboxes, whose they are and where those stand, and the ground of the area. Most
steps of the game leave all of it alone, except that bodies may be taken off the register.
-/

namespace TileQuest

variable {α : Type} {j : Nat} {q : PartId}

/-! ## Arrays and numbers -/

lemma map_getElem?_modify {β : Type} {xs : Array α} {i : Nat} {f : α → α} {g : α → β}
    (hg : ∀ a, xs[i]? = some a → g (f a) = g a) (j : Nat) :
    ((xs.modify i f)[j]?).map g = xs[j]?.map g := by
  rw [Array.getElem?_modify]
  split
  · rename_i hij
    subst hij
    rcases ha : xs[i]? with _ | a
    · rfl
    · simp [hg a ha]
  · rfl

lemma exists_of_getElem?_modify {xs : Array α} {i : Nat} {f : α → α} {b : α}
    (h : (xs.modify i f)[j]? = some b) : ∃ a, xs[j]? = some a ∧ (b = a ∨ b = f a) := by
  rw [Array.getElem?_modify] at h
  split at h
  · obtain ⟨a, ha, hb⟩ := Option.map_eq_some_iff.1 h
    exact ⟨a, ha, .inr hb.symm⟩
  · exact ⟨b, h, .inl rfl⟩

lemma getElem?_modify_of_lt {xs : Array α} {f : α → α} {i n : Nat} (hi : n ≤ i)
    (hj : j < n) : (xs.modify i f)[j]? = xs[j]? := by
  rw [Array.getElem?_modify, if_neg (by omega)]

lemma getElem?_push_of_lt {xs : Array α} {a : α} {i : Nat} (h : i < xs.size) :
    (xs.push a)[i]? = xs[i]? := by
  rw [Array.getElem?_push, if_neg h.ne]

lemma PartId.eq_of_index {p : PartId} (h : p.index = q.index) : p = q := by
  cases p
  cases q
  exact congrArg PartId.mk h

lemma EntityId.eq_of_index {e e' : EntityId} (h : e.index = e'.index) : e = e' := by
  cases e
  cases e'
  exact congrArg EntityId.mk h

/-! ## Relations -/

namespace World

variable {e : EntityId} {b p : PartId} {i : Nat} {f : Owned → Owned} {o : Owned} {en : Entity}

def loads (w : World) : Nat := w.areas.size + w.grounds.size

def ownerOf? (w : World) (p : PartId) : Option EntityId :=
  (w.parts[p.index]?.map Owned.owner?).join

def firstBody? (w : World) (e : EntityId) : Option PartId :=
  w.entities[e.index]?.bind fun en => en.parts.find? (w.partIs Part.isBody)

/-- No body is registered, changes hands or becomes the first body of an entity, and entities that
have all their parts still do. -/
structure Tame (w w' : World) : Prop where
  loads_le : w.loads ≤ w'.loads
  parts_le : w.parts.size ≤ w'.parts.size
  entities_le : w.entities.size ≤ w'.entities.size
  bodies : w'.bodies.Sublist w.bodies
  isBody : ∀ p, w'.partIs Part.isBody p = w.partIs Part.isBody p
  owner : ∀ i < w.parts.size, w'.parts[i]?.map Owned.owner? = w.parts[i]?.map Owned.owner?
  firstBody : ∀ e b, w'.firstBody? e = some b → w.firstBody? e = some b
  whole : ∀ e, w.IsWhole e → w'.IsWhole e

def placeOf (e : Entity) : Json × Json := (e.x, e.y)

/-- What was there keeps its hitbox, and the ground is the same. -/
structure Firm (w w' : World) : Prop extends Tame w w' where
  hitbox : ∀ i < w.parts.size,
    w'.parts[i]?.map (·.part.hitbox?) = w.parts[i]?.map (·.part.hitbox?)
  area : w'.area? = w.area?
  ground : ∀ i : Nat, w'.areas[i]?.map Area.ground? = w.areas[i]?.map Area.ground?
  grounds : w'.grounds = w.grounds

/-- Nothing moves: what was there keeps its place and its hitbox, and the ground is the same. -/
structure Still (w w' : World) : Prop extends Firm w w' where
  place : ∀ i < w.entities.size, w'.entities[i]?.map placeOf = w.entities[i]?.map placeOf

/-- Nothing moves, no trigger is registered, no file changes, and no area is opened in the editor or
closed there. -/
structure Shed (w w' : World) : Prop extends Still w w' where
  triggers : w'.triggers.Sublist w.triggers
  disk : w'.disk = w.disk
  edited : ∀ i : Nat, w'.areas[i]?.map Area.isEdited = w.areas[i]?.map Area.isEdited

/-- No area and no ground is lost, and unless there is a new one, no body is registered. -/
structure Idle (w w' : World) : Prop where
  loads_le : w.loads ≤ w'.loads
  bodies : w.loads < w'.loads ∨ w'.bodies.Sublist w.bodies

/-- No part is lost or changes hands. -/
structure PartsLe (w w' : World) : Prop where
  parts_le : w.parts.size ≤ w'.parts.size
  owner : ∀ i < w.parts.size, w'.parts[i]?.map Owned.owner? = w.parts[i]?.map Owned.owner?

variable {w w' w'' : World}

lemma Tame.refl (w : World) : Tame w w :=
  ⟨le_rfl, le_rfl, le_rfl, .refl _, fun _ => rfl, fun _ _ => rfl,
    fun _ _ h => h, fun _ h => h⟩

lemma Tame.trans (h : Tame w w') (h' : Tame w' w'') : Tame w w'' where
  loads_le := h.loads_le.trans h'.loads_le
  parts_le := h.parts_le.trans h'.parts_le
  entities_le := h.entities_le.trans h'.entities_le
  bodies := h'.bodies.trans h.bodies
  isBody p := (h'.isBody p).trans (h.isBody p)
  owner i hi := (h'.owner i (hi.trans_le h.parts_le)).trans (h.owner i hi)
  firstBody e b hb := h.firstBody e b (h'.firstBody e b hb)
  whole e he := h'.whole e (h.whole e he)

lemma Firm.refl (w : World) : Firm w w :=
  { Tame.refl w with
    hitbox := fun _ _ => rfl, area := rfl, ground := fun _ => rfl, grounds := rfl }

lemma Firm.trans (h : Firm w w') (h' : Firm w' w'') : Firm w w'' :=
  { h.toTame.trans h'.toTame with
    hitbox := fun i hi => (h'.hitbox i (hi.trans_le h.parts_le)).trans (h.hitbox i hi)
    area := h'.area.trans h.area
    ground := fun i => (h'.ground i).trans (h.ground i)
    grounds := h'.grounds.trans h.grounds }

lemma Still.refl (w : World) : Still w w :=
  { Firm.refl w with place := fun _ _ => rfl }

lemma Still.trans (h : Still w w') (h' : Still w' w'') : Still w w'' :=
  { h.toFirm.trans h'.toFirm with
    place := fun i hi => (h'.place i (hi.trans_le h.entities_le)).trans (h.place i hi) }

instance : IsPreorder World Tame where
  refl := Tame.refl
  trans _ _ _ := Tame.trans

instance : IsPreorder World Still where
  refl := Still.refl
  trans _ _ _ := Still.trans

instance : IsPreorder World Idle where
  refl w := ⟨le_rfl, .inr (.refl _)⟩
  trans _ _ _ h h' := by
    refine ⟨h.loads_le.trans h'.loads_le, ?_⟩
    rcases h.bodies with hgrew | hsub
    · exact .inl (hgrew.trans_le h'.loads_le)
    rcases h'.bodies with hgrew | hsub'
    · exact .inl (h.loads_le.trans_lt hgrew)
    · exact .inr (hsub'.trans hsub)

lemma Shed.refl (w : World) : Shed w w :=
  { Still.refl w with triggers := .refl _, disk := rfl, edited := fun _ => rfl }

instance : IsPreorder World Shed where
  refl := Shed.refl
  trans _ _ _ h h' :=
    { h.toStill.trans h'.toStill with
      triggers := h'.triggers.trans h.triggers
      disk := h'.disk.trans h.disk
      edited := fun i => (h'.edited i).trans (h.edited i) }

instance : IsPreorder World PartsLe where
  refl _ := ⟨le_rfl, fun _ _ => rfl⟩
  trans _ _ _ h h' := ⟨h.parts_le.trans h'.parts_le, fun i hi =>
    (h'.owner i (hi.trans_le h.parts_le)).trans (h.owner i hi)⟩

instance : Game.Allows Tame PartsLe := ⟨fun _ _ h => ⟨h.parts_le, h.owner⟩⟩

instance : Game.Allows Tame Idle := ⟨fun _ _ h => ⟨h.loads_le, .inr h.bodies⟩⟩

instance {R : World → World → Prop} [Game.Allows Tame R] : Game.Allows Still R :=
  ⟨fun w w' h => Game.Allows.allows w w' h.toTame⟩

instance {R : World → World → Prop} [Game.Allows Still R] : Game.Allows Shed R :=
  ⟨fun w w' h => Game.Allows.allows w w' h.toStill⟩

/-! ## Changes of the world -/

lemma firstBody?_eq_some : w.firstBody? e = some b ↔
    ∃ en, w.entities[e.index]? = some en ∧ en.parts.find? (w.partIs Part.isBody) = some b :=
  Option.bind_eq_some_iff

lemma firstBody?_of_same (hb : w'.firstBody? e = some b) (hents : w'.entities = w.entities)
    (hbody : ∀ p, w'.partIs Part.isBody p = w.partIs Part.isBody p) : w.firstBody? e = some b := by
  rwa [firstBody?, hents, funext hbody] at hb

/-- The things in the world and the ground under them, without the register of bodies. -/
def setting (w : World) : Array Owned × Array Entity × Array Area × Array TileMap × Option AreaId :=
  (w.parts, w.entities, w.areas, w.grounds, w.area?)

lemma Still.of_setting (h : w'.setting = w.setting) (hbods : w'.bodies.Sublist w.bodies) :
    Still w w' := by
  simp only [setting, Prod.mk.injEq] at h
  obtain ⟨hps, hents, has, hgrs, ha⟩ := h
  have hbody (p : PartId) : w'.partIs Part.isBody p = w.partIs Part.isBody p := by
    rw [partIs, partIs, hps]
  exact
    { loads_le := Nat.le_of_eq (by rw [loads, loads, has, hgrs])
      parts_le := Nat.le_of_eq (by rw [hps])
      entities_le := Nat.le_of_eq (by rw [hents])
      bodies := hbods
      isBody := hbody
      owner := fun i _ => by rw [hps]
      firstBody := fun _ _ hb => firstBody?_of_same hb hents hbody
      whole := fun e h => h.of_kept (by rw [hents]) (Nat.le_of_eq (by rw [hps]))
      hitbox := fun i _ => by rw [hps]
      place := fun i _ => by rw [hents]
      area := ha
      ground := fun i => by rw [has]
      grounds := hgrs }

lemma Shed.of_setting (h : w'.setting = w.setting) (hbods : w'.bodies.Sublist w.bodies)
    (htrig : w'.triggers.Sublist w.triggers) (hd : w'.disk = w.disk) : Shed w w' := by
  have has : w'.areas = w.areas := congrArg (·.2.2.1) h
  exact { Still.of_setting h hbods with
    triggers := htrig, disk := hd, edited := fun _ => by rw [has] }

lemma Still.of_same (h : (w'.setting, w'.bodies) = (w.setting, w.bodies)) : Still w w' := by
  obtain ⟨hsetting, hbods⟩ := Prod.mk.inj h
  exact .of_setting hsetting (hbods ▸ List.Sublist.refl _)

lemma Shed.of_same (h : (w'.setting, w'.bodies, w'.triggers, w'.disk) =
    (w.setting, w.bodies, w.triggers, w.disk)) : Shed w w' := by
  simp only [Prod.mk.injEq] at h
  obtain ⟨hsetting, hbods, htrig, hd⟩ := h
  exact .of_setting hsetting (hbods ▸ .refl _) (htrig ▸ .refl _) hd

lemma partIs_modify {test : Part → Bool}
    (hf : ∀ o, w.parts[i]? = some o → test (f o).part = test o.part) (p : PartId) :
    ({ w with parts := w.parts.modify i f } : World).partIs test p = w.partIs test p :=
  congrArg (Option.getD · false) (map_getElem?_modify (g := fun o : Owned => test o.part) hf p.index)

lemma Shed.modifyOwned
    (hown : ∀ o, (f o).owner? = o.owner?)
    (hbox : ∀ o, w.parts[i]? = some o → (f o).part.hitbox? = o.part.hitbox?)
    (hbody : ∀ o, w.parts[i]? = some o → (f o).part.isBody = o.part.isBody) :
    Shed w { w with parts := w.parts.modify i f } :=
  { Shed.refl w with
    parts_le := by simp
    isBody := partIs_modify hbody
    owner := fun j _ => map_getElem?_modify (fun o _ => hown o) j
    firstBody := fun _ _ hb => firstBody?_of_same hb rfl (partIs_modify hbody)
    whole := fun e h => h.of_kept rfl (by simp)
    hitbox := fun j _ => map_getElem?_modify hbox j }

lemma partIs_of_size_le (h : w.parts.size ≤ p.index) (test : Part → Bool) :
    w.partIs test p = false := by
  rw [partIs, Array.getElem?_eq_none h]
  rfl

lemma partIs_push (test : Part → Bool) (hp : p.index ≠ w.parts.size) :
    ({ w with parts := w.parts.push o } : World).partIs test p = w.partIs test p := by
  rw [partIs, Array.getElem?_push, if_neg hp, partIs]

lemma Shed.push_part (ho : o.part.isBody = false) :
    Shed w { w with parts := w.parts.push o } := by
  have hbody (p : PartId) : ({ w with parts := w.parts.push o } : World).partIs Part.isBody p =
      w.partIs Part.isBody p := by
    by_cases hp : p.index = w.parts.size
    · rw [partIs_of_size_le hp.symm.le, partIs, Array.getElem?_push, if_pos hp]
      exact ho
    · exact partIs_push _ hp
  exact
    { Shed.refl w with
      parts_le := by simp
      isBody := hbody
      owner := fun i hi => by rw [getElem?_push_of_lt hi]
      firstBody := fun _ _ hb => firstBody?_of_same hb rfl hbody
      whole := fun e h => h.of_kept rfl (by simp)
      hitbox := fun i hi => by rw [getElem?_push_of_lt hi] }

lemma Shed.modifyArea {f : Area → Area} (hgr : ∀ a, (f a).ground? = a.ground?)
    (hedit : ∀ a, (f a).isEdited = a.isEdited) :
    Shed w { w with areas := w.areas.modify i f } :=
  { Shed.refl w with
    loads_le := by simp [loads]
    ground := fun j => map_getElem?_modify (fun a _ => hgr a) j
    edited := fun j => map_getElem?_modify (fun a _ => hedit a) j }

lemma Tame.modifyEntity {f : Entity → Entity}
    (hf : ∀ en, (f en).parts = en.parts ∨ (f en).parts = []) :
    Tame w { w with entities := w.entities.modify i f } :=
  { Tame.refl w with
    entities_le := by simp
    firstBody := fun e b hb => by
      obtain ⟨en, hen, hfind⟩ := firstBody?_eq_some.1 hb
      obtain ⟨en0, hen0, rfl | rfl⟩ := exists_of_getElem?_modify hen
      · exact firstBody?_eq_some.2 ⟨en, hen0, hfind⟩
      · rcases hf en0 with heq | heq
        · rw [heq] at hfind
          exact firstBody?_eq_some.2 ⟨en0, hen0, hfind⟩
        · rw [heq] at hfind
          cases hfind
    whole := fun e h en hen p hp => by
      obtain ⟨en0, hen0, rfl | rfl⟩ := exists_of_getElem?_modify hen
      · exact h en hen0 p hp
      · rcases hf en0 with heq | heq
        · exact h en0 hen0 p (heq ▸ hp)
        · rw [heq] at hp
          cases hp }

lemma Shed.strip (w : World) (i : Nat) :
    Shed w { w with entities := w.entities.modify i ({ · with parts := [] }) } :=
  { Tame.modifyEntity fun _ => .inr rfl, Shed.refl w with
    place := fun j _ => by
      refine map_getElem?_modify ?_ j
      exact fun _ _ => rfl }

/-! ## Parts that were not there before -/

lemma Tame.not_isBody (h : Tame w w') (hp : w.parts.size ≤ p.index) :
    w'.partIs Part.isBody p = false := by
  rw [h.isBody, partIs_of_size_le hp]

def New (w w' : World) (ids : List PartId) : Prop :=
  ∀ p ∈ ids, w.parts.size ≤ p.index ∧ p.index < w'.parts.size

lemma Tame.push_entity (h : Tame w w') (hnew : New w w' en.parts) :
    Tame w { w' with entities := w'.entities.push en } :=
  { h with
    entities_le := by simpa using Nat.le_succ_of_le h.entities_le
    firstBody := by
      intro e b hb
      obtain ⟨en', hen', hfind⟩ := firstBody?_eq_some.1 hb
      rw [Array.getElem?_push] at hen'
      split at hen'
      · cases hen'
        have hnone : w'.partIs Part.isBody b = false :=
          h.not_isBody (hnew b (List.mem_of_find?_eq_some hfind)).1
        have hbody : w'.partIs Part.isBody b = true := List.find?_some hfind
        exact absurd (hnone.symm.trans hbody) (by simp)
      · exact h.firstBody e b (firstBody?_eq_some.2 ⟨en', hen', hfind⟩)
    whole := by
      intro e he en' hen' p hp
      rw [Array.getElem?_push] at hen'
      split at hen'
      · cases hen'
        exact (hnew p hp).2
      · exact h.whole e he en' hen' p hp }

lemma Still.push_entity (h : Still w w') (hnew : New w w' en.parts) :
    Still w { w' with entities := w'.entities.push en } :=
  { h.toTame.push_entity hnew, h with
    place := fun i hi => by
      rw [getElem?_push_of_lt (hi.trans_le h.entities_le)]
      exact h.place i hi }

def withEntity (w : World) (e : EntityId) (f : Entity → Entity) : World :=
  { w with entities := w.entities.modify e.index f }

def withOwner (w : World) (p : PartId) (e? : Option EntityId) : World :=
  { w with parts := w.parts.modify p.index fun o => { o with owner? := e? } }

lemma partIs_withOwner (w : World) (p : PartId) (e? : Option EntityId) (q : PartId) :
    (w.withOwner p e?).partIs Part.isBody q = w.partIs Part.isBody q :=
  partIs_modify (f := fun o => { o with owner? := e? }) (fun _ _ => rfl) q

lemma ownerOf?_withOwner_self (hp : p.index < w.parts.size) (e? : Option EntityId) :
    (w.withOwner p e?).ownerOf? p = e? := by
  rw [ownerOf?, World.withOwner, Array.getElem?_modify, if_pos rfl, Array.getElem?_eq_getElem hp]
  rfl

lemma ownerOf?_withOwner_of_ne (h : q ≠ p) (e? : Option EntityId) :
    (w.withOwner p e?).ownerOf? q = w.ownerOf? q := by
  have hidx : p.index ≠ q.index := fun heq => h (PartId.eq_of_index heq).symm
  rw [ownerOf?, World.withOwner, Array.getElem?_modify, if_neg hidx, ownerOf?]

lemma Tame.withOwner (h : Tame w w') (hnew : w.parts.size ≤ p.index)
    (e? : Option EntityId) : Tame w (w'.withOwner p e?) :=
  { h with
    parts_le := by simpa [World.withOwner] using h.parts_le
    isBody := fun q => (partIs_withOwner w' p e? q).trans (h.isBody q)
    owner := fun j hj => by
      rw [World.withOwner, getElem?_modify_of_lt hnew hj]
      exact h.owner j hj
    firstBody := fun e b hb => h.firstBody e b (firstBody?_of_same hb rfl (partIs_withOwner w' p e?))
    whole := fun e he => (h.whole e he).of_kept rfl (by simp [World.withOwner]) }

lemma Still.withOwner (h : Still w w') (hnew : w.parts.size ≤ p.index)
    (e? : Option EntityId) : Still w (w'.withOwner p e?) :=
  { h.toTame.withOwner hnew e?, h with
    hitbox := fun j hj => by
      rw [World.withOwner, getElem?_modify_of_lt hnew hj]
      exact h.hitbox j hj }

lemma Tame.extend (h : Tame w w') (hnew : New w w' [p]) (i : Nat) :
    Tame w { w' with
      entities := w'.entities.modify i fun en => { en with parts := en.parts ++ [p] } } := by
  obtain ⟨hbef, hth⟩ := hnew p (.head _)
  exact
    { h with
      entities_le := by simpa using h.entities_le
      firstBody := by
        intro e b hb
        obtain ⟨en, hen, hfind⟩ := firstBody?_eq_some.1 hb
        refine h.firstBody e b (firstBody?_eq_some.2 ?_)
        obtain ⟨en0, hen0, rfl | rfl⟩ := exists_of_getElem?_modify hen
        · exact ⟨en, hen0, hfind⟩
        · change (en0.parts ++ [p]).find? (w'.partIs Part.isBody) = some b at hfind
          rw [List.find?_append, List.find?_cons, h.not_isBody hbef] at hfind
          exact ⟨en0, hen0, by simpa using hfind⟩
      whole := by
        intro e he en hen q hq
        obtain ⟨en0, hen0, rfl | rfl⟩ := exists_of_getElem?_modify hen
        · exact h.whole e he en hen0 q hq
        · rcases List.mem_append.1 hq with hq | hq
          · exact h.whole e he en0 hen0 q hq
          · rw [List.mem_singleton.1 hq]
            exact hth }

end World

namespace Game

open World

lemma run_owner_eq_ok {w u : World} {b : PartId} {e : EntityId} :
    (owner b).runOn w = (.ok e, u) ↔ w.ownerOf? b = some e ∧ u = w := by
  constructor
  · intro h
    obtain ⟨o, _, howned, hown⟩ := run_bind_eq_ok.1 h
    obtain ⟨ho, rfl⟩ := run_orAbsent_eq_ok.1 howned
    obtain ⟨he, rfl⟩ := run_orAbsent_eq_ok.1 hown
    exact ⟨by rw [ownerOf?, ho, Option.map_some, he]; rfl, rfl⟩
  · rintro ⟨h, rfl⟩
    rw [ownerOf?, Option.join_eq_some_iff, Option.map_eq_some_iff] at h
    obtain ⟨o, ho, he⟩ := h
    exact run_owner ho he

/-! ## Steps that make parts

A step that makes a part and gives it to an entity changes, as seen from the world before the part
was there, nothing but what is new. So the rest of such a step is followed from that world on. -/

/-- However the world came from an earlier one by the relation, with some new parts, after the step
it still does. -/
def Keeps {α : Type} (R : World → World → Prop) (w0 : World) (ids : List PartId) (g : Game α) :
    Prop :=
  ∀ w, R w0 w → New w0 w ids → R w0 (g.runOn w).2 ∧ New w0 (g.runOn w).2 ids

/-- The part that the step gives is new and belongs to nobody. -/
def Fresh (g : Game PartId) : Prop :=
  ∀ w w' id, g.runOn w = (.ok id, w') → New w w' [id] ∧ w'.ownerOf? id = none

/-- The step gives nothing but one part, and parts that were there are still there and whose they
were. -/
def Gives (id : PartId) (g : Game PartId) : Prop :=
  ∀ w w' id', g.runOn w = (.ok id', w') → id' = id ∧ PartsLe w w'

section Fresh

variable {α β : Type} {R : World → World → Prop} {w0 : World} {ids : List PartId}

lemma Keeps.bind {g : Game α} {f : α → Game β} (hg : Keeps R w0 ids g)
    (hf : ∀ a, Keeps R w0 ids (f a)) : Keeps R w0 ids (g >>= f) := by
  intro w h hnew
  exact snd_run_bind (Q := fun u => R w0 u ∧ New w0 u ids) (hg w h hnew) (fun _ hu => hu)
    fun a u _ hu => hf a u hu.1 hu.2

lemma Keeps.forM {γ : Type} {k : γ → Game PUnit} {cs : List γ}
    (hk : ∀ c ∈ cs, Keeps R w0 ids (k c)) : Keeps R w0 ids (cs.forM k) := by
  induction cs with
  | nil => exact fun _ h hnew => ⟨h, hnew⟩
  | cons c cs ih =>
    exact (hk c (.head _)).bind fun _ => ih fun c hc => hk c (.tail _ hc)

lemma Obeys.keeps [IsPreorder World R] [Allows R Tame] {g : Game α} (hg : Obeys R g) :
    Keeps R w0 ids g := by
  intro w h hnew
  have htame : Tame w (g.runOn w).2 := Allows.allows _ _ (hg w)
  exact ⟨IsTrans.trans w0 w _ h (hg w), fun p hp =>
    ⟨(hnew p hp).1, (hnew p hp).2.trans_le htame.parts_le⟩⟩

lemma Obeys.bind_fresh {g : Game PartId} {f : PartId → Game β} (hg : Obeys R g)
    (hfr : Fresh g) (hf : ∀ w0 id, Keeps R w0 [id] (f id)) : Obeys R (g >>= f) := by
  intro w
  exact snd_run_bind (hg w) (fun _ hu => hu) fun id u hrun hu =>
    (hf w id u hu (hfr w u id hrun).1).1

lemma Obeys.bind_part [IsPreorder World R] {i : PartId} {f : Part → Game β}
    (hf : ∀ w o, w.parts[i.index]? = some o → R w ((f o.part).runOn w).2) :
    Obeys R (part i >>= f) := by
  intro w
  rcases ho : w.parts[i.index]? with _ | o
  · have hp : (part i).runOn w = (.error .absent, w) := by
      rw [part, run_bind, owned, run_get_bind, ho]
      rfl
    rw [run_bind, hp]
    exact Std.Refl.refl w
  · rw [bind_ok (run_part ho)]
    exact hf w o ho

lemma Keeps.self [IsPreorder World R] {g : Game α} (h : Keeps R w0 [] g) : R w0 (g.runOn w0).2 :=
  (h w0 (Std.Refl.refl w0) nofun).1

lemma Gives.pure (id : PartId) : Gives id (pure id) := by
  rintro w w' id' hrun
  cases hrun
  exact ⟨rfl, Std.Refl.refl w⟩

lemma Gives.bind {id : PartId} {g : Game α} {f : α → Game PartId} (hg : Obeys PartsLe g)
    (hf : ∀ a, Gives id (f a)) : Gives id (g >>= f) := by
  intro w w' id' hrun
  obtain ⟨a, u, hrun', hrun⟩ := run_bind_eq_ok.1 hrun
  obtain ⟨hid, hle⟩ := hf a u w' id' hrun
  exact ⟨hid, IsTrans.trans w u w' (hg.of_run hrun') hle⟩

lemma Fresh.throw (fault : Fault) : Fresh (throw fault) := by
  intro w w' id hrun
  rw [run_throw] at hrun
  cases hrun

lemma fresh_newPart (p : Part) : Fresh (newPart p) := by
  rintro w w' id hrun
  cases hrun
  refine ⟨fun q hq => ?_, by simp [ownerOf?]⟩
  rw [List.mem_singleton.1 hq]
  exact ⟨le_rfl, by simp⟩

lemma Fresh.gives {g : Game PartId} {f : PartId → Game PartId} (hg : Fresh g)
    (hf : ∀ id, Gives id (f id)) : Fresh (g >>= f) := by
  intro w w' id hrun
  obtain ⟨id', u, hrun', hrun⟩ := run_bind_eq_ok.1 hrun
  obtain ⟨rfl, hle⟩ := hf id' u w' id hrun
  obtain ⟨hnew, hloose⟩ := hg w u id hrun'
  have hth := (hnew id (.head _)).2
  refine ⟨fun q hq => ⟨(hnew q hq).1, (hnew q hq).2.trans_le hle.parts_le⟩, ?_⟩
  rw [ownerOf?, hle.owner id.index hth]
  exact hloose

lemma Fresh.bind {g : Game α} {f : α → Game PartId} (hg : Obeys PartsLe g)
    (hf : ∀ a, Fresh (f a)) : Fresh (g >>= f) := by
  intro w w' id hrun
  obtain ⟨a, u, hrun', hrun⟩ := run_bind_eq_ok.1 hrun
  obtain ⟨hnew, hloose⟩ := hf a u w' id hrun
  refine ⟨fun q hq => ⟨?_, (hnew q hq).2⟩, hloose⟩
  exact (hg.of_run hrun').parts_le.trans (hnew q hq).1

end Fresh

end Game

end TileQuest
