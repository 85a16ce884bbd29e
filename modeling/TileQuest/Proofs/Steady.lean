import TileQuest.Proofs.Bodies.Still
import TileQuest.World.Bags

/-!
# Steps that disturb nothing

Most of what a part holds matters to nobody else: what a label says, which cell of a sheet is shown,
how long a weapon cools down. `Part.gist` is what is left of a part when all that is forgotten:
enough to tell in which registers the part stands, what it keeps on the screen, and whom it is tied
to.
-/

namespace TileQuest

variable {α : Type} {R : World → World → Prop} {x y : Json}

/-! ## What matters about a part -/

/-- What others go by when they deal with a part. -/
inductive Gist where
  /-- An image, in the world or over it. -/
  | image (isOverlay : Bool)
  /-- A box to type into. -/
  | inputBox
  /-- A line of text or a bar. -/
  | line
  /-- A line of text that can be typed into. -/
  | field
  /-- The window of an inventory, with what it shows. -/
  | view (items : List PartId)
  /-- A list that can be scrolled. -/
  | list
  /-- A dialogue, with what it shows. -/
  | talk (shown : List PartId)
  /-- A hitbox that nothing else reacts to. -/
  | shape (hitbox : Rect)
  /-- A hitbox that stops others. -/
  | body (hitbox : Rect)
  /-- A trigger. -/
  | trigger (hitbox : Rect)
  /-- Something that can be clicked. -/
  | usable
  /-- The ability to fight, with the weapon and its sound if these are there to stay. -/
  | fighter (onDeath : Death) (weapon? : Option ItemType) (sound? : Option WeaponSound)
  /-- The player, with what is on the screen and the ability to fight. -/
  | player (hud? : Option (PartId × PartId × EntityId)) (bar? combat? : Option PartId)
    (health? : Option Json)
  /-- An enemy, with the ability to fight and whom it is after. -/
  | enemy (combat? : Option PartId) (targeted? : Option EntityId) (health? : Option Json)
  /-- What stands for an entity in the editor. -/
  | placeholder
  /-- A probe. -/
  | probe
  /-- Anything else. -/
  | other

/-- The rectangle is no more than a thousand pixels wide, high and off. -/
def Rect.IsSmall (r : Rect) : Prop :=
  r.x.natAbs ≤ 1000 ∧ r.y.natAbs ≤ 1000 ∧ r.w.natAbs ≤ 1000 ∧ r.h.natAbs ≤ 1000

instance (r : Rect) : Decidable r.IsSmall := inferInstanceAs (Decidable (_ ∧ _ ∧ _ ∧ _))

namespace Gist

def hitbox? : Gist → Option Rect
  | shape r => some r
  | body r => some r
  | trigger r => some r
  | _ => none

/-- A hitbox that stops others. -/
def isBody : Gist → Bool
  | body _ => true
  | _ => false

/-- A part of this sort is something on the screen that keeps no other parts there. -/
def isPlain : Gist → Bool
  | image _ => true
  | inputBox => true
  | line => true
  | field => true
  | view items => items.isEmpty
  | list => true
  | shape _ => true
  | other => true
  | _ => false

/-- Setting up a part of this sort changes nothing that others go by. -/
def isQuiet : Gist → Bool
  | player .. => false
  | enemy .. => false
  | placeholder => false
  | probe => false
  | _ => true

lemma isBody_of_isPlain {g : Gist} (h : g.isPlain = true) : g.isBody = false := by
  cases g <;> first | rfl | cases h

end Gist

namespace Part

/-- What others go by when they deal with the part. Only an enemy has a weapon for good. -/
def gist : Part → Gist
  | sprite s => .image s.isOverlay
  | inputBox .. => .inputBox
  | label _ => .line
  | textField .. => .field
  | bar _ => .line
  | inventoryView v => .view v.items
  | scrollView _ => .list
  | dialogue d => .talk d.shown
  | shape r => .shape r
  | body r => .body r
  | trigger r _ => .trigger r
  | usable _ => .usable
  | combat c =>
    if c.onDeath = .leave then .fighter .leave c.equipped? c.sound?
    else .fighter c.onDeath none none
  | player p =>
    .player (p.hud?.map fun h => (h.place, h.message, h.window)) p.bar? p.combat? p.health?
  | enemy e => .enemy e.combat? e.targeted? e.health?
  | placeholder _ => .placeholder
  | probe _ => .probe
  | _ => .other

lemma gist_combat (c : Combat) : (combat c).gist = .fighter c.onDeath
    (if c.onDeath = .leave then c.equipped? else none) (if c.onDeath = .leave then c.sound? else none) := by
  rw [gist]
  split
  · rw [‹c.onDeath = .leave›]
  · rfl

lemma hitbox?_gist (p : Part) : p.gist.hitbox? = p.hitbox? := by
  cases p with
  | combat c => rw [gist_combat]; rfl
  | _ => rfl

lemma isBody_gist (p : Part) : p.gist.isBody = p.isBody := by
  cases p with
  | combat c => rw [gist_combat]; rfl
  | _ => rfl

/-- What can be counted on whatever a part was made for. The numbers that a fighter is made of, or
will be, are numbers, and whoever leaves the area in death has the weapon of an enemy or none. An
enemy goes somewhere while it is after somebody. Bodies and triggers are small. -/
def Fit : Part → Prop
  | body r => r.IsSmall
  | trigger r _ => r.IsSmall
  | combat c =>
    ((∃ n, c.health = .num n) ∧ (∃ n, c.maxHealth = .num n) ∧ ∃ n, c.regeneration = .num n) ∧
      (c.onDeath = .restart ∨ c.onDeath = .leave ∧ (∃ n, c.cooldown = .num n) ∧
        ∀ weapon, c.equipped? = some weapon → ItemType.all[4]? = some weapon)
  | player p => ∀ h, p.health? = some h → ∃ n, h = .num n
  | enemy e =>
    (∀ h, e.health? = some h → ∃ n, h = .num n) ∧ ItemType.all[4]? = some e.weapon ∧
      e.target?.isSome = e.targeted?.isSome
  | _ => True

end Part

/-- The part is fit and has lost no faculty. -/
structure Owned.Able (o : Owned) : Prop where
  lost : o.lost = []
  fit : o.part.Fit

def Owned.essence (o : Owned) : Gist × Option EntityId := (o.part.gist, o.owner?)

namespace World

variable {w w' w'' : World} {p : PartId} {e : EntityId} {g : Gist} {ids : List PartId}

/-! ## The relation -/

/-- What of a world does not change at all in most steps. -/
def frame (w : World) :
    Array Area × Option AreaId × Array TileMap × List PartId × List PartId × List PartId ×
      List Scalar × Disk × Option (List EntityId) :=
  (w.areas, w.area?, w.grounds, w.bodies, w.triggers, w.usables, w.taken, w.disk,
    w.editor.toolEntities?)

lemma frame_eq_iff : w'.frame = w.frame ↔
    w'.areas = w.areas ∧ w'.area? = w.area? ∧ w'.grounds = w.grounds ∧ w'.bodies = w.bodies ∧
      w'.triggers = w.triggers ∧ w'.usables = w.usables ∧ w'.taken = w.taken ∧ w'.disk = w.disk ∧
      w'.editor.toolEntities? = w.editor.toolEntities? := by
  simp only [frame, Prod.mk.injEq]

/-- The parts and entities that were there stay as they were, as far as others go by it, and where
they were registered. -/
structure Lasting (w w' : World) : Prop where
  parts_le : w.parts.size ≤ w'.parts.size
  entities_le : w.entities.size ≤ w'.entities.size
  essence : ∀ i < w.parts.size, w'.parts[i]?.map Owned.essence = w.parts[i]?.map Owned.essence
  entity : ∀ i < w.entities.size, w'.entities[i]? = w.entities[i]?
  active : ∀ p ∈ w.active, p.index < w.parts.size → p ∈ w'.active
  drawn : ∀ p ∈ w.drawn, p.index < w.parts.size → p ∈ w'.drawn
  overlay : ∀ p ∈ w.overlay, p.index < w.parts.size → p ∈ w'.overlay

/-- What was there stays as it was, and what is new are things on the screen that are tied to
nothing. -/
structure Steady (w w' : World) : Prop extends Lasting w w' where
  able : ∀ (i : Nat) (o' : Owned), w'.parts[i]? = some o' →
    (∀ o : Owned, w.parts[i]? = some o → o.Able) → o'.Able
  plain : ∀ (i : Nat) (o' : Owned), w.parts.size ≤ i → w'.parts[i]? = some o' →
    o'.part.gist.isPlain = true
  newEntity : ∀ (i : Nat) (en : Entity), w.entities.size ≤ i → w'.entities[i]? = some en →
    ∀ p ∈ en.parts, w.parts.size ≤ p.index ∧ w'.ownerOf? p = some ⟨i⟩
  frame : w'.frame = w.frame

lemma lt_of_ownerOf? (h : w.ownerOf? p = some e) : p.index < w.parts.size := by
  rcases Nat.lt_or_ge p.index w.parts.size with hlt | hle
  · exact hlt
  · rw [ownerOf?, Array.getElem?_eq_none hle] at h
    cases h

lemma ownerOf?_of_essence
    (h : w'.parts[p.index]?.map Owned.essence = w.parts[p.index]?.map Owned.essence) :
    w'.ownerOf? p = w.ownerOf? p := by
  have hown := congrArg (Option.map Prod.snd) h
  rw [Option.map_map, Option.map_map] at hown
  exact congrArg Option.join hown

lemma Lasting.ownerOf?_eq (h : Lasting w w') (hp : p.index < w.parts.size) :
    w'.ownerOf? p = w.ownerOf? p := ownerOf?_of_essence (h.essence p.index hp)

def gist? (w : World) (p : PartId) : Option Gist := w.parts[p.index]?.map fun o => o.part.gist

lemma gist?_eq_some : w.gist? p = some g ↔ ∃ o, w.parts[p.index]? = some o ∧ o.part.gist = g :=
  Option.map_eq_some_iff

lemma lt_of_gist? (h : w.gist? p = some g) : p.index < w.parts.size := by
  obtain ⟨o, ho, -⟩ := gist?_eq_some.1 h
  exact lt_of_getElem? ho

lemma gist?_of_essence
    (h : w'.parts[p.index]?.map Owned.essence = w.parts[p.index]?.map Owned.essence) :
    w'.gist? p = w.gist? p := by
  have hg := congrArg (Option.map Prod.fst) h
  rwa [Option.map_map, Option.map_map] at hg

lemma Lasting.gist?_eq (h : Lasting w w') (hp : p.index < w.parts.size) :
    w'.gist? p = w.gist? p := gist?_of_essence (h.essence p.index hp)

lemma Lasting.gist?_some (h : Lasting w w') (hp : w.gist? p = some g) :
    w'.gist? p = some g := (h.gist?_eq (lt_of_gist? hp)).trans hp

lemma Lasting.ownerOf?_some (h : Lasting w w')
    (hp : w.ownerOf? p = some e) : w'.ownerOf? p = some e :=
  (h.ownerOf?_eq (lt_of_ownerOf? hp)).trans hp

lemma Lasting.refl (w : World) : Lasting w w where
  parts_le := le_rfl
  entities_le := le_rfl
  essence _ _ := rfl
  entity _ _ := rfl
  active _ hp _ := hp
  drawn _ hp _ := hp
  overlay _ hp _ := hp

lemma Lasting.trans (h : Lasting w w') (h' : Lasting w' w'') : Lasting w w'' where
  parts_le := h.parts_le.trans h'.parts_le
  entities_le := h.entities_le.trans h'.entities_le
  essence i hi := (h'.essence i (hi.trans_le h.parts_le)).trans (h.essence i hi)
  entity i hi := (h'.entity i (hi.trans_le h.entities_le)).trans (h.entity i hi)
  active p hp hlt := h'.active p (h.active p hp hlt) (hlt.trans_le h.parts_le)
  drawn p hp hlt := h'.drawn p (h.drawn p hp hlt) (hlt.trans_le h.parts_le)
  overlay p hp hlt := h'.overlay p (h.overlay p hp hlt) (hlt.trans_le h.parts_le)

lemma Steady.refl (w : World) : Steady w w :=
  { Lasting.refl w with
    able := fun _ o ho h => h o ho
    plain := fun i o hi ho => by
      rw [Array.getElem?_eq_none hi] at ho
      cases ho
    newEntity := fun i en hi hen => by
      rw [Array.getElem?_eq_none hi] at hen
      cases hen
    frame := rfl }

lemma Steady.trans (h : Steady w w') (h' : Steady w' w'') : Steady w w'' :=
  { h.toLasting.trans h'.toLasting with
    able := fun i o'' ho'' hable => h'.able i o'' ho'' fun o' ho' => h.able i o' ho' hable
    plain := fun i o'' hi ho'' => by
      rcases Nat.lt_or_ge i w'.parts.size with hlt | hle
      · -- the part came with the first step and kept its gist in the second
        have hsame := h'.essence i hlt
        rw [ho'', Array.getElem?_eq_getElem hlt] at hsame
        have hg : o''.part.gist = w'.parts[i].part.gist :=
          congrArg Prod.fst (Option.some.inj hsame)
        rw [hg]
        exact h.plain i _ hi (Array.getElem?_eq_getElem hlt)
      · exact h'.plain i o'' hle ho''
    newEntity := fun i en hi hen p hp => by
      rcases Nat.lt_or_ge i w'.entities.size with hlt | hle
      · rw [h'.entity i hlt] at hen
        obtain ⟨hnew, hown⟩ := h.newEntity i en hi hen p hp
        exact ⟨hnew, (h'.ownerOf?_eq (lt_of_ownerOf? hown)).trans hown⟩
      · obtain ⟨hnew, hown⟩ := h'.newEntity i en hle hen p hp
        exact ⟨h.parts_le.trans hnew, hown⟩
    frame := h'.frame.trans h.frame }

instance : IsPreorder World Steady where
  refl := Steady.refl
  trans _ _ _ := Steady.trans

/-! ## Nothing moves by it -/

lemma Steady.partIs_eq (h : Steady w w') {test : Part → Bool} {ofGist : Gist → Bool}
    (htest : ∀ p : Part, ofGist p.gist = test p)
    (hplain : ∀ g : Gist, g.isPlain = true → ofGist g = false) (p : PartId) :
    w'.partIs test p = w.partIs test p := by
  rcases Nat.lt_or_ge p.index w.parts.size with hlt | hle
  · have hsame := congrArg (Option.map fun e : Gist × Option EntityId => ofGist e.1)
      (h.essence p.index hlt)
    simp only [Option.map_map, Function.comp_def, Owned.essence, htest] at hsame
    exact congrArg (Option.getD · false) hsame
  · rw [partIs_of_size_le hle]
    rcases ho : w'.parts[p.index]? with _ | o
    · rw [partIs, ho]
      rfl
    · rw [partIs_of ho, ← htest]
      exact hplain _ (h.plain p.index o hle ho)

lemma Steady.isBody_eq (h : Steady w w') (p : PartId) :
    w'.partIs Part.isBody p = w.partIs Part.isBody p :=
  h.partIs_eq Part.isBody_gist (fun _ => Gist.isBody_of_isPlain) p

lemma Steady.shed (h : Steady w w') : Shed w w' := by
  obtain ⟨has, ha, hgrs, hbods, htrig, -, -, hd, -⟩ := frame_eq_iff.1 h.frame
  refine
    { loads_le := Nat.le_of_eq (by rw [loads, loads, has, hgrs])
      parts_le := h.parts_le
      entities_le := h.entities_le
      bodies := hbods ▸ List.Sublist.refl _
      isBody := h.isBody_eq
      owner := fun i hi => ?_
      firstBody := fun e b hb => ?_
      whole := fun e he en hen p hp => ?_
      hitbox := fun i hi => ?_
      area := ha
      ground := fun i => by rw [has]
      grounds := hgrs
      place := fun i hi => by rw [h.entity i hi]
      triggers := htrig ▸ List.Sublist.refl _
      disk := hd
      edited := fun i => by rw [has] }
  · have hsame := congrArg (Option.map Prod.snd) (h.essence i hi)
    rwa [Option.map_map, Option.map_map] at hsame
  · obtain ⟨en, hen, hfind⟩ := firstBody?_eq_some.1 hb
    rw [funext h.isBody_eq] at hfind
    rcases Nat.lt_or_ge e.index w.entities.size with hlt | hle
    · exact firstBody?_eq_some.2 ⟨en, (h.entity e.index hlt) ▸ hen, hfind⟩
    · -- what a new entity is made of is new, and so no body
      have hnew := (h.newEntity e.index en hle hen b (List.mem_of_find?_eq_some hfind)).1
      have hbody : w.partIs Part.isBody b = true := List.find?_some hfind
      rw [partIs_of_size_le hnew] at hbody
      cases hbody
  · rcases Nat.lt_or_ge e.index w.entities.size with hlt | hle
    · rw [h.entity e.index hlt] at hen
      exact (he en hen p hp).trans_le h.parts_le
    · exact lt_of_ownerOf? (h.newEntity e.index en hle hen p hp).2
  · have hsame := congrArg (Option.map fun e : Gist × Option EntityId => e.1.hitbox?)
      (h.essence i hi)
    simpa only [Option.map_map, Function.comp_def, Owned.essence, Part.hitbox?_gist] using hsame

instance {R : World → World → Prop} [Game.Allows Shed R] : Game.Allows Steady R :=
  ⟨fun w w' h => Game.Allows.allows w w' h.shed⟩

/-! ## Changes of the world -/

/-- The registers that everything on the screen and everything that acts is in. -/
def screen (w : World) : List PartId × List PartId × List PartId := (w.active, w.drawn, w.overlay)

lemma Steady.of_grown (hps : w'.parts = w.parts) (hents : w'.entities = w.entities)
    (hframe : w'.frame = w.frame) (hact : ∀ p ∈ w.active, p ∈ w'.active)
    (hdrawn : ∀ p ∈ w.drawn, p ∈ w'.drawn) (hlay : ∀ p ∈ w.overlay, p ∈ w'.overlay) :
    Steady w w' :=
  { Steady.refl w with
    parts_le := Nat.le_of_eq (by rw [hps])
    entities_le := Nat.le_of_eq (by rw [hents])
    essence := fun i _ => by rw [hps]
    able := fun i o' ho' h => h o' (hps ▸ ho')
    plain := fun i o' hi ho' => (Steady.refl w).plain i o' hi (hps ▸ ho')
    entity := fun i _ => by rw [hents]
    newEntity := fun i en hi hen => by
      rw [hents, Array.getElem?_eq_none hi] at hen
      cases hen
    frame := hframe
    active := fun p hp _ => hact p hp
    drawn := fun p hp _ => hdrawn p hp
    overlay := fun p hp _ => hlay p hp }

lemma Steady.of_same
    (h : (w'.parts, w'.entities, w'.frame, w'.screen) = (w.parts, w.entities, w.frame, w.screen)) :
    Steady w w' := by
  simp only [Prod.mk.injEq, screen] at h
  obtain ⟨hps, hents, hframe, hact, hdrawn, hlay⟩ := h
  exact .of_grown hps hents hframe (fun _ hp => hact ▸ hp) (fun _ hp => hdrawn ▸ hp)
    fun _ hp => hlay ▸ hp

lemma Steady.modifyOwned {i : Nat} {f : Owned → Owned}
    (hessence : ∀ o, w.parts[i]? = some o → (f o).essence = o.essence)
    (hable : ∀ o, w.parts[i]? = some o → o.Able → (f o).Able) :
    Steady w { w with parts := w.parts.modify i f } :=
  { Steady.refl w with
    parts_le := by simp
    essence := fun j _ => map_getElem?_modify hessence j
    able := fun j o' ho' h => by
      rw [Array.getElem?_modify] at ho'
      split at ho'
      · rename_i hij
        obtain ⟨o, ho, rfl⟩ := Option.map_eq_some_iff.1 ho'
        exact hable o (hij ▸ ho) (h o ho)
      · exact h o' ho'
    plain := fun j o' hj ho' => by
      obtain ⟨o, ho, -⟩ := exists_of_getElem?_modify ho'
      rw [Array.getElem?_eq_none hj] at ho
      cases ho
    newEntity := fun j en hj hen => by
      rw [Array.getElem?_eq_none hj] at hen
      cases hen }

lemma Steady.push_part {p : Part} (hplain : p.gist.isPlain = true) (hfit : p.Fit) :
    Steady w { w with parts := w.parts.push { part := p } } :=
  { Steady.refl w with
    parts_le := by simp
    essence := fun i hi => by rw [getElem?_push_of_lt hi]
    able := fun i o' ho' h => by
      rw [Array.getElem?_push] at ho'
      split at ho'
      · cases ho'
        exact ⟨rfl, hfit⟩
      · exact h o' ho'
    plain := fun i o' hi ho' => by
      rw [Array.getElem?_push] at ho'
      split at ho'
      · cases ho'
        exact hplain
      · rw [Array.getElem?_eq_none hi] at ho'
        cases ho'
    newEntity := fun i en hi hen => by
      rw [Array.getElem?_eq_none hi] at hen
      cases hen }

/-! ## New entities -/

def partsOf (w : World) (e : EntityId) : List PartId :=
  (w.entities[e.index]?.map Entity.parts).getD []

lemma Lasting.partsOf_eq (h : Lasting w w') (he : e.index < w.entities.size) :
    w'.partsOf e = w.partsOf e := by
  rw [partsOf, h.entity e.index he, partsOf]

def given (w : World) (ids : List PartId) (e : EntityId) : World :=
  { w with parts := ids.foldl (fun parts p =>
      parts.modify p.index fun o => { o with owner? := some e }) w.parts }

def placed (w : World) (ids : List PartId) (x y : Json) : World :=
  ({ w with entities := w.entities.push { x, y, parts := ids } }).given ids ⟨w.entities.size⟩

lemma getElem?_given (w : World) (ids : List PartId) (e : EntityId) (p : PartId) :
    (w.given ids e).parts[p.index]? =
      w.parts[p.index]?.map fun o => if p ∈ ids then { o with owner? := some e } else o := by
  rw [given]
  induction ids generalizing w with
  | nil => simp
  | cons q ids ih =>
    have hstep := ih (w.withOwner q (some e))
    rw [List.foldl_cons]
    refine hstep.trans ?_
    rw [World.withOwner, Array.getElem?_modify]
    by_cases hqp : q = p
    · subst hqp
      rw [if_pos rfl, Option.map_map]
      refine congrArg (Option.map · _) (funext fun o => ?_)
      simp
    · have hidx : q.index ≠ p.index := fun h => hqp (PartId.eq_of_index h)
      rw [if_neg hidx]
      refine congrArg (Option.map · _) (funext fun o => ?_)
      simp [Ne.symm hqp]

lemma gist?_given (w : World) (ids : List PartId) (e : EntityId) (p : PartId) :
    (w.given ids e).gist? p = w.gist? p := by
  rw [gist?, getElem?_given, Option.map_map, gist?]
  refine congrArg (Option.map · _) (funext fun o => ?_)
  rw [Function.comp_apply]
  split <;> rfl

lemma size_given (w : World) (ids : List PartId) (e : EntityId) :
    (w.given ids e).parts.size = w.parts.size := by
  rw [given]
  induction ids generalizing w with
  | nil => rfl
  | cons q ids ih => exact (ih (w.withOwner q (some e))).trans Array.size_modify

lemma partsOf_placed (w : World) (ids : List PartId) (x y : Json) :
    (w.placed ids x y).partsOf ⟨w.entities.size⟩ = ids := by
  simp [partsOf, placed, given]

lemma ownerOf?_given (w : World) (e : EntityId)
    (hp : p ∈ ids) (hlt : p.index < w.parts.size) : (w.given ids e).ownerOf? p = some e := by
  rw [ownerOf?, getElem?_given, Array.getElem?_eq_getElem hlt]
  simp [hp]

lemma ownerOf?_given_of_notMem (w : World) (e : EntityId)
    (hp : p ∉ ids) : (w.given ids e).ownerOf? p = w.ownerOf? p := by
  rw [ownerOf?, getElem?_given, ownerOf?]
  simp [hp]

/-- The parts are there and belong to nobody, and were not there before. -/
def Loose (w w' : World) (ids : List PartId) : Prop :=
  ∀ p ∈ ids, (w.parts.size ≤ p.index ∧ p.index < w'.parts.size) ∧ w'.ownerOf? p = none

lemma Loose.of_lasting (h : Loose w w' ids) (hlast : Lasting w' w'') : Loose w w'' ids := by
  intro p hp
  obtain ⟨⟨hnew, hth⟩, hnob⟩ := h p hp
  exact ⟨⟨hnew, hth.trans_le hlast.parts_le⟩,
    (hlast.ownerOf?_eq hth).trans hnob⟩

lemma getElem?_placed (w : World) (ids : List PartId) (x y : Json) (i : Nat) :
    (w.placed ids x y).parts[i]? = w.parts[i]?.map fun o =>
      if ⟨i⟩ ∈ ids then { o with owner? := some ⟨w.entities.size⟩ } else o :=
  getElem?_given _ ids _ ⟨i⟩

lemma Lasting.placed (h : Lasting w w')
    (hnew : ∀ p ∈ ids, w.parts.size ≤ p.index) (x y : Json) : Lasting w (w'.placed ids x y) := by
  refine { h with
    parts_le := h.parts_le.trans (size_given _ ids _).symm.le
    entities_le := ?_
    essence := fun i hi => ?_
    entity := fun i hi => ?_ }
  · exact h.entities_le.trans (by simp [World.placed, given])
  · have hold : ⟨i⟩ ∉ ids := fun hmem => hi.not_ge (hnew _ hmem)
    rw [getElem?_placed, Option.map_map, ← h.essence i hi]
    simp [hold, Function.comp_def]
  · rw [← h.entity i hi]
    exact getElem?_push_of_lt (hi.trans_le h.entities_le)

lemma Steady.placed (h : Steady w w') (hloose : Loose w w' ids)
    (x y : Json) : Steady w (w'.placed ids x y) := by
  refine { h.toLasting.placed (fun p hp => (hloose p hp).1.1) x y with
    able := fun i o' ho' hable => ?_
    plain := fun i o' hi ho' => ?_
    newEntity := fun i en hi hen p hp => ?_
    frame := h.frame }
  · rw [getElem?_placed] at ho'
    obtain ⟨o, ho, rfl⟩ := Option.map_eq_some_iff.1 ho'
    have hold := h.able i o ho hable
    split
    · exact ⟨hold.lost, hold.fit⟩
    · exact hold
  · rw [getElem?_placed] at ho'
    obtain ⟨o, ho, rfl⟩ := Option.map_eq_some_iff.1 ho'
    have hold := h.plain i o hi ho
    split
    · exact hold
    · exact hold
  · change (w'.entities.push { x, y, parts := ids })[i]? = some en at hen
    rw [Array.getElem?_push] at hen
    split at hen
    · rename_i hi'
      cases hen
      obtain ⟨⟨hnew, hth⟩, -⟩ := hloose p hp
      refine ⟨hnew, ?_⟩
      rw [hi']
      exact ownerOf?_given _ _ hp hth
    · obtain ⟨hnew, hown⟩ := h.newEntity i en hi hen p hp
      -- a part that belongs to an entity already is none of those that are given away
      have hoth : p ∉ ids := fun hmem => by
        rw [(hloose p hmem).2] at hown
        cases hown
      exact ⟨hnew, (ownerOf?_given_of_notMem _ _ hoth).trans hown⟩

end World

namespace Game

open World

lemma run_placeParts (w : World) (ids : List PartId) (x y : Json) :
    (placeParts ids x y).runOn w = (.ok ⟨w.entities.size⟩, w.placed ids x y) := by
  have hgive (e : EntityId) (u : World) :
      (ids.forM fun p => setOwner p (some e)).runOn u = (.ok (), u.given ids e) := by
    induction ids generalizing u with
    | nil => rfl
    | cons q ids ih => exact ih (u.withOwner q (some e))
  rw [placeParts, run_get_bind, run_modify_bind, bind_ok (hgive _ _)]
  rfl

lemma Fresh.loose {g : Game PartId} (hg : Fresh g) {w w' : World} {id : PartId}
    (hrun : g.runOn w = (.ok id, w')) : Loose w w' [id] := by
  obtain ⟨hnew, hown⟩ := hg w w' id hrun
  intro p hp
  rw [List.mem_singleton] at hp
  subst hp
  exact ⟨hnew p (.head _), hown⟩

lemma Obeys.placeNew {S : World → World → Prop} [IsPreorder World R] [Allows S R]
    {g : Game PartId} {f : PartId → EntityId → Game α} (hg : Obeys S g)
    (hfr : Fresh g) (hplcd : ∀ w u id, S w u → Loose w u [id] → S w (u.placed [id] x y))
    (hf : ∀ id e, Obeys R (f id e)) : Obeys R (g >>= fun id => placeParts [id] x y >>= f id) := by
  intro w
  refine snd_run_bind (hg w) (fun u hu => Allows.allows w u hu) fun id u hrun hu => ?_
  rw [bind_ok (run_placeParts u [id] x y)]
  exact IsTrans.trans w _ _ (Allows.allows w _ (hplcd w u id hu (hfr.loose hrun))) (hf id _ _)

lemma steady_placeNew [IsPreorder World R]
    [Allows Steady R] {g : Game PartId} {f : PartId → EntityId → Game α}
    (hg : Obeys Steady g) (hfr : Fresh g) (hf : ∀ id e, Obeys R (f id e)) :
    Obeys R (g >>= fun id => placeParts [id] x y >>= f id) :=
  hg.placeNew hfr (fun _ _ _ hu hloose => hu.placed hloose x y) hf

end Game

end TileQuest
