import TileQuest.Proofs.Maps.Strays

/-!
# Making entities cleanly

What can be said of the factories about things that are drawn (`World.Tidies`). A tree and a rock
are always made. A teleporter, an item on the ground and an enemy are made unless an argument is
wrong, and then nothing has happened: once the first part is there, nothing can fail any more
(`Game.Kit`, `Game.ends_setUpEnemy_tidied`).
-/

namespace TileQuest

variable {β : Type} {E : World → Prop} {id : PartId} {o : Owned} {s : Sprite}

def Part.mapSprite (change : Sprite → Sprite) : Part → Part
  | .sprite s => .sprite (change s)
  | p => p

namespace Game

open World

variable {w0 w : World}

lemma Ends.passed {α : Type} {x : Except Fault α} {a : α} {f : α → Game β}
    {Q : β → World → Prop} (hx : x = .ok a) (hf : Ends w (f a) Q E) : Ends w (liftM x >>= f) Q E :=
  .of_run_eq (run_lift_bind hx f w) hf

lemma Ends.tidied {g : Game β} (h : Ends w g (fun _ _ => True) fun _ => False)
    (hg : Obeys Tidies g) : Ends w g (fun _ => Tidies w) fun _ => False :=
  (h.and_obeys hg).mono (fun _ _ hu => hu.2) fun _ hu => hu.1

/-! ## Making the player -/

lemma run_sprite (ho : w.parts[id.index]? = some o)
    (hs : o.part = .sprite s) : (sprite id).runOn w = (.ok s, w) := by
  rw [sprite, bind_ok (run_part ho), hs]
  rfl

lemma tidies_showCell (id : PartId) (column row : Json) : Obeys Tidies (showCell id column row) :=
  (tidies_modifyPart id fun p => by cases p <;> rfl).bind fun _ => (obeys_sprite id).bind fun _ =>
    (Obeys.orAbsent _).bind fun _ => .lifts fun _ => (tidies_paint _).bind fun _ => .lifts fun _ =>
      tidies_paint _

lemma ends_showCell {sheet : Sheet} {column row : Json}
    (ho : w.parts[id.index]? = some o) (hs : o.part = .sprite s) (hsheet : s.sheet? = some sheet)
    {x y : Json} {r : Rect} (hcor : Sheet.corner { sheet with column, row } = .ok (x, y))
    (hrect : Rect.ofValues x y sheet.cellWidth sheet.cellHeight = .ok r) :
    Ends w (showCell id column row) (fun _ => Tidies w) fun _ => False := by
  let f := Part.mapSprite fun s => { s with sheet? := s.sheet?.map ({ · with column, row }) }
  have hspr : (w.altered id f).parts[id.index]? = some { o with
      part := .sprite { s with sheet? := some { sheet with column, row } } } := by
    rw [getElem?_altered_self ho, hs]
    simp [f, Part.mapSprite, hsheet]
  refine .tidied ?_ (tidies_showCell id column row)
  rw [showCell]
  refine .step (u := w.altered id f) rfl (.step (run_sprite hspr rfl) ?_)
  refine .step (run_orAbsent_some _ _) (.passed hcor (.step rfl (.passed hrect ?_)))
  exact .of_ok rfl trivial

lemma ends_playerLook (w : World) :
    Ends w (newAnimation (.str "player_sheet2.png") 32 64 (.arr [Cell.of 0 0]) 10 false)
      (fun id u => Tidied w [id] u ∧ New w u [id] ∧ u.careOf? id = some .none) fun _ => False := by
  obtain ⟨image, himg⟩ : ∃ image, Image.load "player_sheet2.png" = .ok image := ⟨_, rfl⟩
  let id : PartId := ⟨w.parts.size⟩
  let v : World := w.withSprite "player_sheet2.png" image
  have hrun : (newSprite "player_sheet2.png" false).runOn w = (.ok id, v) := run_newSprite himg
  have hv : Tidied w [id] v := (hangs_newSprite _ _ w).ok _ _ hrun
  have hlook : v.parts[id.index]? =
      some { part := .sprite { image, width := image.width, height := image.height } } := by
    simp [v, id, withSprite, withPart]
  rw [newAnimation]
  refine .passed (a := 1) rfl ?_
  simp only
  rw [if_neg (by decide)]
  refine .passed (a := (0, 0)) rfl ?_
  simp only [newSheet, bind_assoc]
  refine .passed (a := "player_sheet2.png") rfl (.step hrun ?_)
  refine .step (run_sprite hlook rfl) (.passed (a := Image.surface 32 64) rfl ?_)
  let sheet : Sheet := { base := image, cellWidth := 32, cellHeight := 64, column := 0, row := 0 }
  let f := Part.mapSprite fun s => { s with
    image := Image.surface 32 64, sheet? := some sheet,
    animation? := some { frames := .arr [Cell.of 0 0], framesPerImage := 10 } }
  have hcut : Tidies v (v.altered id f) := tidies_modifyPart id (fun p => by cases p <;> rfl) v
  have hsheet := getElem?_altered_self hlook f
  refine .step (u := v.altered id f) rfl ?_
  refine (ends_showCell hsheet rfl rfl (x := 0) (y := 0) (r := { w := 32, h := 64 }) rfl rfl).bind
    fun _ u hu => .step (run_pure _ _) (.step (u := { u with active := u.active ++ [id] }) rfl
      (.pure ⟨((hv.tidies hcut).tidies hu).tidies (.act u id), fun q hq => ?_, ?_⟩))
  · obtain rfl := List.mem_singleton.1 hq
    have hle := hu.parts_le
    rw [World.altered, Array.size_modify] at hle
    exact ⟨le_rfl, (Array.getElem?_eq_some_iff.1 hlook).1.trans_le hle⟩
  · have hcare := hu.care id (lt_of_getElem? hsheet)
    rw [careOf?, careOf?, hsheet] at hcare
    exact hcare

lemma ends_newPlayer_tidied (w : World) (health : Json) :
    Ends w (newPlayer health) (fun id u => id = ⟨w.parts.size⟩ ∧ Tidies (w.acting (.player {})) u)
      (Tidies (w.acting (.player {}))) := by
  let v : World := w.acting (.player {})
  rw [newPlayer]
  refine .step (u := w.withPart (.player {})) rfl (.step (u := v) rfl ?_)
  refine .tidy (tidies_placeLabel _ _ _ _ _) (.refl v) (fun _ hu => hu) fun place u _ hu => ?_
  refine .tidy obeys_homeName hu (fun _ hu => hu) fun _ u _ hu => ?_
  refine .tidy (tidies_placeLabel _ _ _ _ _) hu (fun _ hu => hu) fun message u _ hu => ?_
  refine .tidy (tidies_newBagView _) hu (fun _ hu => hu) fun view u' hv hu' => ?_
  have hnew : New v u' [view] := new_of_le hu.parts_le (fresh_newBagView _ _ _ _ hv).1
  refine .step (run_placeParts u' [view] 0 0) ?_
  have hplcd := hu'.placed hnew (List.nil_subset _) 0 0
  refine .tidy (obeys_owner place) hplcd (fun _ hu => hu) fun _ u _ hu => .step (run_get u) ?_
  refine .tidy (tidies_modifyEntity _ _) hu (fun _ hu => hu) fun _ u _ hu => ?_
  refine .tidy (obeys_owner message) hu (fun _ hu => hu) fun _ u _ hu => ?_
  refine .tidy (tidies_modifyEntity _ _) hu (fun _ hu => hu) fun _ u _ hu => ?_
  refine .tidy (tidies_modifyPlayer _ _) hu (fun _ hu => hu) fun _ u _ hu => ?_
  refine .tidy obeys_homeName hu (fun _ hu => hu) fun _ u _ hu => ?_
  refine .tidy (tidies_tell _ _) hu (fun _ hu => hu) fun _ u _ hu => ?_
  exact .tidy (tidies_modifyPlayer _ _) hu (fun _ hu => hu) fun _ u _ hu => .pure ⟨rfl, hu⟩

lemma ends_makePlayer_tidied (w : World) :
    Ends w makePlayer (fun _ => Tidied { w with active := w.active ++ [⟨w.parts.size⟩] } [])
      (Tidied { w with active := w.active ++ [⟨w.parts.size⟩] } []) := by
  let w1 : World := { w with active := w.active ++ [⟨w.parts.size⟩] }
  let v : World := w.acting (.player {})
  let p : PartId := ⟨w.parts.size⟩
  have hv : Tidies w1 v := .withPart w1 (.player {})
  rw [makePlayer]
  refine ((ends_newPlayer_tidied w 100).mono (fun _ _ hu => hu) fun _ hu => hv.tidies hu).bind ?_
  rintro _ u ⟨rfl, hu⟩
  refine ((ends_playerLook u).mono (fun _ _ hu => hu) fun _ hu => hu.elim).bind ?_
  rintro look u1 ⟨hlook, hnew, hcare⟩
  let body : PartId := ⟨u1.parts.size⟩
  have hb : Tidies u1 (u1.withBody feet) := tidies_newBody feet u1
  refine .step (a := body) (u := u1.withBody feet) rfl ?_
  have hu2 : Tidied v [look] (u1.withBody feet) := (hu.trans hlook).tidies hb
  have hlt : u1.parts.size < (u1.withBody feet).parts.size := by simp [withBody]
  have hp : p.index < v.parts.size := by simp [p, v, acting, withPart]
  -- the player, its look and its body become an entity
  let ids : List PartId := [p, look, body]
  have hids : New w1 (u1.withBody feet) ids := by
    have hle : v.parts.size ≤ u1.parts.size := (hu.trans hlook).parts_le
    have hth := hnew look (.head _)
    have hbase : w1.parts.size ≤ u.parts.size := (hv.tidies hu).parts_le
    intro q hq
    simp only [ids, List.mem_cons, List.not_mem_nil, or_false] at hq
    rcases hq with rfl | rfl | rfl
    · exact ⟨le_rfl, by omega⟩
    · exact ⟨by omega, by omega⟩
    · exact ⟨hv.parts_le.trans hle, hlt⟩
  have hplcd := (hv.trans hu2).placed hids (by simp [ids]) 0 0
  let u3 : World := (u1.withBody feet).placed ids 0 0
  have hset : Tidies u3 ((setUp p).runOn u3).2 := tidies_setUp_player <| by
    rw [careOf?_placed, hu2.care p hp, careOf?]
    simp [v, p, acting, withPart, Part.care]
  have hidle : u3.careOf? look = some .none ∧ u3.careOf? body = some .none := by
    rw [careOf?_placed, careOf?_placed, hb.care look (hnew look (.head _)).2]
    exact ⟨hcare, by simp [careOf?, body, withBody, Part.care]⟩
  rw [spawn]
  refine .step (run_placeParts _ ids 0 0) ?_
  simp only [ids, List.forM, bind_assoc, pure_bind]
  rcases hrun : (setUp p).runOn u3 with ⟨fault | _, u4⟩
  · rw [hrun] at hset
    exact .of_error (by rw [run_bind, hrun]) (hplcd.tidies hset)
  · rw [hrun] at hset
    have hcare4 {q : PartId} (hq : u3.careOf? q = some .none) : u4.careOf? q = some .none :=
      (hset.care q (lt_of_careOf? hq)).trans hq
    refine .step hrun (.step (run_setUp_of_care (hcare4 hidle.1)) ?_)
    exact .step (run_setUp_of_care (hcare4 hidle.2)) (.pure (hplcd.tidies hset))

/-! ## Making what needs no setting up -/

/-- Parts were made since an earlier world that need no setting up, and nothing else is loose. -/
structure Kit (w0 : World) (ids : List PartId) (w : World) : Prop where
  tidied : Tidied w0 ids w
  new : New w0 w ids
  care : ∀ p ∈ ids, w.careOf? p = some .none

section Kit

variable {α : Type} {ids : List PartId} {Q : EntityId → World → Prop} {E : World → Prop}
variable {w' : World} {file : String} {image : Image} {f : PartId → Game EntityId}

lemma Kit.start (w : World) : Kit w [] w := ⟨.refl w, nofun, nofun⟩

section

variable (h : Kit w0 ids w)
include h

lemma Kit.tidies (h' : Tidies w w') : Kit w0 ids w' where
  tidied := h.tidied.tidies h'
  new p hp := ⟨(h.new p hp).1, (h.new p hp).2.trans_le h'.parts_le⟩
  care p hp := (h'.care p (h.new p hp).2).trans (h.care p hp)

lemma Kit.add {id : PartId} (h' : Tidied w [id] w')
    (hnew : New w w' [id]) (hcare : w'.careOf? id = some .none) : Kit w0 (ids ++ [id]) w' where
  tidied := h.tidied.trans h'
  new p hp := by
    rcases List.mem_append.1 hp with hp | hp
    · exact ⟨(h.new p hp).1, (h.new p hp).2.trans_le h'.parts_le⟩
    · exact ⟨h.tidied.parts_le.trans (hnew p hp).1, (hnew p hp).2⟩
  care p hp := by
    rcases List.mem_append.1 hp with hp | hp
    · exact (h'.care p (h.new p hp).2).trans (h.care p hp)
    · rwa [List.mem_singleton.1 hp]

lemma Kit.withSprite (himg : Image.load file = .ok image) :
    Kit w0 (ids ++ [⟨w.parts.size⟩]) (w.withSprite file image) := by
  have hrun := run_newSprite (w := w) himg
  refine h.add ((hangs_newSprite file false w).ok _ _ hrun)
    (fresh_newSprite file false w _ _ hrun).1 ?_
  simp [careOf?, World.withSprite, withPart, Part.care]

lemma Kit.sprite (himg : Image.load file = .ok image)
    (hf : ∀ id u, Kit w0 (ids ++ [id]) u → Ends u (f id) Q E) :
    Ends w (newSprite file false >>= f) Q E :=
  .step (run_newSprite himg) (hf _ _ (h.withSprite himg))

lemma Kit.enroll {p : Part} (hp : p.care = .none)
    {enlist : PartId → Game Unit} (henlist : ∀ id, Obeys Tidies (enlist id) ∧ Sure (enlist id))
    (hf : ∀ id u, Kit w0 (ids ++ [id]) u → Ends u (f id) Q E) :
    Ends w ((newPart p >>= fun id => enlist id >>= fun _ => pure id) >>= f) Q E := by
  let id : PartId := ⟨w.parts.size⟩
  obtain ⟨_, u, hrun⟩ := (henlist id).2 (w.withPart p)
  have hmade : Kit w0 (ids ++ [id]) (w.withPart p) :=
    h.add ((Tidied.withPart w p).mono (List.nil_subset _)) (fresh_newPart p w _ id rfl).1
      (by simp [careOf?, id, withPart, hp])
  simp only [bind_assoc, pure_bind]
  exact .step (u := w.withPart p) rfl (.step hrun (hf id u (hmade.tidies ((henlist id).1.of_run hrun))))

lemma Kit.body (hitbox : Rect) (hf : ∀ id u, Kit w0 (ids ++ [id]) u → Ends u (f id) Q E) :
    Ends w (newBody hitbox >>= f) Q E :=
  h.enroll (p := .body hitbox) rfl (fun _ => ⟨tidies_same fun _ => by rfl, fun _ => ⟨_, _, rfl⟩⟩) hf

lemma Kit.trigger (hitbox : Rect) (form : TriggerForm)
    (hf : ∀ id u, Kit w0 (ids ++ [id]) u → Ends u (f id) Q E) :
    Ends w (newTrigger hitbox form >>= f) Q E :=
  h.enroll (p := .trigger hitbox form) rfl
    (fun _ => ⟨tidies_same fun _ => by rfl, fun _ => ⟨_, _, rfl⟩⟩) hf

lemma Kit.usable (name : Json) (form : UsableForm)
    (hf : ∀ id u, Kit w0 (ids ++ [id]) u → Ends u (f id) Q E) :
    Ends w (newUsable name form >>= f) Q E :=
  h.enroll (p := .usable { name, form }) rfl
    (fun _ => ⟨tidies_same fun _ => by rfl, fun _ => ⟨_, _, rfl⟩⟩) hf

lemma Kit.sure {g : Game α} (hg : Obeys Tidies g) (hsure : Sure g)
    {f : α → Game EntityId} (hf : ∀ a u, Kit w0 ids u → Ends u (f a) Q E) :
    Ends w (g >>= f) Q E := by
  obtain ⟨a, u, hrun⟩ := hsure w
  exact .step hrun (hf a u (h.tidies (hg.of_run hrun)))

end

lemma run_setUpAll_of_care {ids : List PartId} (hids : ∀ p ∈ ids, w.careOf? p = some .none) :
    (ids.forM setUp).runOn w = (.ok ⟨⟩, w) := by
  induction ids with
  | nil => rfl
  | cons p ids ih =>
    obtain ⟨hp, hids⟩ := List.forall_mem_cons.1 hids
    rw [run_forM_cons, bind_ok (run_setUp_of_care hp)]
    exact ih hids

lemma Kit.spawn (h : Kit w0 ids w) (x y : Json) :
    Ends w (spawn ids x y) (fun _ => Tidies w0) E := by
  refine .step (run_placeParts w ids x y) (.step (run_setUpAll_of_care fun p hp => ?_) ?_)
  · rw [careOf?_placed, h.care p hp]
  · exact .pure (h.tidied.placed h.new (List.Subset.refl _) x y)

end Kit

lemma ends_makeTree_tidied (w : World) : Ends w makeTree (fun _ => Tidies w) fun _ => False := by
  obtain ⟨image, himg⟩ : ∃ image, Image.load "tree.png" = .ok image := ⟨_, rfl⟩
  rw [makeTree]
  refine (Kit.start w).sprite himg fun _ u hu => hu.body _ fun _ u hu => ?_
  simp only [newTree, bind_assoc, pure_bind]
  refine hu.usable _ _ fun _ u hu => ?_
  exact hu.sure (tidies_loadSound _ _) (sure_loadSound (by simp [soundFiles]) _) fun _ u hu =>
    hu.spawn 0 0

lemma ends_makeRock_tidied (w : World) : Ends w makeRock (fun _ => Tidies w) fun _ => False := by
  obtain ⟨image, himg⟩ : ∃ image, Image.load "rock.png" = .ok image := ⟨_, rfl⟩
  rw [makeRock]
  refine (Kit.start w).sprite himg fun _ u hu => hu.body _ fun _ u hu => ?_
  simp only [newRock, bind_assoc, pure_bind]
  refine hu.usable _ _ fun _ u hu => ?_
  exact hu.sure (tidies_loadSound _ _) (sure_loadSound (by simp [soundFiles]) _) fun _ u hu =>
    hu.spawn 0 0

lemma ends_makeTeleporter_tidied (w : World) {icon : String} {image : Image}
    (himg : Image.load icon = .ok image) (args : Json) :
    Ends w (makeTeleporter icon args) (fun _ => Tidies w) (· = w) := by
  rw [makeTeleporter]
  refine .lift (fun _ _ => rfl) fun file _ => .lift (fun _ _ => rfl) fun column _ =>
    .lift (fun _ _ => rfl) fun row _ => ?_
  simp only [newTeleporter, bind_assoc, pure_bind]
  refine (Kit.start w).trigger _ _ fun _ u hu => ?_
  exact hu.sure (tidies_print _) (fun _ => ⟨_, _, rfl⟩) fun _ u hu => hu.sprite himg fun _ u hu =>
    hu.spawn 0 0

lemma ends_makeDropped_tidied (w : World) (args : Json) :
    Ends w (makeDropped args) (fun _ => Tidies w) (· = w) := by
  rw [makeDropped]
  refine .lift (fun _ _ => rfl) fun _ _ => .lift (fun _ _ => rfl) fun _ _ =>
    .lift (fun _ _ => rfl) fun item hi => .lift (fun _ _ => rfl) fun _ _ =>
    .lift (fun _ _ => rfl) fun _ _ => ?_
  obtain ⟨image, himg⟩ := exists_image_of_item (mem_of_entry hi)
  exact (Kit.start w).trigger _ _ fun _ u hu => hu.sprite himg fun _ u hu => hu.spawn 0 0

lemma Ends.newSprite {file : String} {f : PartId → Game β} {Q : β → World → Prop} (hE : E w)
    (hf : ∀ image, Image.load file = .ok image →
      Ends (w.withSprite file image) (f ⟨w.parts.size⟩) Q E) :
    Ends w (newSprite file false >>= f) Q E := by
  cases hl : Image.load file with
  | error fault =>
    refine .of_error (u := w) (?_ : _ = (Except.error fault, w)) hE
    rw [Game.newSprite, loadImage]
    simp only [run_bind, run_lift, hl]
  | ok image => exact .step (run_newSprite hl) (hf image hl)

lemma ends_makeCharacter_tidied (w : World) (words : List String) :
    Ends w (makeCharacter (.arr (words.map .str))) (fun _ => Tidies w) fun u =>
      u = w ∨ ∃ name file image, words = [name, file] ∧ Image.load file = .ok image ∧
        u = w.withSprite file image := by
  have hi {xs : List Json} {i : Nat} {x : Json} (hx : xs[i]? = some x) :
      (Json.arr xs).item (i : Int) = .ok x := by
    rw [Json.item, entry_natCast, hx]
  have hmissing {xs : List Json} {i : Nat} {x : Json} (hx : xs[i]? = none) :
      (Json.arr xs).item (i : Int) ≠ .ok x := by
    rw [Json.item, entry_natCast, hx]
    simp
  rw [makeCharacter]
  refine .lift (fun _ _ => .inl rfl) fun second hsnd => .lift (fun _ _ => .inl rfl) fun file hf =>
    .newSprite (.inl rfl) fun image himg => ?_
  rcases words with _ | ⟨name, _ | ⟨file', _ | ⟨third, rest⟩⟩⟩
  · cases hmissing (i := 1) rfl hsnd
  · cases hmissing (i := 1) rfl hsnd
  · cases hsnd.symm.trans (hi (i := 1) rfl)
    cases hf
    refine .passed (hi (i := 0) rfl) (.lift (fun _ _ => .inr ⟨name, _, image, rfl, himg, rfl⟩) ?_)
    intro third hthird
    cases hmissing (i := 2) rfl hthird
  · refine .passed (hi (i := 0) rfl) (.passed (hi (i := 2) rfl) ?_)
    exact ((Kit.start w).withSprite himg).usable _ _ fun _ u hu => hu.spawn 0 0

/-! ## Making an enemy -/

lemma partIs_isCombat_of_care {p : PartId} {c : Part.Care} (hp : w.careOf? p = some c)
    (hc : c ≠ .fighter) : w.partIs Part.isCombat p = false := by
  obtain ⟨o, ho, hcare⟩ := Option.map_eq_some_iff.1 hp
  rw [partIs_of ho]
  cases hpart : o.part <;> rw [hpart] at hcare <;> first | rfl | exact absurd hcare.symm hc

lemma ends_equip_tidied {c : PartId} (ho : w.parts[c.index]? = some o)
    (hlost : o.lost = []) {weapon : ItemType} (hwp : ItemType.all[4]? = some weapon) :
    Ends w (equip c (some weapon)) (fun _ => Tidies w) fun _ => False := by
  obtain ⟨file, image, hstat, hf, himg⟩ := exists_of_enemyWeapon hwp
  refine .tidied ?_ (tidies_equip c _)
  rw [equip]
  simp only [hstat]
  refine .step (run_requires ho hlost .equip) (.step (run_modifyCombat w c _) ?_)
  refine .passed (a := file) rfl ?_
  obtain ⟨_, u, hsound⟩ := sure_loadSound hf 1 (w.altered c (.mapCombat ({ · with equipped? := some weapon })))
  refine .step hsound (.step (run_modifyCombat u c _) ?_)
  obtain ⟨sprite, v, hspr⟩ := sure_newSprite himg false
    (u.altered c (.mapCombat ({ · with sound? := some (.file file) })))
  exact .step hspr (.step (run_placeParts v _ _ _) (.of_ok (run_modifyCombat _ c _) trivial))

lemma ends_setUpEnemy_tidied {e : PartId} {me : EntityId} {en : Enemy} {health : Json}
    (ho : w.parts[e.index]? = some o) (hown : o.owner? = some me)
    (hhp : en.health? = some health) (hwp : ItemType.all[4]? = some en.weapon)
    (hme : me.index < w.entities.size) (hidle : ∀ p ∈ w.partsOf me, ∃ c, w.careOf? p = some c ∧ c ≠ .fighter) :
    Ends w (setUpEnemy e en) (fun _ => Tidies w) fun _ => False := by
  refine .tidied ?_ (tidies_setUpEnemy e en)
  let c : PartId := ⟨w.parts.size⟩
  let fighter : Part := .combat { health, maxHealth := health, onDeath := .leave }
  let u : World := (w.acting fighter).attached me c
  have hnew : New w (w.acting fighter) [c] := (fresh_newCombat health .leave w _ c rfl).1
  have hu : Tidies w u := (Tidied.attached (tidies_newCombat health .leave w) hnew me)
  have hc : u.parts[c.index]? = some { part := fighter, owner? := some me } := by
    change ((w.parts.push { part := fighter }).modify w.parts.size _)[w.parts.size]? = _
    rw [Array.getElem?_modify, if_pos rfl, Array.getElem?_push_size]
    rfl
  have hps : u.partsOf me = w.partsOf me ++ [c] := partsOf_attached_self hme c
  rw [setUpEnemy, hhp]
  refine .step (run_owner ho hown) (.step (run_orAbsent_some _ _) ?_)
  refine .step (run_newCombat w health .leave) (.step (u := u) (run_attach _ me c) ?_)
  -- the ability to fight is the only one
  refine .step (run_find (by simpa [u, attached, acting, withPart] using hme) c ?_) ?_
  · rw [hps, List.find?_append, List.find?_eq_none.2 fun p hp => ?_]
    · simp [partIs_of hc, fighter, Part.isCombat]
    · obtain ⟨care, hcare, hne⟩ := hidle p hp
      have hcare' := (hu.care p (lt_of_careOf? hcare)).trans hcare
      simp [partIs_isCombat_of_care hcare' hne]
  refine .step (run_modifyEnemy u e _) ?_
  have hne : c ≠ e := fun heq => by
    have hlt := lt_of_getElem? ho
    rw [← heq] at hlt
    exact hlt.false
  have hc' := (getElem?_altered_of_ne hne (.mapEnemy ({ · with combat? := some c }))).trans hc
  refine (ends_equip_tidied hc' rfl hwp).bind fun _ v _ => ?_
  exact .of_ok (run_modifyEnemy v e _) trivial

lemma exists_newEnemy (w : World) : ∃ en u, (newEnemy 100 4).runOn w = (.ok ⟨w.parts.size⟩, u) ∧
    Tidies w u ∧ u.parts[w.parts.size]? = some { part := .enemy en } ∧ en.health? = some 100 ∧
    ItemType.all[4]? = some en.weapon := by
  obtain ⟨weapon, he⟩ : ∃ weapon, entry ItemType.all (4 : Nat) = .ok weapon := ⟨_, rfl⟩
  let e : PartId := ⟨w.parts.size⟩
  let en : Enemy := { health? := some 100, weapon, phase := 0 }
  obtain ⟨phase, rest, hrand⟩ : ∃ phase rest, (randomBetween 0 30).runOn (w.acting (.enemy en)) =
      (.ok phase, { w.acting (.enemy en) with random := rest }) := ⟨_, exists_randomBetween _ 0 30⟩
  let u : World := { w.acting (.enemy en) with random := rest }
  have hen : u.parts[e.index]? = some { part := .enemy en } := by
    simp [u, e, acting, withPart]
  refine ⟨{ en with phase }, u.altered e (.mapEnemy ({ · with phase })), ?_, ?_,
    getElem?_altered_self hen _, rfl, getElem?_of_entry he⟩
  · refine (run_lift_bind (x := entry ItemType.all 4) he _ w).trans ?_
    have hp : (newPart (.enemy en)).runOn w = (.ok e, w.withPart (.enemy en)) := rfl
    have hact : (activate e).runOn (w.withPart (.enemy en)) = (.ok (), w.acting (.enemy en)) := rfl
    refine (bind_ok hp).trans ((bind_ok hact).trans ?_)
    rw [bind_ok hrand, bind_ok (run_modifyEnemy u e _)]
    rfl
  · have hacts : Tidies w (w.acting (.enemy en)) := (Tidied.withPart w _).tidies (.act _ e)
    have hu : Tidies w u := hacts.tidies (.of_same rfl)
    exact hu.tidies (tidies_modifyEnemy e _ u)

lemma ends_makeEnemy_tidied (w : World) (args : Json) :
    Ends w (makeEnemy args) (fun _ => Tidies w) (· = w) := by
  rw [makeEnemy]
  refine .lift (fun _ _ => rfl) fun _ _ => .lift (fun _ _ => rfl) fun file _ =>
    .newSprite rfl fun image himg => ?_
  let look : PartId := ⟨w.parts.size⟩
  let w1 : World := w.withSprite file image
  have hlook : Kit w [look] w1 := (Kit.start w).withSprite himg
  obtain ⟨en, u, hrun, hu, hen, hhp, hwp⟩ := exists_newEnemy w1
  let e : PartId := ⟨w1.parts.size⟩
  let body : PartId := ⟨u.parts.size⟩
  let v : World := u.withBody feet
  refine .step hrun (.step (a := body) (u := v) rfl ?_)
  have hb : Tidies u v := tidies_newBody feet u
  have hlt : u.parts.size < v.parts.size := by simp [v, withBody]
  have he : v.parts[e.index]? = some { part := .enemy en } := by
    rw [← hen]
    exact getElem?_push_of_lt (lt_of_getElem? hen)
  -- its look, the enemy and its body become an entity
  let ids : List PartId := [look, e, body]
  let me : EntityId := ⟨v.entities.size⟩
  let v' : World := v.placed ids 0 0
  have hkit : Kit w [look] v := (hlook.tidies hu).tidies hb
  have hids : New w v ids := by
    have hle := hlook.tidied.parts_le
    have hle' := hu.parts_le
    have hth := lt_of_getElem? he
    intro q hq
    simp only [ids, List.mem_cons, List.not_mem_nil, or_false] at hq
    rcases hq with rfl | rfl | rfl
    · exact hkit.new _ (.head _)
    · exact ⟨hle, hth⟩
    · exact ⟨hle.trans hle', hlt⟩
  have hplcd : Tidies w v' := hkit.tidied.placed hids (by simp [ids]) 0 0
  have hcare : v'.careOf? look = some .none ∧ v'.careOf? e = some .other ∧
      v'.careOf? body = some .none := by
    rw [careOf?_placed, careOf?_placed, careOf?_placed]
    refine ⟨hkit.care _ (.head _), by rw [careOf?, he]; rfl, ?_⟩
    simp [careOf?, body, v, withBody, Part.care]
  have he' : v'.parts[e.index]? = some { part := .enemy en, owner? := some me } := by
    rw [getElem?_placed, he]
    simp [ids, me]
  rw [spawn]
  refine .step (run_placeParts v ids 0 0) ?_
  simp only [ids, List.forM, bind_assoc, pure_bind]
  refine .step (run_setUp_of_care hcare.1) ?_
  have hset : Ends v' (setUp e) (fun _ => Tidies v') (· = w) := by
    refine .of_run_eq (bind_ok (run_part he')) ?_
    refine (ends_setUpEnemy_tidied he' rfl hhp hwp ?_ fun p hp => ?_).mono
      (fun _ _ h => h) fun _ h => h.elim
    · simp [v', me, World.placed, given]
    · rw [partsOf_placed] at hp
      simp only [ids, List.mem_cons, List.not_mem_nil, or_false] at hp
      rcases hp with rfl | rfl | rfl
      · exact ⟨_, hcare.1, by simp⟩
      · exact ⟨_, hcare.2.1, by simp⟩
      · exact ⟨_, hcare.2.2, by simp⟩
  refine hset.bind fun _ u' hu' => .step (run_setUp_of_care ?_) (.pure (hplcd.tidies hu'))
  exact (hu'.care body (lt_of_careOf? hcare.2.2)).trans hcare.2.2

end Game

end TileQuest
