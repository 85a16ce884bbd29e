import Mathlib.Data.List.Find
import TileQuest.Proofs.Maps.Parsing
import TileQuest.Proofs.Maps.Saving

/-!
# Loading an area into the editor

In the editor a record of a map file becomes an entity with two parts, the look of its factory and a
placeholder, unless the place is taken. `World.withRecord` is the world with such an entity, and
`Game.run_placeRecord` says that loading a record leads there.
-/

namespace TileQuest

variable {b : AreaId} {rows : List (List Json)} {done : List MapFile.Record}
variable {α : Type} {i : Nat} {r : MapFile.Record} {k : Int} {fault : Fault}

lemma modify_last_two (xs : Array α) (a b : α) (f g : α → α) :
    (((xs.push a).push b).modify xs.size f).modify (xs.size + 1) g =
      (xs.push (f a)).push (g b) := by
  refine Array.ext_getElem? fun i => ?_
  simp only [Array.getElem?_modify, Array.getElem?_push, Array.size_push]
  by_cases hfst : i = xs.size
  · subst hfst
    simp
  by_cases hsnd : i = xs.size + 1
  · subst hsnd
    simp
  · simp [hfst, hsnd, Ne.symm hfst, Ne.symm hsnd]

/-! ## Placing what stands for an entity -/

namespace World

def nextEntity (w : World) : EntityId := ⟨w.entities.size⟩

def withPart (w : World) (p : Part) : World := { w with parts := w.parts.push { part := p } }

def withSprite (w : World) (icon : String) (image : Image) : World :=
  { w.withPart (.sprite { image, width := image.width, height := image.height }) with
    loadedImages := Input.insertNew w.loadedImages icon
    drawn := w.drawn ++ [⟨w.parts.size⟩] }

/-- The world with one more entity that shows an image and stands for something. -/
def withPlaceholder (w : World) (icon : String) (image : Image) (p : Placeholder) (x y : Scalar) :
    World :=
  let look : Sprite := { image, width := image.width, height := image.height }
  { w with
    loadedImages := Input.insertNew w.loadedImages icon
    drawn := w.drawn ++ [⟨w.parts.size⟩]
    parts := (w.parts.push { part := .sprite look, owner? := some w.nextEntity }).push
      { part := .placeholder p, owner? := some w.nextEntity }
    entities := w.entities.push { x, y, parts := [⟨w.parts.size⟩, ⟨w.parts.size + 1⟩] } }

def withTaken (w : World) (key : Scalar) : World := { w with taken := w.taken ++ [key] }

def withMember (w : World) (a : AreaId) (e : EntityId) : World :=
  { w with areas := w.areas.modify a.index fun a => { a with entities := a.entities ++ [e] } }

section

variable (w : World) (icon : String) (image : Image) (p : Placeholder) (x y : Scalar)

lemma withPlaceholder_look :
    (w.withPlaceholder icon image p x y).parts[w.parts.size]? = some
      { part := .sprite { image, width := image.width, height := image.height },
        owner? := some w.nextEntity } := by
  rw [withPlaceholder, Array.getElem?_push, Array.size_push, if_neg (by omega), Array.getElem?_push,
    if_pos rfl]

lemma withPlaceholder_placeholder :
    (w.withPlaceholder icon image p x y).parts[w.parts.size + 1]? =
      some { part := .placeholder p, owner? := some w.nextEntity } := by
  rw [withPlaceholder, Array.getElem?_push]
  simp

lemma withPlaceholder_entity :
    (w.withPlaceholder icon image p x y).entities[w.nextEntity.index]? =
      some { x, y, parts := [⟨w.parts.size⟩, ⟨w.parts.size + 1⟩] } := by
  simp [withPlaceholder, nextEntity]

lemma withPlaceholder_find? : [⟨w.parts.size⟩, ⟨w.parts.size + 1⟩].find?
      ((w.withPlaceholder icon image p x y).partIs Part.isPlaceholder) =
        some ⟨w.parts.size + 1⟩ := by
  rw [List.find?_cons, partIs_of (i := ⟨w.parts.size⟩) (w.withPlaceholder_look icon image p x y),
    List.find?_cons,
    partIs_of (i := ⟨w.parts.size + 1⟩) (w.withPlaceholder_placeholder icon image p x y)]
  rfl

lemma getElem?_entities_withPlaceholder (hi : i < w.entities.size) :
    (w.withPlaceholder icon image p x y).entities[i]? = w.entities[i]? := by
  rw [withPlaceholder, Array.getElem?_push, if_neg hi.ne]

lemma getElem?_parts_withPlaceholder (hi : i < w.parts.size) :
    (w.withPlaceholder icon image p x y).parts[i]? = w.parts[i]? := by
  rw [withPlaceholder, Array.getElem?_push, Array.size_push, if_neg (by omega), Array.getElem?_push,
    if_neg (by omega)]

end

end World

namespace Game

variable {w : World} {icon : String} {image : Image} {p : Placeholder} {x y key : Scalar}

lemma run_newSprite (h : Image.load icon = .ok image) :
    (newSprite icon false).runOn w = (.ok ⟨w.parts.size⟩, w.withSprite icon image) := by
  rw [newSprite, loadImage]
  simp only [run_bind, run_lift, h, run_modify, run_pure, newPart, run_get, enlist]
  rfl

lemma run_placePair : (placeParts [⟨w.parts.size⟩, ⟨w.parts.size + 1⟩] x y).runOn
        ((w.withSprite icon image).withPart (.placeholder p)) =
      (.ok w.nextEntity, w.withPlaceholder icon image p x y) := by
  simp only [placeParts, run_bind, run_get, run_modify, run_pure, run_forM_cons,
    run_forM_nil, setOwner, World.withPart, World.withSprite, modify_last_two]
  rfl

lemma run_setUpPlaceholder (hkey : placeKey? x y = .ok (some key))
    (hfree : w.taken.any key.same = false) :
    (setUpPlaceholder ⟨w.parts.size + 1⟩).runOn (w.withPlaceholder icon image p x y) =
      (.ok (), (w.withPlaceholder icon image p x y).withTaken key) := by
  have hplace : (place ⟨w.parts.size + 1⟩).runOn (w.withPlaceholder icon image p x y) =
      (.ok (.num x, .num y), w.withPlaceholder icon image p x y) := by
    rw [place, bind_ok (run_owner (w.withPlaceholder_placeholder icon image p x y) rfl),
      entityPlace, bind_ok (run_entity (w.withPlaceholder_entity icon image p x y))]
    rfl
  rw [setUpPlaceholder, bind_ok hplace, run_lift_bind hkey]
  simp only [run_get_bind]
  rw [if_neg (by simp [World.withPlaceholder, hfree])]
  rfl

lemma run_placePlaceholder_setUp (hi : Image.load icon = .ok image) (a : AreaId) :
    (placePlaceholder a icon p x y).runOn w =
      (do
        setUpPlaceholder ⟨w.parts.size + 1⟩
        if ← hasPart w.nextEntity Part.isPlaceholder then
          modifyArea a fun a => { a with entities := a.entities ++ [w.nextEntity] }).runOn
        (w.withPlaceholder icon image p x y) := by
  have hnew : (newPart (.placeholder p)).runOn (w.withSprite icon image) =
      (.ok ⟨w.parts.size + 1⟩, (w.withSprite icon image).withPart (.placeholder p)) := by
    have hsize : (w.withSprite icon image).parts.size = w.parts.size + 1 := Array.size_push ..
    rw [← hsize]
    rfl
  have hlook : (setUp ⟨w.parts.size⟩).runOn (w.withPlaceholder icon image p x y) =
      (.ok (), w.withPlaceholder icon image p x y) := by
    rw [setUp, bind_ok (run_part (i := ⟨w.parts.size⟩) (w.withPlaceholder_look icon image p x y))]
    rfl
  have hstand : (setUp ⟨w.parts.size + 1⟩).runOn (w.withPlaceholder icon image p x y) =
      (setUpPlaceholder ⟨w.parts.size + 1⟩).runOn (w.withPlaceholder icon image p x y) := by
    rw [setUp, bind_ok (run_part (i := ⟨w.parts.size + 1⟩)
      (w.withPlaceholder_placeholder icon image p x y))]
  rw [placePlaceholder, bind_ok (run_newSprite hi), bind_ok hnew, spawn]
  simp only [bind_assoc, List.forM, pure_bind]
  rw [bind_ok run_placePair, bind_ok hlook, run_bind, hstand, ← run_bind]

lemma run_placePlaceholder (hi : Image.load icon = .ok image)
    (hkey : placeKey? x y = .ok (some key)) (hfree : w.taken.any key.same = false) (a : AreaId) :
    (placePlaceholder a icon p x y).runOn w =
      (.ok (), ((w.withPlaceholder icon image p x y).withTaken key).withMember a w.nextEntity) := by
  have hfnd : (hasPart w.nextEntity Part.isPlaceholder).runOn
      ((w.withPlaceholder icon image p x y).withTaken key) =
        (.ok true, (w.withPlaceholder icon image p x y).withTaken key) := by
    rw [hasPart, bind_ok (run_find? (w := World.withTaken _ key)
      (w.withPlaceholder_entity icon image p x y) _)]
    change (Except.ok (Option.isSome ([_, _].find?
      ((w.withPlaceholder icon image p x y).partIs Part.isPlaceholder))), _) = _
    rw [w.withPlaceholder_find?]
    rfl
  rw [run_placePlaceholder_setUp hi, bind_ok (run_setUpPlaceholder hkey hfree), bind_ok hfnd]
  rfl

end Game

/-! ## Loading records -/

def MapFile.Record.key (r : MapFile.Record) : Int := 10000000 * (32 * r.column) + 32 * r.row

namespace World

variable {w : World}

def Loaded (w : World) (b : AreaId) (rows : List (List Json)) (done : List MapFile.Record) : Prop :=
  (∃ area g, w.areas[b.index]? = some area ∧ area.isEdited = true ∧ area.ground? = some g ∧
    w.grounds[g.index]? = some { rows } ∧
    List.Forall₂ (fun e r => w.StandsFor e r ∧ w.IsWhole e) area.entities done) ∧
  w.taken = done.map fun r => .int r.key

lemma Loaded.shows (h : w.Loaded b rows done) : w.Shows b rows done := by
  obtain ⟨⟨area, g, ha, hedit, hgr, hmap, hstand⟩, -⟩ := h
  exact ⟨area, g, ha, hedit, hgr, hmap, hstand.imp fun _ _ h => h.1⟩

lemma StandsFor.of_kept {w' : World} {e : EntityId} (h : w.StandsFor e r)
    (hwhole : w.IsWhole e) (hents : w'.entities[e.index]? = w.entities[e.index]?)
    (hps : ∀ i < w.parts.size, w'.parts[i]? = w.parts[i]?)
    (hdef : w'.defaults = w.defaults) : w'.StandsFor e r := by
  obtain ⟨en, p, o, args, hen, hx, hy, hfind, ho, hp, hargs⟩ := h
  refine ⟨en, p, o, args, hents.trans hen, hx, hy, ?_, ?_, hp, ?_⟩
  · rw [← hfind]
    refine List.find?_congr fun q hq => ?_
    rw [partIs, partIs, hps _ (hwhole en hen q hq)]
  · rw [hps _ (lt_of_getElem? ho), ho]
  · rw [← hargs]
    cases args with
    | own values => rfl
    | defaults k => rw [argsOf, argsOf, hdef]

def withRecord (w : World) (icon : String) (image : Image) (r : MapFile.Record) : World :=
  w.withPlaceholder icon image { factory := r.factory, args := .own r.args }
    (.int (r.column * 32)) (.int (r.row * 32))

def afterRecord (w : World) (b : AreaId) (icon : String) (image : Image) (r : MapFile.Record) :
    World :=
  ((w.withRecord icon image r).withTaken (.int r.key)).withMember b w.nextEntity

lemma afterRecord_entities (w : World) (b : AreaId) (icon : String) (image : Image)
    (r : MapFile.Record) :
    (w.afterRecord b icon image r).entities = (w.withRecord icon image r).entities := rfl

lemma afterRecord_parts (w : World) (b : AreaId) (icon : String) (image : Image)
    (r : MapFile.Record) :
    (w.afterRecord b icon image r).parts = (w.withRecord icon image r).parts := rfl

lemma size_withRecord (w : World) (icon : String) (image : Image) (r : MapFile.Record) :
    (w.withRecord icon image r).parts.size = w.parts.size + 2 := by
  simp [withRecord, withPlaceholder]

lemma standsFor_afterRecord (w : World) (b : AreaId) (icon : String) (image : Image)
    (r : MapFile.Record) : (w.afterRecord b icon image r).StandsFor w.nextEntity r ∧
      (w.afterRecord b icon image r).IsWhole w.nextEntity := by
  have hent : (w.withRecord icon image r).entities[w.nextEntity.index]? =
      some { x := .ofInt (r.column * 32), y := .ofInt (r.row * 32),
             parts := [⟨w.parts.size⟩, ⟨w.parts.size + 1⟩] } :=
    w.withPlaceholder_entity icon image _ _ _
  have hfind := w.withPlaceholder_find? icon image { factory := r.factory, args := .own r.args }
    (.int (r.column * 32)) (.int (r.row * 32))
  have hpart := w.withPlaceholder_placeholder icon image
    { factory := r.factory, args := .own r.args } (.int (r.column * 32)) (.int (r.row * 32))
  refine ⟨⟨_, ⟨w.parts.size + 1⟩, _, .own r.args, hent, ?_, ?_, hfind, hpart, rfl, rfl⟩, ?_⟩
  · exact decide_eq_true (Int.mul_comm ..)
  · exact decide_eq_true (Int.mul_comm ..)
  · intro en hen p hp
    rw [afterRecord_entities, hent, Option.some.injEq] at hen
    subst hen
    rw [afterRecord_parts, size_withRecord]
    simp only [List.mem_cons, List.not_mem_nil, or_false] at hp
    rcases hp with rfl | rfl
    · exact Nat.lt_add_of_pos_right (by decide)
    · exact Nat.lt_succ_self _

lemma Loaded.afterRecord
    (h : w.Loaded b rows done) (icon : String) (image : Image) (r : MapFile.Record) :
    (w.afterRecord b icon image r).Loaded b rows (done ++ [r]) := by
  obtain ⟨⟨area, g, ha, hedit, hgr, hmap, hstand⟩, htaken⟩ := h
  refine ⟨⟨{ area with entities := area.entities ++ [w.nextEntity] }, g, ?_, hedit, hgr, hmap,
    ?_⟩, ?_⟩
  · simp [World.afterRecord, withMember, withTaken, withRecord, withPlaceholder,
      Array.getElem?_modify, ha]
  · refine List.rel_append (hstand.imp ?_) (.cons (w.standsFor_afterRecord b icon image r) .nil)
    rintro e s ⟨hs, hwhole⟩
    have hent : (w.withRecord icon image r).entities[e.index]? = w.entities[e.index]? := by
      obtain ⟨en, -, -, -, hen, -⟩ := hs
      exact w.getElem?_entities_withPlaceholder icon image _ _ _
        (lt_of_getElem? hen)
    refine ⟨hs.of_kept hwhole hent ?_ rfl, hwhole.of_kept hent ?_⟩
    · intro i hi
      exact w.getElem?_parts_withPlaceholder icon image _ (.int (r.column * 32))
        (.int (r.row * 32)) hi
    · rw [afterRecord_parts, size_withRecord]
      exact Nat.le_add_right ..
  · simp [World.afterRecord, withMember, withTaken, withRecord, withPlaceholder, htaken]

end World

namespace Game

variable {w : World}

lemma mem_of_entry {xs : List α} {a : α} (h : entry xs k = .ok a) : a ∈ xs := by
  rw [entry, entry?] at h
  cases hk : signedIndex? xs.length k with
  | none => simp [hk] at h
  | some i =>
    rw [hk, Option.bind_some] at h
    cases hi : xs[i]? with
    | none => simp [hi] at h
    | some a' =>
      simp only [hi, Except.ok.injEq] at h
      exact h ▸ List.mem_of_getElem? hi

lemma load_icon {f : Factory} (h : f ∈ Factory.all) : ∃ image, Image.load f.icon = .ok image := by
  have hall : ∀ f ∈ Factory.all, (Image.load f.icon).toOption.isSome = true := by decide +kernel
  have hsome := hall f h
  cases hl : Image.load f.icon with
  | error fault => simp [hl, Except.toOption] at hsome
  | ok image => exact ⟨image, rfl⟩

/-! Every line that is a record with a factory is placed, and every other line changes nothing. -/

def placeRecord (a : AreaId) (r : MapFile.Record) : Game Unit := do
  if (← area a).isEdited then
    let factory ← entry Factory.all (← r.factory.toIndex)
    placePlaceholder a factory.icon { factory := r.factory, args := .own r.args }
      (r.column * 32 : Int) (r.row * 32 : Int)
  else
    let e ← createEntity (← r.factory.toIndex) (.ofInt r.column) (.ofInt r.row)
      (.arr (r.args.map .str))
    modifyArea a fun a => { a with entities := a.entities ++ [e] }

lemma loadRecord_eq (a : AreaId) (line : String) :
    loadRecord a line = (do placeRecord a (← MapFile.Record.ofLine line)) := rfl

lemma signedIndex?_of_entry {γ : Type} {xs : List γ}
    (h : entry xs k = .error fault) : signedIndex? xs.length k = none := by
  cases hk : signedIndex? xs.length k with
  | none => rfl
  | some i =>
    have hi : i < xs.length := by
      unfold signedIndex? at hk
      split at hk
      · split at hk
        · cases hk
          omega
        · cases hk
      · split at hk
        · cases hk
          omega
        · cases hk
    simp [entry, entry?, hk, hi] at h

lemma placeRecord_of_error (h : r.factory? = .error fault)
    (a : AreaId) (w : World) : ∃ fault', (placeRecord a r).runOn w = (.error fault', w) := by
  rw [placeRecord]
  cases ha : w.areas[a.index]? with
  | none =>
    refine ⟨.absent, ?_⟩
    rw [run_bind, area, run_get_bind, ha]
    rfl
  | some ar =>
    rw [bind_ok (run_area ha)]
    cases hidx : r.factory.toIndex with
    | error fault' =>
      refine ⟨fault', ?_⟩
      split
      · rw [run_bind, run_lift]
      · rw [run_bind, run_lift]
    | ok k =>
      have he : entry Factory.all k = .error fault := by
        rwa [MapFile.Record.factory?, hidx] at h
      split
      · refine ⟨fault, ?_⟩
        rw [run_lift_bind rfl, run_bind, run_lift, he]
      · refine ⟨.outOfRange, ?_⟩
        have hmake : (makeEntity k (.arr (r.args.map .str))).runOn w = (.error .outOfRange, w) := by
          rw [makeEntity, signedIndex?_of_entry he]
          rfl
        rw [run_lift_bind rfl, run_bind, createEntity, run_bind, hmake]

lemma run_loadRecord_of_none {line : String} (h : MapFile.record? line = none) (a : AreaId)
    (w : World) : ∃ fault, (loadRecord a line).runOn w = (.error fault, w) := by
  rw [loadRecord_eq]
  cases hr : MapFile.Record.ofLine line with
  | error fault => exact ⟨fault, rfl⟩
  | ok r =>
    cases hf : r.factory? with
    | error fault => exact placeRecord_of_error hf a w
    | ok f => cases (MapFile.record?_eq_some.2 ⟨hr, f, hf⟩).symm.trans h

lemma run_placeRecord (h : w.Loaded b rows done) (hr : r.Sound)
    (hfree : ∀ s ∈ done, s.key ≠ r.key) :
    ∃ icon image, (placeRecord b r).runOn w = (.ok (), w.afterRecord b icon image r) := by
  obtain ⟨k, hk, f, hf⟩ := hr.factory
  obtain ⟨image, himg⟩ := load_icon (mem_of_entry hf)
  refine ⟨f.icon, image, ?_⟩
  obtain ⟨⟨area, g, ha, hedit, -⟩, htaken⟩ := h
  have hidx : r.factory.toIndex = .ok k := by rw [hk]; rfl
  have hkey : placeKey? (.num (.int (r.column * 32))) (.num (.int (r.row * 32))) =
      .ok (some (.int r.key)) := by
    have hsum : r.column * 32 * 10000000 + r.row * 32 = r.key := by
      rw [MapFile.Record.key]
      omega
    rw [← hsum]
    rfl
  have hany : w.taken.any (Scalar.same (.int r.key)) = false := by
    rw [htaken, List.any_map, List.any_eq_false]
    intro s hs
    simpa [Scalar.same] using Ne.symm (hfree s hs)
  rw [placeRecord, bind_ok (run_area ha), hedit, if_pos rfl, run_lift_bind hidx,
    run_lift_bind hf]
  exact run_placePlaceholder himg hkey hany b

lemma run_loadRecords {lines : List String} (h : w.Loaded b rows done)
    (hrs : ∀ r ∈ MapFile.records lines, r.Sound)
    (hkeys : (done ++ MapFile.records lines).Pairwise fun r s => r.key ≠ s.key) :
    ∃ w', (loadRecords b lines).runOn w = (.ok (), w') ∧
      w'.Loaded b rows (done ++ MapFile.records lines) ∧ w'.disk = w.disk := by
  induction lines generalizing w done with
  | nil => exact ⟨w, rfl, by simpa [MapFile.records] using h, rfl⟩
  | cons line lines ih =>
    cases hl : MapFile.record? line with
    | none =>
      have hrest : MapFile.records (line :: lines) = MapFile.records lines := by
        rw [MapFile.records, List.filterMap_cons, hl]
        rfl
      rw [hrest] at hrs hkeys ⊢
      obtain ⟨fault, hload⟩ := run_loadRecord_of_none hl b w
      obtain ⟨w', hw', hall, hd⟩ := ih (w := w.withLog (.fault _ fault _ :: w.log)) h hrs hkeys
      refine ⟨w', ?_, hall, hd⟩
      rw [loadRecords, run_forM_cons, run_bind, run_tryCatch, hload]
      exact hw'
    | some r =>
      have hrest : MapFile.records (line :: lines) = r :: MapFile.records lines := by
        rw [MapFile.records, List.filterMap_cons, hl]
        rfl
      rw [hrest] at hrs hkeys ⊢
      have hfree : ∀ s ∈ done, s.key ≠ r.key := fun s hs =>
        (List.pairwise_append.1 hkeys).2.2 s hs r (.head _)
      obtain ⟨icon, image, hu⟩ := run_placeRecord h (hrs r (.head _)) hfree
      have hload : (loadRecord b line).runOn w = (.ok (), w.afterRecord b icon image r) := by
        rw [loadRecord_eq, run_lift_bind (MapFile.record?_eq_some.1 hl).1, hu]
      have hassoc : done ++ r :: MapFile.records lines = done ++ [r] ++ MapFile.records lines := by
        simp
      rw [hassoc] at hkeys ⊢
      obtain ⟨w', hw', hall, hd⟩ := ih (h.afterRecord icon image r)
        (fun s hs => hrs s (.tail _ hs)) hkeys
      refine ⟨w', ?_, hall, hd⟩
      rw [loadRecords, run_forM_cons, run_bind, run_tryCatch, hload]
      exact hw'

/-! ## Loading a file -/

section Files

variable {rs : List MapFile.Record} {area : Area} {name : String}

def emptied (w : World) (b : AreaId) (name : String) : World :=
  { w with areas := w.areas.modify b.index ({ · with entities := [], name? := some name }) }

def grounded (w : World) (b : AreaId) (map : TileMap) : World :=
  { w with
    grounds := w.grounds.push map
    background := w.background ++ [.ground ⟨w.grounds.size⟩]
    areas := w.areas.modify b.index ({ · with ground? := some ⟨w.grounds.size⟩ }) }

lemma loaded_grounded (rows : List (List Json)) (ha : w.areas[b.index]? = some area)
    (hedit : area.isEdited = true) (htaken : w.taken = []) (name : String) :
    (grounded (emptied w b name) b { rows }).Loaded b rows [] := by
  refine ⟨⟨{ area with entities := [], name? := some name, ground? := some ⟨w.grounds.size⟩ },
    ⟨w.grounds.size⟩, ?_, hedit, rfl, ?_, .nil⟩, htaken⟩
  · simp [grounded, emptied, Array.getElem?_modify, ha]
  · simp [grounded, emptied]

def recordBytes (rs : List MapFile.Record) : List UInt8 :=
  (rs.map MapFile.Record.line).flatMap fun line => Text.encode line ++ [0]

def mapBody (rows : List (List Json)) (rs : List MapFile.Record) : List UInt8 :=
  MapFile.writeLong 1 ++ MapFile.writeLong (rows.headD []).length ++
    MapFile.writeLong rows.length ++ (TileMap.writeTiles rows.flatten).bytes ++ recordBytes rs

lemma write_eq_cons : MapFile.write (rows.headD []).length rows.length rows.flatten
    (rs.map MapFile.Record.line) = 0 :: mapBody rows rs := by
  simp [MapFile.write, MapFile.writeHead, mapBody, recordBytes]

lemma run_loadBinary (ha : w.areas[b.index]? = some area) (hedit : area.isEdited = true)
    (htaken : w.taken = []) (hrows : TileMap.Writable rows) (hrs : ∀ r ∈ rs, r.Sound)
    (hkeys : rs.Pairwise fun r s => r.key ≠ s.key) (name : String) :
    ∃ w', (loadBinary b name (mapBody rows rs)).runOn w = (.ok (), w') ∧ w'.Shows b rows rs := by
  have hloaded := loaded_grounded rows ha hedit htaken (MapFile.areaName name)
  have hls : MapFile.records (rs.map MapFile.Record.line) = rs := MapFile.records_map_line hrs
  obtain ⟨w', hw', hall, -⟩ := run_loadRecords hloaded (hls.symm ▸ hrs) (hls.symm ▸ hkeys)
  rw [hls, List.nil_append] at hall
  refine ⟨w', ?_, hall.shows⟩
  have hemp :
      (modifyArea b ({ · with entities := [], name? := some (MapFile.areaName name) })).runOn w =
        (.ok (), emptied w b (MapFile.areaName name)) := rfl
  have hts : MapFile.readTiles (mapBody rows rs) = .ok ({ rows }, recordBytes rs) :=
    MapFile.readTiles_write hrows _
  have hlay : (layGround b { rows }).runOn (emptied w b (MapFile.areaName name)) =
      (.ok (), grounded (emptied w b (MapFile.areaName name)) b { rows }) := rfl
  have hrecs : MapFile.readRecords (recordBytes rs) = .ok (rs.map MapFile.Record.line) :=
    MapFile.readRecords_write hrs
  rw [loadBinary, bind_ok hemp, run_lift_bind hts]
  simp only
  rw [bind_ok hlay, run_lift_bind hrecs]
  exact hw'

end Files

end Game

end TileQuest
