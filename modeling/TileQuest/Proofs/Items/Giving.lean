import TileQuest.Proofs.Items.Adding
import TileQuest.Proofs.Registers.Showing

/-!
# Giving items to the player

Whoever gives the player items makes the window of the inventory show everything anew, once for
every slot that changes. That works out when the inventory holds whole amounts of types that can be
shown (`Inventory.CountedIn`) and its window is in order (`World.Furnished`). Then it comes to what
`Inventory.add` says, and nothing but the window and what it shows is different (`World.Supplied`).
-/

namespace TileQuest

variable {t : ItemType} {w u w0 : World} {o : Owned} {view : InventoryView} {items : List PartId}
variable {bag : Bag} {inventory : Inventory}

/-! ## Whole amounts -/

namespace Inventory

variable {P : ItemType → Prop} {inv : Inventory} {slots : List Slot} {size : Int}

def IsCountedIn (P : ItemType → Prop) (slot : Slot) : Prop :=
  ∀ t, slot.item? = some t → P t ∧ ∃ n : Int, slot.amount = .ofInt n

/-- A slot with a type has one of the types of the game and a whole amount. -/
def IsCounted (slot : Slot) : Prop :=
  ∀ t, slot.item? = some t → t ∈ ItemType.all ∧ ∃ n : Int, slot.amount = .ofInt n

def CountedIn (P : ItemType → Prop) (inv : Inventory) : Prop := ∀ slot ∈ inv.slots, IsCountedIn P slot

/-- Every slot with a type has one of the types of the game and a whole amount. -/
def Counted (inv : Inventory) : Prop := ∀ slot ∈ inv.slots, IsCounted slot

lemma empty_counted (capacity : Int) : (empty capacity).Counted := by
  intro slot hs t ht
  rw [List.eq_of_mem_replicate hs] at ht
  cases ht

lemma stackSize_of_mem (ht : t ∈ ItemType.all) : ∃ size : Int, t.stackSize = .ofInt size := by
  simp only [ItemType.all, List.mem_cons, List.not_mem_nil, or_false] at ht
  rcases ht with rfl | rfl | rfl | rfl | rfl
  · exact ⟨5, rfl⟩
  all_goals exact ⟨1, rfl⟩

section

variable (ht : P t) (hsize : t.stackSize = .ofInt size)
include ht hsize

section

variable (hslots : ∀ s ∈ slots, IsCountedIn P s)
include hslots

lemma topUp_countedIn (n : Int) :
    ∃ after left isDone, topUp t slots (.ofInt n) = (after, .ok (.ofInt left, isDone)) ∧
      ∀ s ∈ after, IsCountedIn P s := by
  induction slots generalizing n with
  | nil => exact ⟨[], n, false, rfl, hslots⟩
  | cons slot rest ih =>
    obtain ⟨hslot, hrest⟩ := List.forall_mem_cons.1 hslots
    rw [topUp]
    by_cases hs : slot.item? = some t
    · obtain ⟨-, a, ha⟩ := hslot t hs
      rw [if_pos hs, fill_eq hsize ha]
      generalize hleft : n - min n (size - a) = left
      have hfill : IsCountedIn P { slot with amount := .ofInt (a + min n (size - a)) } := fun t' ht' => by
        cases hs.symm.trans ht'
        exact ⟨ht, _, rfl⟩
      by_cases hleft : left ≤ 0
      · refine ⟨_, left, true, ?_, List.forall_mem_cons.2 ⟨hfill, hrest⟩⟩
        simp [atMost_zero, hleft]
      · obtain ⟨after, left', isDone, htop, haft⟩ := ih hrest left
        refine ⟨_, left', isDone, ?_, List.forall_mem_cons.2 ⟨hfill, haft⟩⟩
        simp [atMost_zero, hleft, htop]
    · obtain ⟨after, left, isDone, htop, haft⟩ := ih hrest n
      rw [if_neg hs, htop]
      exact ⟨_, left, isDone, rfl, List.forall_mem_cons.2 ⟨hslot, haft⟩⟩

lemma topUpAll_countedIn (n : Int) :
    ∃ after left isDone, topUpAll t slots (.ofInt n) = (after, .ok (.ofInt left, isDone)) ∧
      ∀ s ∈ after, IsCountedIn P s := by
  have hless : Json.less 1 t.stackSize = .ok (decide (1 < size)) := by rw [hsize]; rfl
  by_cases hone : 1 < size
  · simp only [topUpAll, hless, hone, decide_true]
    exact topUp_countedIn ht hsize hslots n
  · simp only [topUpAll, hless, hone, decide_false]
    exact ⟨slots, n, false, rfl, hslots⟩

lemma place?_countedIn {n : Int} {placed : List Slot × Except Fault Bool}
    (h : place? t (.ofInt n) slots = some placed) : ∀ s ∈ placed.1, IsCountedIn P s := by
  induction slots generalizing placed with
  | nil => cases h
  | cons slot rest ih =>
    obtain ⟨hslot, hrest⟩ := List.forall_mem_cons.1 hslots
    rw [place?] at h
    cases hs : slot.item? with
    | some t' =>
      rw [hs] at h
      obtain ⟨placed', h', rfl⟩ := Option.map_eq_some_iff.1 h
      exact List.forall_mem_cons.2 ⟨hslot, ih hrest h'⟩
    | none =>
      have hless : t.stackSize.less (.ofInt n) = .ok (decide (size < n)) := by rw [hsize]; rfl
      rw [hs, hless] at h
      cases h
      refine List.forall_mem_cons.2 ⟨fun t' ht' => ?_, hrest⟩
      cases ht'
      by_cases hmore : size < n
      · exact ⟨ht, size, by simp [hmore, hsize]⟩
      · exact ⟨ht, n, by simp [hmore]⟩

end

lemma addFrom_countedIn
    (hinv : inv.CountedIn P) (n : Int) {announced : List Inventory} (hann : ∀ a ∈ announced, a.CountedIn P) :
    (∃ left : Int, (addFrom inv t (.ofInt n) announced).leftover = .ok (.ofInt left)) ∧
      (addFrom inv t (.ofInt n) announced).inventory.CountedIn P ∧
      ∀ a ∈ (addFrom inv t (.ofInt n) announced).announced, a.CountedIn P := by
  induction hfree : freeSlots inv.slots using Nat.strongRecOn generalizing inv n announced with
  | _ free ih =>
    obtain ⟨filled, left, isDone, htop, hfill⟩ := topUpAll_countedIn ht hsize hinv n
    have hreverse {slots' : List Slot} (hslots' : ∀ s ∈ slots', IsCountedIn P s) :
        ∀ a ∈ ({ inv with slots := slots' } :: announced).reverse, a.CountedIn P := fun a ha => by
      rcases List.mem_cons.1 (List.mem_reverse.1 ha) with rfl | ha
      · exact hslots'
      · exact hann a ha
    rw [addFrom_eq hsize htop]
    cases isDone with
    | true => exact ⟨⟨0, rfl⟩, hfill, hreverse hfill⟩
    | false =>
      rw [if_neg (by simp)]
      rcases hp : place? t (.ofInt left) filled with - | ⟨placed, outcome⟩
      · exact ⟨⟨left, rfl⟩, hfill, fun a ha => hann a (List.mem_reverse.1 ha)⟩
      · have hplcd := place?_countedIn ht hsize hfill hp
        by_cases hmore : size < left
        · have hround := freeSlots_round htop hp
          have hless : freeSlots placed < free := by omega
          have hcnt : ({ inv with slots := placed } : Inventory).CountedIn P := hplcd
          simp only [if_pos hmore]
          exact ih _ hless hcnt _ (List.forall_mem_cons.2 ⟨hplcd, hann⟩) rfl
        · simp only [if_neg hmore]
          exact ⟨⟨0, rfl⟩, hplcd, hreverse hplcd⟩

lemma add_countedIn (hinv : inv.CountedIn P) (n : Int) :
    (∃ left : Int, (inv.add t (.ofInt n)).leftover = .ok (.ofInt left)) ∧
      (inv.add t (.ofInt n)).inventory.CountedIn P ∧
      ∀ a ∈ (inv.add t (.ofInt n)).announced, a.CountedIn P :=
  addFrom_countedIn ht hsize hinv n nofun

end

end Inventory

/-! ## Things that come to the screen -/

namespace World

variable {v : World} {P : PartId → Prop}

def Legible (w : World) : Prop := ∀ row ∈ w.fonts, ∃ n : Int, row.2 = .ofInt n

/-- What a world is besides its parts and entities, what is drawn over it, and what was loaded. -/
def unplaced (w : World) : World :=
  { w with parts := #[], entities := #[], overlay := [], fonts := [], loadedImages := [] }

/-- More parts and entities are there, and more is drawn over the world. Nothing else is different,
apart from some parts. -/
structure Grown (P : PartId → Prop) (w u : World) : Prop where
  same : u.unplaced = w.unplaced
  size : w.parts.size ≤ u.parts.size
  parts : ∀ i : PartId, i.index < w.parts.size → ¬ P i → u.parts[i.index]? = w.parts[i.index]?
  entities : ∀ i < w.entities.size, u.entities[i]? = w.entities[i]?
  overlay : ∀ q ∈ w.overlay, q ∈ u.overlay
  legible : w.Legible → u.Legible

lemma Grown.refl (P : PartId → Prop) (w : World) : Grown P w w :=
  ⟨rfl, le_rfl, fun _ _ _ => rfl, fun _ _ => rfl, fun _ hq => hq, fun h => h⟩

lemma lt_entities_of_eq {i : Nat} (hi : i < w.entities.size)
    (h : u.entities[i]? = w.entities[i]?) : i < u.entities.size := by
  rw [Array.getElem?_eq_getElem hi] at h
  exact lt_of_getElem? h

lemma Grown.trans (h : Grown P w u) (h' : Grown P u v) : Grown P w v where
  same := h'.same.trans h.same
  size := h.size.trans h'.size
  parts i hi hp := (h'.parts i (hi.trans_le h.size) hp).trans (h.parts i hi hp)
  entities i hi := (h'.entities i (lt_entities_of_eq hi (h.entities i hi))).trans (h.entities i hi)
  overlay q hq := h'.overlay q (h.overlay q hq)
  legible hw := h'.legible (h.legible hw)

def posted (w : World) (p : Part) (x y : Json) : World :=
  let q : PartId := ⟨w.parts.size⟩
  World.placed { w.withPart p with overlay := w.overlay ++ [q] } [q] x y

lemma getElem?_posted (w : World) (p : Part) (x y : Json) (i : PartId) :
    (w.posted p x y).parts[i.index]? = (w.withPart p).parts[i.index]?.map fun o =>
      if i ∈ [(⟨w.parts.size⟩ : PartId)] then { o with owner? := some ⟨w.entities.size⟩ } else o :=
  getElem?_given _ _ _ i

lemma getElem?_posted_self (w : World) (p : Part) (x y : Json) :
    (w.posted p x y).parts[w.parts.size]? = some { part := p, owner? := some ⟨w.entities.size⟩ } := by
  refine (w.getElem?_posted p x y ⟨w.parts.size⟩).trans ?_
  simp [withPart]

lemma size_posted (w : World) (p : Part) (x y : Json) :
    (w.posted p x y).parts.size = w.parts.size + 1 := by
  simp [posted, placed, given, withPart]

lemma grown_posted (P : PartId → Prop) (w : World) (p : Part) (x y : Json) :
    Grown P w (w.posted p x y) where
  same := rfl
  size := by
    rw [size_posted]
    exact Nat.le_succ _
  parts i hi _ := by
    have hne : i ≠ ⟨w.parts.size⟩ := fun heq => Nat.lt_irrefl _ (heq ▸ hi)
    rw [getElem?_posted]
    simp [withPart, hne, Array.getElem?_push, hi.ne]
  entities i hi := by
    change (w.entities.push _)[i]? = _
    rw [Array.getElem?_push_lt hi, Array.getElem?_eq_getElem hi]
  overlay q hq := List.mem_append_left _ hq
  legible h := h

/-- The part is the first of those with numbers from some number on, and is drawn over the world. -/
structure Posted (size : Nat) (u : World) (q : PartId) : Prop where
  new : q.index = size
  there : q.index < u.parts.size
  listed : q ∈ u.overlay

lemma posted_posted (w : World) (p : Part) (x y : Json) :
    Posted w.parts.size (w.posted p x y) ⟨w.parts.size⟩ where
  new := rfl
  there := by
    rw [size_posted]
    exact Nat.lt_succ_self _
  listed := List.mem_append_right _ (.head _)

end World

namespace Game

open World

lemma exists_placeSprite {file : String} (hf : ∃ image, Image.load file = .ok image)
    (w : World) (x y : Scalar) :
    ∃ q u s, (placeSprite file x y).runOn w = (.ok q, u) ∧ (∀ P, Grown P w u) ∧ Posted w.parts.size u q ∧
      u.parts[q.index]? = some { part := .sprite s, owner? := some ⟨w.entities.size⟩ } ∧
      s.isOverlay = true := by
  obtain ⟨image, hl⟩ := hf
  let loaded : World := { w with loadedImages := Input.insertNew w.loadedImages file }
  let s : Sprite := { image, width := image.width, height := image.height, isOverlay := true }
  have hnew : (newSprite file true).runOn w =
      (.ok ⟨w.parts.size⟩, { loaded.withPart (.sprite s) with
        overlay := w.overlay ++ [⟨w.parts.size⟩] }) := by
    rw [newSprite, loadImage, bind_assoc, run_lift_bind hl]
    rfl
  refine ⟨⟨w.parts.size⟩, loaded.posted (.sprite s) x y, s, ?_, fun P => ?_,
    posted_posted loaded (.sprite s) x y, getElem?_posted_self loaded (.sprite s) x y, rfl⟩
  · rw [placeSprite, bind_ok hnew, bind_ok (run_placeParts _ _ _ _)]
    rfl
  · exact Grown.trans (u := loaded)
      ⟨rfl, le_rfl, fun _ _ _ => rfl, fun _ _ => rfl, fun _ hq => hq, fun h => h⟩
      (grown_posted P loaded (.sprite s) x y)

lemma exists_fontSize (h : w.Legible) (font : String) (size : Nat) :
    ∃ (n : Int) (fonts : List (String × Json)), (fontSize font (.ofInt size)).runOn w =
      (.ok (.ofInt n), { w with fonts }) ∧ ({ w with fonts } : World).Legible := by
  rw [fontSize, run_get_bind]
  cases hfind : w.fonts.find? fun row => row.1 == font ++ (Json.ofInt size).shown with
  | some row =>
    obtain ⟨n, hn⟩ := h row (List.mem_of_find?_eq_some hfind)
    exact ⟨n, w.fonts, congrArg (Except.ok ·, w) hn, h⟩
  | none =>
    refine ⟨size, w.fonts ++ [(font ++ (Json.ofInt size).shown, .ofInt size)], rfl, fun row hrow => ?_⟩
    rcases List.mem_append.1 hrow with hrow | hrow
    · exact h row hrow
    · rw [List.mem_singleton.1 hrow]
      exact ⟨size, rfl⟩

lemma exists_placeLabel (h : w.Legible) (font text : String) (size : Nat) (x y : Scalar) :
    ∃ q u l, (placeLabel font text size x y).runOn w = (.ok q, u) ∧ (∀ P, Grown P w u) ∧
      Posted w.parts.size u q ∧
      u.parts[q.index]? = some { part := .label l, owner? := some ⟨w.entities.size⟩ } ∧
      l.text = .str text ∧ ∃ n : Int, l.size? = some (.ofInt n) := by
  obtain ⟨n, fonts, hfont, hleg⟩ := exists_fontSize h font size
  let loaded : World := { w with fonts }
  obtain ⟨image, himg⟩ : ∃ image, Image.render text (.int n) = .ok image := ⟨_, rfl⟩
  let l : Label := { size? := some (.ofInt n), text := .str text, image }
  have hfst : (firstLabel font (.str text) (.ofInt size)).runOn w = (.ok l, loaded) := by
    have hrend : (renderText (.str text) (some (.ofInt n))).runOn loaded = (.ok image, loaded) :=
      congrArg (·, loaded) himg
    rw [firstLabel, bind_ok hfont, bind_ok hrend]
    rfl
  have hnew : (newLabel font (.str text) (.ofInt size)).runOn w =
      (.ok ⟨w.parts.size⟩, { loaded.withPart (.label l) with
        overlay := w.overlay ++ [⟨w.parts.size⟩] }) := by
    rw [newLabel, bind_ok hfst]
    rfl
  refine ⟨⟨w.parts.size⟩, loaded.posted (.label l) x y, l, ?_, fun P => ?_,
    posted_posted loaded (.label l) x y, getElem?_posted_self loaded (.label l) x y, rfl, n, rfl⟩
  · rw [placeLabel, bind_ok hnew, bind_ok (run_placeParts _ _ _ _)]
    rfl
  · exact Grown.trans (u := loaded) ⟨rfl, le_rfl, fun _ _ _ => rfl, fun _ _ => rfl,
      fun _ hq => hq, fun _ => hleg⟩ (grown_posted P loaded (.label l) x y)

end Game

/-! ## The window of the inventory -/

def Image.IsKnown (file : String) : Prop := ∃ image, Image.load file = .ok image

lemma ItemType.icon_isKnown (ht : t ∈ ItemType.all) : Image.IsKnown t.icon := by
  simp only [ItemType.all, List.mem_cons, List.not_mem_nil, or_false] at ht
  rcases ht with rfl | rfl | rfl | rfl | rfl <;> exact ⟨_, rfl⟩

/-- Items of the type can be shown: their stacks have a whole size, and their icon is there. -/
def ItemType.IsShowable (t : ItemType) : Prop :=
  (∃ size : Int, t.stackSize = .ofInt size) ∧ Image.IsKnown t.icon

lemma ItemType.isShowable_of_mem (ht : t ∈ ItemType.all) : t.IsShowable :=
  ⟨Inventory.stackSize_of_mem ht, icon_isKnown ht⟩

lemma Inventory.Counted.showable {inv : Inventory} (h : inv.Counted) :
    inv.CountedIn ItemType.IsShowable := fun slot hs t ht =>
  ⟨ItemType.isShowable_of_mem (h slot hs t ht).1, (h slot hs t ht).2⟩

/-- A view of the player's inventory whose images are those of the game. -/
structure InventoryView.IsProper (view : InventoryView) : Prop where
  bag : view.bag = Game.playerBag
  slot : ∃ file, view.slotImage = .str file ∧ Image.IsKnown file
  hand : ∃ file, view.handImage = .str file ∧ Image.IsKnown file

namespace World

variable {u' : World} {v q : PartId}

structure Rendering (v : PartId) (o : Owned) (view : InventoryView) (w0 : World)
    (items : List PartId) (u : World) : Prop where
  grown : Grown (· = v) w0 u
  part : u.parts[v.index]? = some { o with part := .inventoryView { view with items } }
  nodup : items.Nodup
  items : ∀ q ∈ items, w0.parts.size ≤ q.index ∧ q.index < u.parts.size ∧ q ∈ u.overlay
  legible : u.Legible

section

variable (h : Rendering v o view w0 items u)
include h

lemma Rendering.grow (hgrown : ∀ P, Grown P u u') : Rendering v o view w0 items u' where
  grown := h.grown.trans (hgrown _)
  part := ((hgrown fun _ => False).parts v (lt_of_getElem? h.part) id).trans h.part
  nodup := h.nodup
  items q hq := by
    obtain ⟨hnew, hth, hlist⟩ := h.items q hq
    exact ⟨hnew, hth.trans_le (hgrown (· = v)).size, (hgrown (· = v)).overlay q hlist⟩
  legible := (hgrown (· = v)).legible h.legible

lemma Rendering.notMem (hq : u.parts.size ≤ q.index) :
    q ∉ items := fun hmem => hq.not_gt (h.items q hmem).2.1

lemma Rendering.show (hq : q ∉ items)
    (hnew : w0.parts.size ≤ q.index) (hth : q.index < u.parts.size) (hlist : q ∈ u.overlay) :
    Rendering v o view w0 (items ++ [q]) (u.altered v (added q)) where
  grown := by
    refine h.grown.trans ⟨rfl, ?_, fun i _ hi => getElem?_altered_of_ne hi _, fun _ _ => rfl,
      fun _ hq => hq, fun h => h⟩
    rw [altered, Array.size_modify]
  part := getElem?_altered_self h.part _
  nodup := by
    refine List.nodup_append.2 ⟨h.nodup, List.nodup_singleton q, fun q' hq' p hp heq => ?_⟩
    rw [List.mem_singleton.1 hp] at heq
    exact hq (heq ▸ hq')
  items q' hq' := by
    rw [altered, Array.size_modify]
    rcases List.mem_append.1 hq' with hq' | hq'
    · exact h.items q' hq'
    · rw [List.mem_singleton.1 hq']
      exact ⟨hnew, hth, hlist⟩
  legible := h.legible

end

end World

namespace Game

open World

variable {v : PartId}

lemma Rendering.showNew (h : Rendering v o view w0 items u) {q : PartId} {u' : World}
    (hgrown : ∀ P, Grown P u u') (hpost : Posted u.parts.size u' q) :
    (showInView v q).runOn u' = (.ok (), u'.altered v (added q)) ∧
      Rendering v o view w0 (items ++ [q]) (u'.altered v (added q)) := by
  have hnot : q ∉ items := h.notMem hpost.new.symm.le
  have hsize : w0.parts.size ≤ q.index := hpost.new ▸ h.grown.size
  exact ⟨rfl, (h.grow hgrown).show hnot hsize hpost.there hpost.listed⟩

section

variable (hview : view.IsProper) (h : Rendering v o view w0 items u) (shown : List PartId) (equipped? : Option Json)
include hview h shown equipped?

lemma exists_renderSlot {slot : Slot}
    (hs : Inventory.IsCountedIn ItemType.IsShowable slot) (index : Nat) :
    ∃ items' u', (renderSlot v { view with items := shown } equipped? slot index).runOn u =
      (.ok (), u') ∧ Rendering v o view w0 items' u' := by
  obtain ⟨file, hf, hknown⟩ : ∃ file, (if equipped?.any (·.equal (.ofInt index)) then view.handImage
      else view.slotImage) = .str file ∧ Image.IsKnown file := by
    split
    · exact hview.hand
    · exact hview.slot
  obtain ⟨x, hx⟩ : ∃ x : Int, x = (index % slotsPerRow * slotStep : Nat) + view.window.x + slotGap :=
    ⟨_, rfl⟩
  obtain ⟨y, hy⟩ : ∃ y : Int, y = (index / slotsPerRow * slotStep : Nat) + view.window.y + slotGap :=
    ⟨_, rfl⟩
  have htext : (Json.str file).toText = .ok file := rfl
  obtain ⟨frame, u1, -, hrun1, hgrown1, hposted1, -, -⟩ := exists_placeSprite hknown u x y
  obtain ⟨hshow1, h1⟩ := Rendering.showNew h hgrown1 hposted1
  rw [renderSlot, hf, run_lift_bind htext]
  dsimp only
  rw [← hx, ← hy, bind_ok hrun1, bind_ok hshow1]
  cases hitem : slot.item? with
  | none => exact ⟨_, _, rfl, h1⟩
  | some t =>
    obtain ⟨⟨⟨size, hsize⟩, hknown⟩, -⟩ := hs t hitem
    have hless : Json.less 1 t.stackSize = .ok (decide (1 < size)) := by rw [hsize]; rfl
    obtain ⟨icon, u2, -, hrun2, hgrown2, hposted2, -, -⟩ :=
      exists_placeSprite hknown (u1.altered v (added frame)) x y
    have h2 := h1.grow hgrown2
    have hi : icon ∉ items ++ [frame] := h1.notMem hposted2.new.symm.le
    have hnew : w0.parts.size ≤ icon.index := hposted2.new ▸ h1.grown.size
    by_cases hstacks : 1 < size
    · obtain ⟨amount, u3, -, hrun3, hgrown3, hposted3, -⟩ :=
        exists_placeLabel h2.legible boldFont slot.amount.shown 30 x y
      obtain ⟨hshow3, h3⟩ := Rendering.showNew h2 hgrown3 hposted3
      have hi' : icon ∉ items ++ [frame] ++ [amount] := by
        rw [List.mem_append, List.mem_singleton, not_or]
        refine ⟨hi, fun heq => ?_⟩
        have := hposted3.new
        have := hposted2.there
        rw [heq] at this
        omega
      have hth : icon.index < (u3.altered v (added amount)).parts.size := by
        rw [altered, Array.size_modify]
        exact hposted2.there.trans_le (hgrown3 (· = v)).size
      refine ⟨_, _, ?_, h3.show hi' hnew hth ((hgrown3 (· = v)).overlay _ hposted2.listed)⟩
      dsimp only
      rw [bind_ok hrun2, run_lift_bind hless, decide_eq_true hstacks, if_pos rfl,
        bind_ok hrun3, bind_ok hshow3]
      rfl
    · refine ⟨_, _, ?_, h2.show hi hnew hposted2.there hposted2.listed⟩
      dsimp only
      rw [bind_ok hrun2, run_lift_bind hless, decide_eq_false hstacks, if_neg (by simp)]
      rfl

lemma exists_renderSlots {slots : List (Slot × Nat)}
    (hslots : ∀ x ∈ slots, Inventory.IsCountedIn ItemType.IsShowable x.1) :
    ∃ items' u', (slots.forM fun (slot, index) =>
        renderSlot v { view with items := shown } equipped? slot index).runOn u = (.ok ⟨⟩, u') ∧
      Rendering v o view w0 items' u' := by
  induction slots generalizing items u with
  | nil => exact ⟨items, u, rfl, h⟩
  | cons x slots ih =>
    obtain ⟨hs, hslots⟩ := List.forall_mem_cons.1 hslots
    obtain ⟨items1, u1, hrun1, h1⟩ := exists_renderSlot hview h shown equipped? hs x.2
    obtain ⟨items2, u2, hrun2, h2⟩ := ih h1 hslots
    refine ⟨items2, u2, ?_, h2⟩
    rw [run_forM_cons, bind_ok hrun1, hrun2]

end

end Game

namespace World

variable {z : World} {v : PartId} {viewer? : Option PartId} {items' : List PartId}

/-- The view of the player's inventory is in order, and all it shows is on the screen. -/
structure Viewed (w : World) (v : PartId) (items : List PartId) : Prop where
  part : ∃ o view, w.parts[v.index]? = some o ∧ o.part = .inventoryView view ∧ o.lost = [] ∧
    view.items = items ∧ view.IsProper
  nodup : items.Nodup
  listed : ∀ q ∈ items, q ∈ w.overlay

/-- The player's inventory is in order, and so is its window, which shows some parts. -/
structure Stocked (w : World) (bag : Bag) (items : List PartId) : Prop where
  holds : w.bags[0]? = some bag
  counted : bag.inventory.Counted
  legible : w.Legible
  viewed : ∀ v ∈ bag.viewer?, w.Viewed v items

/-- The player's inventory holds what can be shown, and so its window does, if it is in order. -/
structure Furnished (w : World) (bag : Bag) (items : List PartId) : Prop where
  holds : w.bags[0]? = some bag
  counted : bag.inventory.CountedIn ItemType.IsShowable
  legible : w.Legible
  viewed : ∀ v ∈ bag.viewer?, w.Viewed v items

lemma Stocked.furnished (h : w.Stocked bag items) : w.Furnished bag items :=
  ⟨h.holds, h.counted.showable, h.legible, h.viewed⟩

/-- What a world is besides what comes to the screen, and the inventories. -/
def unstocked (w : World) : World := { w.unplaced with bags := #[] }

/-- The inventory and its window are different. Everything else is as it was. -/
structure Supplied (viewer? : Option PartId) (items : List PartId) (w u : World) : Prop where
  same : u.unstocked = w.unstocked
  size : w.parts.size ≤ u.parts.size
  parts : ∀ i : PartId, i.index < w.parts.size → i ∉ viewer? → u.parts[i.index]? = w.parts[i.index]?
  entities : ∀ i < w.entities.size, u.entities[i]? = w.entities[i]?
  overlay : ∀ q ∈ w.overlay, q.index < w.parts.size → q ∉ items → q ∈ u.overlay

lemma Supplied.field_eq {α : Type} (h : Supplied viewer? items w u) (f : World → α)
    (hf : ∀ x : World, f x.unstocked = f x) : f u = f w := by
  rw [← hf u, h.same, hf w]

lemma Supplied.trans (h : Supplied viewer? items w u) (h' : Supplied viewer? items' u z)
    (hits : ∀ q ∈ items', q ∈ items ∨ w.parts.size ≤ q.index) : Supplied viewer? items w z where
  same := h'.same.trans h.same
  size := h.size.trans h'.size
  parts i hi hv := (h'.parts i (hi.trans_le h.size) hv).trans (h.parts i hi hv)
  entities i hi := (h'.entities i (lt_entities_of_eq hi (h.entities i hi))).trans (h.entities i hi)
  overlay q hq hlt hnot := by
    refine h'.overlay q (h.overlay q hq hlt hnot) (hlt.trans_le h.size) fun hmem => ?_
    exact (hits q hmem).elim hnot fun hle => hle.not_gt hlt

def withInventory (w : World) (inventory : Inventory) : World :=
  { w with bags := w.bags.modify 0 ({ · with inventory }) }

lemma supplied_withInventory (viewer? : Option PartId) (items : List PartId) (w : World)
    (inventory : Inventory) : Supplied viewer? items w (w.withInventory inventory) :=
  ⟨rfl, le_rfl, fun _ _ _ => rfl, fun _ _ => rfl, fun _ hq _ _ => hq⟩

lemma Furnished.withInventory (h : w.Furnished bag items)
    (hcnt : inventory.CountedIn ItemType.IsShowable) :
    (w.withInventory inventory).Furnished { bag with inventory } items where
  holds := by
    rw [World.withInventory, Array.getElem?_modify, if_pos rfl, h.holds]
    rfl
  counted := hcnt
  legible := h.legible
  viewed v hv := ⟨(h.viewed v hv).part, (h.viewed v hv).nodup, (h.viewed v hv).listed⟩

end World

namespace Game

open World

variable {v : PartId}

lemma run_playerBag (h : w.bags[0]? = some bag) : (Game.bag playerBag).runOn w = (.ok bag, w) := by
  rw [Game.bag, run_get_bind]
  change (orAbsent w.bags[0]?).runOn w = _
  rw [h, run_orAbsent_some]

section

variable (h : w.Furnished bag items)
include h

lemma exists_refreshView (hv : bag.viewer? = some v) :
    ∃ u items', (refreshView v).runOn w = (.ok (), u) ∧ u.Furnished bag items' ∧
      Supplied bag.viewer? items w u ∧ ∀ q ∈ items', w.parts.size ≤ q.index := by
  obtain ⟨⟨o, view, ho, hp, hlost, rfl, hprop⟩, hnd, hlist⟩ := h.viewed v hv
  let cleared := w.unshown v view.items
  have hclear : (clearView v).runOn w = (.ok (), cleared) :=
    run_clearView ho hp hlost hlist hnd
  have ho' : cleared.parts[v.index]? =
      some { o with part := .inventoryView { view with items := [] } } :=
    (getElem?_altered_self ho blanked).trans (by rw [hp]; rfl)
  have hbagView : (bagView v).runOn cleared = (.ok { view with items := [] }, cleared) := by
    rw [bagView, bind_ok (run_part ho')]
    rfl
  have hbag : (Game.bag view.bag).runOn cleared = (.ok bag, cleared) := by
    rw [hprop.bag]
    exact run_playerBag h.holds
  have hstart : Rendering v o view cleared [] cleared :=
    ⟨.refl _ _, ho', List.nodup_nil, by simp, h.legible⟩
  have hslots : ∀ x ∈ bag.inventory.slots.zipIdx, Inventory.IsCountedIn ItemType.IsShowable x.1 := fun x hx =>
    h.counted x.1 (List.fst_mem_of_mem_zipIdx hx)
  obtain ⟨items', u, hrun, hrend⟩ :=
    exists_renderSlots hprop hstart [] bag.inventory.equipped? hslots
  have hsize : cleared.parts.size = w.parts.size := by
    simp [cleared, World.unshown, World.altered]
  have hsame := hrend.grown.same
  have hbags : u.unplaced.bags = cleared.unplaced.bags := congrArg World.bags hsame
  refine ⟨u, items', ?_, ⟨?_, h.counted, hrend.legible, fun v' hv' => ?_⟩, ⟨?_, ?_, ?_, ?_, ?_⟩, ?_⟩
  · rw [refreshView, bind_ok (run_requires ho hlost _), bind_ok hclear, renderView,
      bind_ok (run_requires ho' hlost _), bind_ok hbagView]
    dsimp only
    rw [bind_ok hbag, hrun]
  · exact (congrArg (·[0]?) hbags).trans h.holds
  · cases hv.symm.trans hv'
    refine ⟨⟨_, { view with items := items' }, hrend.part, rfl, hlost, rfl, ?_⟩,
      hrend.nodup, fun q hq => (hrend.items q hq).2.2⟩
    exact ⟨hprop.bag, hprop.slot, hprop.hand⟩
  · exact congrArg (fun x : World => { x with bags := #[] }) hsame
  · exact hsize ▸ hrend.grown.size
  · intro i hi hne
    have hne' : i ≠ v := fun heq => hne (heq ▸ hv)
    exact (hrend.grown.parts i (hsize ▸ hi) hne').trans (getElem?_altered_of_ne hne' _)
  · exact hrend.grown.entities
  · exact fun q hq _ hnot => hrend.grown.overlay q (mem_foldl_erase hq hnot)
  · exact fun q hq => hsize ▸ (hrend.items q hq).1

lemma exists_announce (hcnt : inventory.CountedIn ItemType.IsShowable) :
    ∃ u items', (setInventory playerBag inventory >>= fun _ => announce playerBag).runOn w =
        (.ok (), u) ∧ u.Furnished { bag with inventory } items' ∧ Supplied bag.viewer? items w u ∧
      ∀ q ∈ items', q ∈ items ∨ w.parts.size ≤ q.index := by
  have h' := h.withInventory hcnt
  have hset : (setInventory playerBag inventory).runOn w = (.ok (), w.withInventory inventory) := rfl
  rw [bind_ok hset, announce, bind_ok (run_playerBag h'.holds)]
  cases hv : bag.viewer? with
  | none =>
    exact ⟨_, items, rfl, hv ▸ h', supplied_withInventory _ items w inventory, fun _ hq => .inl hq⟩
  | some v =>
    obtain ⟨u, items', hrun, hstock, hsup, hnew⟩ := exists_refreshView h' hv
    refine ⟨u, items', hrun, hv ▸ hstock, ?_, fun q hq => .inr (hnew q hq)⟩
    rw [← hv]
    exact (supplied_withInventory bag.viewer? items w inventory).trans hsup fun q hq => .inl hq

lemma exists_announceAll {inventories : List Inventory}
    (hcnt : ∀ a ∈ inventories, a.CountedIn ItemType.IsShowable) :
    ∃ u items' inventory, (inventories.forM fun inventory => do
        setInventory playerBag inventory
        announce playerBag).runOn w = (.ok ⟨⟩, u) ∧ u.Furnished { bag with inventory } items' ∧
      Supplied bag.viewer? items w u ∧ ∀ q ∈ items', q ∈ items ∨ w.parts.size ≤ q.index := by
  induction inventories generalizing w bag items with
  | nil =>
    exact ⟨w, items, bag.inventory, rfl, h,
      ⟨rfl, le_rfl, fun _ _ _ => rfl, fun _ _ => rfl, fun _ hq _ _ => hq⟩, fun _ hq => .inl hq⟩
  | cons a inventories ih =>
    obtain ⟨ha, hcnt⟩ := List.forall_mem_cons.1 hcnt
    obtain ⟨u, items1, hrun, hstock, hsup, hnew⟩ := exists_announce h ha
    obtain ⟨z, items2, inventory, hrun', hstock', hsup', hnew'⟩ := ih hstock hcnt
    refine ⟨z, items2, inventory, ?_, hstock', hsup.trans hsup' hnew, fun q hq => ?_⟩
    · rw [run_forM_cons, bind_ok hrun, hrun']
    · rcases hnew' q hq with hmem | hle
      · exact hnew q hmem
      · exact .inr (hsup.size.trans hle)

lemma exists_give_furnished (ht : t.IsShowable) (n : Int) :
    ∃ left u items', (bag.inventory.add t (.ofInt n)).leftover = .ok (.ofInt left) ∧
      (give playerBag t (.ofInt n)).runOn w = (.ok (.ofInt left), u) ∧
      u.Furnished { bag with inventory := (bag.inventory.add t (.ofInt n)).inventory } items' ∧
      Supplied bag.viewer? items w u ∧ ∀ q ∈ items', q ∈ items ∨ w.parts.size ≤ q.index := by
  obtain ⟨size, hsize⟩ := ht.1
  obtain ⟨⟨left, hleft⟩, hcnt, hann⟩ := Inventory.add_countedIn ht hsize h.counted n
  obtain ⟨u, items', inventory, hrun, hfurn, hsup, hnew⟩ := exists_announceAll h hann
  have hset : (setInventory playerBag (bag.inventory.add t (.ofInt n)).inventory).runOn u =
      (.ok (), u.withInventory (bag.inventory.add t (.ofInt n)).inventory) := rfl
  refine ⟨left, u.withInventory (bag.inventory.add t (.ofInt n)).inventory, items', hleft, ?_,
    hfurn.withInventory hcnt,
    hsup.trans (supplied_withInventory bag.viewer? items' u _) hnew, hnew⟩
  rw [give, bind_ok (run_playerBag h.holds)]
  dsimp only
  rw [bind_ok hrun, bind_ok hset, hleft]
  rfl

end

lemma exists_give (h : w.Stocked bag items) (ht : t ∈ ItemType.all) (n : Int) :
    ∃ left u items', (give playerBag t (.ofInt n)).runOn w = (.ok (.ofInt left), u) ∧
      u.Stocked { bag with inventory := (bag.inventory.add t (.ofInt n)).inventory } items' ∧
      Supplied bag.viewer? items w u ∧ ∀ q ∈ items', q ∈ items ∨ w.parts.size ≤ q.index := by
  obtain ⟨left, u, items', -, hrun, hfurn, hsup, hnew⟩ :=
    exists_give_furnished h.furnished (ItemType.isShowable_of_mem ht) n
  obtain ⟨size, hsize⟩ := Inventory.stackSize_of_mem ht
  have hcnt : (bag.inventory.add t (.ofInt n)).inventory.Counted :=
    (Inventory.add_countedIn (P := (· ∈ ItemType.all)) ht hsize h.counted n).2.1
  exact ⟨left, u, items', hrun,
    ⟨hfurn.holds, hcnt, hfurn.legible, hfurn.viewed⟩, hsup, hnew⟩

end Game

end TileQuest
