import TileQuest.Proofs.Items.Removal

/-!
# Adding conserves items

`Inventory.add` makes a round: it fills the open stacks of the type, puts a stack into the first
slot without a type, and starts the next round with what is left. Every step of it stows items
away (`Inventory.Stows`): what is no longer left over is in the slots, and the room for the type has
shrunk by as much. So the total and the room at the end follow from the start and from what is left.
-/

namespace TileQuest

variable {inv : Inventory} {t : ItemType} {size n left : Int} {amount : Json}

namespace Inventory

/-! ## Stowing away -/

/-- Of `n` items of a type some went into a row of slots and `left` are left over: the slots hold
more by as many as are no longer there, and have that much less room. Slots of other types are as
they were, and all slots are in order. -/
structure Stows (t : ItemType) (size : Int) (before : List Slot) (n : Int) (after : List Slot)
    (left : Int) : Prop where
  /-- No item is lost or made. -/
  total_eq : total t after + left = total t before + n
  room_eq : room t size after + n = room t size before + left
  /-- Other types are left alone. -/
  others : SameOthers t before after
  elsewhere : ∀ u, u ≠ t → total u after = total u before
  inOrder : ∀ s ∈ after, s.InOrder

section Rounds

variable {filled : List Slot} {announced : List Inventory}

lemma place?_outcome (ht : t.stackSize = .ofInt size) {slots : List Slot}
    {placed : List Slot × Except Fault Bool} (h : place? t (.ofInt n) slots = some placed) :
    placed.2 = .ok (decide (size < n)) := by
  induction slots generalizing placed with
  | nil => cases h
  | cons slot rest ih =>
    have hless : t.stackSize.less (.ofInt n) = .ok (decide (size < n)) := by rw [ht]; rfl
    rw [place?, hless] at h
    split at h
    · obtain ⟨placed', h', rfl⟩ := Option.map_eq_some_iff.1 h
      have houtcome := ih h'
      exact houtcome
    · cases h
      rfl

/-- One round, after the open stacks were filled. -/
lemma addFrom_eq (ht : t.stackSize = .ofInt size) {isDone : Bool}
    (htop : topUpAll t inv.slots (.ofInt n) = (filled, .ok (.ofInt left, isDone))) :
    addFrom inv t (.ofInt n) announced =
      let done (slots : List Slot) : Added :=
        ⟨{ inv with slots }, .ok 0, ({ inv with slots } :: announced).reverse⟩
      if isDone then done filled
      else match place? t (.ofInt left) filled with
        | none => ⟨{ inv with slots := filled }, .ok (.ofInt left), announced.reverse⟩
        | some (placed, _) =>
          if size < left then
            addFrom { inv with slots := placed } t (.ofInt (left - size))
              ({ inv with slots := placed } :: announced)
          else done placed := by
  have hmin : (Json.ofInt left).minus t.stackSize = .ok (.ofInt (left - size)) := by
    rw [ht]
    rfl
  rw [addFrom]
  rcases hp : place? t (.ofInt left) filled with - | ⟨placed, outcome⟩
  · grind
  · have houtcome := place?_outcome ht hp
    grind

lemma freeSlots_round {left : Json} {result : Except Fault (Json × Bool)}
    {placed : List Slot} {outcome : Except Fault Bool}
    (htop : topUpAll t inv.slots amount = (filled, result))
    (hp : place? t left filled = some (placed, outcome)) :
    freeSlots placed + 1 = freeSlots inv.slots := by
  have hfill := freeSlots_topUpAll t inv.slots amount
  rw [htop] at hfill
  exact (freeSlots_place? hp).trans hfill

end Rounds

section Steps

variable {slots rest : List Slot} {k : Int} {slot : Slot}

lemma Stows.refl (h : ∀ s ∈ slots, s.InOrder) (n : Int) : Stows t size slots n slots n :=
  ⟨rfl, rfl, sameOthers_refl t slots, fun _ _ => rfl, h⟩

lemma Stows.trans {a b c : List Slot} {m : Int} (h1 : Stows t size a n b m)
    (h2 : Stows t size b m c left) : Stows t size a n c left := by
  refine ⟨?_, ?_, h1.others.trans h2.others,
    fun u hu => (h2.elsewhere u hu).trans (h1.elsewhere u hu), h2.inOrder⟩
  · have := h1.total_eq
    have := h2.total_eq
    omega
  · have := h1.room_eq
    have := h2.room_eq
    omega

lemma Stows.cons (hslot : slot.InOrder) {before after : List Slot}
    (h : Stows t size before n after left) :
    Stows t size (slot :: before) n (slot :: after) left := by
  have ht := h.total_eq
  have hr := h.room_eq
  simp only [room] at hr
  refine ⟨?_, ?_, .cons (fun _ _ _ => rfl) h.others, fun u hu => ?_, ?_⟩
  · by_cases hs : slot.item? = some t
    · simp only [total_cons_of_eq hs]
      omega
    · simpa only [total_cons_of_ne hs] using ht
  · simp only [room]
    rcases hs : slot.item? with - | u
    · have hne : slot.item? ≠ some t := by simp [hs]
      simp only [openRoom_cons_of_ne hne, freeSlots_cons_of_none hs, Int.natCast_add,
        Int.natCast_one, Int.mul_add, Int.mul_one]
      omega
    · by_cases hu : slot.item? = some t
      · simp only [openRoom_cons_of_eq hu, freeSlots_cons_of_some hs]
        omega
      · simpa only [openRoom_cons_of_ne hu, freeSlots_cons_of_some hs] using hr
  · by_cases hs : slot.item? = some u
    · rw [total_cons_of_eq hs, total_cons_of_eq hs, h.elsewhere u hu]
    · rw [total_cons_of_ne hs, total_cons_of_ne hs, h.elsewhere u hu]
  · intro s hs
    rcases List.mem_cons.1 hs with rfl | hs
    · exact hslot
    · exact h.inOrder s hs

lemma fill_eq {a : Int} (ht : t.stackSize = .ofInt size) (ha : slot.amount = .ofInt a) (n : Int) :
    fill t.stackSize slot (.ofInt n) = ({ slot with amount := .ofInt (a + min n (size - a)) },
      .ok (.ofInt (n - min n (size - a)))) := by
  have hshare : share t.stackSize slot (.ofInt n) = .ok (.ofInt (min n (size - a))) := by
    rw [share, ha, ht]
    by_cases hlt : size - a < n
    · have hmin : min n (size - a) = size - a := by omega
      simp [Json.ofInt, bind, Except.bind, pure, Except.pure, hlt, hmin]
    · have hmin : min n (size - a) = n := by omega
      simp [Json.ofInt, bind, Except.bind, pure, Except.pure, hlt, hmin]
  rw [fill, hshare]
  simp [ha, Json.ofInt]

lemma stows_fill (ht : t.stackSize = .ofInt size) (hslot : slot.InOrder)
    (hs : slot.item? = some t) (hrest : ∀ s ∈ rest, s.InOrder)
    (hk : 0 ≤ k) (hfit : k ≤ size - slot.count) :
    Stows t size (slot :: rest) n ({ slot with amount := .ofInt (slot.count + k) } :: rest)
      (n - k) := by
  obtain ⟨-, hlo, hhi⟩ := (inOrder_iff ht hs).1 hslot
  have hs' : ({ slot with amount := .ofInt (slot.count + k) } : Slot).item? = some t := hs
  refine ⟨?_, ?_, .cons ?_ (sameOthers_refl t rest), fun u hu => ?_, ?_⟩
  · rw [total_cons_of_eq hs', total_cons_of_eq hs, ofInt_count]
    omega
  · rw [room, room, openRoom_cons_of_eq hs', openRoom_cons_of_eq hs, ofInt_count,
      freeSlots_cons_of_some hs', freeSlots_cons_of_some hs]
    omega
  · intro u hu hne
    exact absurd (Option.some.inj (hu.symm.trans hs)) hne
  · have hoth : slot.item? ≠ some u := fun h => hu (Option.some.inj (h.symm.trans hs))
    have hoth' : ({ slot with amount := .ofInt (slot.count + k) } : Slot).item? ≠ some u := hoth
    rw [total_cons_of_ne hoth', total_cons_of_ne hoth]
  · intro s hmem
    rcases List.mem_cons.1 hmem with rfl | hmem
    · refine (inOrder_iff ht hs').2 ?_
      rw [ofInt_count]
      exact ⟨rfl, by omega, by omega⟩
    · exact hrest s hmem

lemma openRoom_of_size_one (ht : t.stackSize = .ofInt size) (hsize : size = 1)
    (h : ∀ s ∈ slots, s.InOrder) : openRoom t size slots = 0 := by
  induction slots with
  | nil => rfl
  | cons slot rest ih =>
    have hrest := ih fun s hs => h s (.tail _ hs)
    by_cases hs : slot.item? = some t
    · obtain ⟨-, hlo, hhi⟩ := (inOrder_iff ht hs).1 (h slot (.head _))
      rw [openRoom_cons_of_eq hs, hrest]
      omega
    · rwa [openRoom_cons_of_ne hs]

lemma atMost_zero (n : Int) : (Json.ofInt n).atMost 0 = .ok (decide (n ≤ 0)) :=
  Json.atMost_int n 0

lemma topUp_stows (ht : t.stackSize = .ofInt size)
    (hsl : ∀ s ∈ slots, s.InOrder) (hn : 1 ≤ n) :
    ∃ after left, topUp t slots (.ofInt n) = (after, .ok (.ofInt left, decide (left = 0))) ∧
      Stows t size slots n after left ∧ 0 ≤ left ∧ (left ≠ 0 → openRoom t size after = 0) ∧
      (openRoom t size slots = 0 → after = slots) := by
  induction slots generalizing n with
  | nil =>
    have hne : n ≠ 0 := by omega
    exact ⟨[], n, by simp [topUp, hne], .refl hsl n, by omega, fun _ => rfl, fun _ => rfl⟩
  | cons slot rest ih =>
    have hslot := hsl slot (.head _)
    have hrest : ∀ s ∈ rest, s.InOrder := fun s hs => hsl s (.tail _ hs)
    rw [topUp]
    by_cases hs : slot.item? = some t
    · rw [if_pos hs, fill_eq ht (amount_eq_count hslot hs)]
      obtain ⟨-, hlo, hhi⟩ := (inOrder_iff ht hs).1 hslot
      generalize hk : min n (size - slot.count) = k
      have hstow := stows_fill ht hslot hs hrest (n := n) (k := k) (by omega) (by omega)
      have hnonneg := openRoom_nonneg ht hrest
      rw [openRoom_cons_of_eq hs]
      by_cases hdone : n - k = 0
      · rw [hdone] at hstow ⊢
        refine ⟨_, 0, ?_, hstow, by omega, fun h => absurd rfl h, by omega⟩
        simp only [atMost_zero, Int.le_refl, decide_true]
      · have hmore : ¬ n - k ≤ 0 := by omega
        obtain ⟨after, left, heq, hrestStow, hleft, hopen, hsame⟩ := ih hrest (n := n - k) (by omega)
        simp only [atMost_zero, hmore, decide_false, heq]
        refine ⟨_, left, rfl, hstow.trans (hrestStow.cons (hstow.inOrder _ (.head _))),
          hleft, fun h => ?_, fun h => ?_⟩
        · have hfill : ({ slot with amount := .ofInt (slot.count + k) } : Slot).item? = some t := hs
          rw [openRoom_cons_of_eq hfill, hopen h, ofInt_count]
          omega
        · obtain rfl : k = 0 := by omega
          rw [hsame (by omega), Int.add_zero, ← amount_eq_count hslot hs]
    · obtain ⟨after, left, heq, hstow, hleft, hopen, hsame⟩ := ih hrest hn
      rw [if_neg hs, heq]
      rw [openRoom_cons_of_ne hs]
      refine ⟨slot :: after, left, rfl, hstow.cons hslot, hleft, fun h => ?_, fun h => by rw [hsame h]⟩
      rw [openRoom_cons_of_ne hs]
      exact hopen h

lemma freeSlots_of_place?_eq_none (h : place? t amount slots = none) : freeSlots slots = 0 := by
  induction slots with
  | nil => rfl
  | cons slot rest ih =>
    rw [place?] at h
    split at h
    · next u hu =>
      rw [freeSlots_cons_of_some hu]
      exact ih (Option.map_eq_none_iff.1 h)
    · split at h <;> cases h

section

variable (ht : t.stackSize = .ofInt size)
include ht

lemma stows_place (hs : slot.item? = none)
    (hrest : ∀ s ∈ rest, s.InOrder) (hk : 1 ≤ k) (hfit : k ≤ size) :
    Stows t size (slot :: rest) n ({ item? := some t, amount := .ofInt k } :: rest) (n - k) := by
  have hne : slot.item? ≠ some t := by simp [hs]
  have hs' : ({ item? := some t, amount := .ofInt k } : Slot).item? = some t := rfl
  refine ⟨?_, ?_, .cons ?_ (sameOthers_refl t rest), fun u hu => ?_, ?_⟩
  · rw [total_cons_of_eq hs', total_cons_of_ne hne, ofInt_count]
    omega
  · rw [room, room, openRoom_cons_of_eq hs', openRoom_cons_of_ne hne, ofInt_count,
      freeSlots_cons_of_some hs', freeSlots_cons_of_none hs, Int.natCast_add, Int.natCast_one,
      Int.mul_add, Int.mul_one]
    omega
  · intro u hu
    rw [hs] at hu
    cases hu
  · have hput : ({ item? := some t, amount := .ofInt k } : Slot).item? ≠ some u :=
      fun h => hu (Option.some.inj h).symm
    rw [total_cons_of_ne hput, total_cons_of_ne (by rw [hs]; simp)]
  · intro s hmem
    rcases List.mem_cons.1 hmem with rfl | hmem
    · refine (inOrder_iff ht hs').2 ?_
      rw [ofInt_count]
      exact ⟨rfl, hk, hfit⟩
    · exact hrest s hmem

lemma place?_stows (hsize : 1 ≤ size) (hsl : ∀ s ∈ slots, s.InOrder) (hn : 1 ≤ n)
    {placed : List Slot × Except Fault Bool} (h : place? t (.ofInt n) slots = some placed) :
    Stows t size slots n placed.1 (n - min n size) := by
  induction slots generalizing placed with
  | nil => simp [place?] at h
  | cons slot rest ih =>
    have hrest : ∀ s ∈ rest, s.InOrder := fun s hs => hsl s (.tail _ hs)
    rw [place?] at h
    rcases hs : slot.item? with - | u
    · have hless : t.stackSize.less (.ofInt n) = .ok (decide (size < n)) := by rw [ht]; rfl
      have hput : (if decide (size < n) = true then t.stackSize else .ofInt n) =
          Json.ofInt (min n size) := by
        rw [ht]
        by_cases hlt : size < n
        · simp [hlt, show min n size = size by omega]
        · simp [hlt, show min n size = n by omega]
      simp only [hs, hless, hput] at h
      cases h
      exact stows_place ht hs hrest (by omega) (by omega)
    · simp only [hs] at h
      obtain ⟨p, hp, rfl⟩ := Option.map_eq_some_iff.1 h
      exact (ih hrest hp).cons (hsl slot (.head _))

/-! ## Adding -/

lemma topUpAll_stows (hsize : 1 ≤ size) (hsl : ∀ s ∈ slots, s.InOrder) (hn : 1 ≤ n) :
    ∃ after left, topUpAll t slots (.ofInt n) = (after, .ok (.ofInt left, decide (left = 0))) ∧
      Stows t size slots n after left ∧ 0 ≤ left ∧ (left ≠ 0 → openRoom t size after = 0) ∧
      (openRoom t size slots = 0 → after = slots) := by
  have hless : Json.less 1 t.stackSize = .ok (decide (1 < size)) := by rw [ht]; rfl
  by_cases hone : 1 < size
  · simp only [topUpAll, hless, hone, decide_true]
    exact topUp_stows ht hsl hn
  · have hne : n ≠ 0 := by omega
    refine ⟨slots, n, ?_, .refl hsl n, by omega, fun _ => ?_, fun _ => rfl⟩
    · simp only [topUpAll, hless, hone, decide_false, hne]
    · exact openRoom_of_size_one ht (by omega) hsl

omit ht in
lemma openRoom_place {placed : List Slot} (h : Stows t size slots n placed (n - size))
    (hfree : freeSlots placed + 1 = freeSlots slots) (hopen : openRoom t size slots = 0) :
    openRoom t size placed = 0 := by
  have hroom := h.room_eq
  rw [room, room, ← hfree, Nat.cast_succ, Int.mul_add] at hroom
  omega

lemma addFrom_stows (hsize : 1 ≤ size) (inv : Inventory)
    (hinv : inv.WellFormed) (hn : 1 ≤ n) (announced : List Inventory) :
    ∃ left, (addFrom inv t (.ofInt n) announced).leftover = .ok (.ofInt left) ∧
      Stows t size inv.slots n (addFrom inv t (.ofInt n) announced).inventory.slots left ∧
      0 ≤ left ∧
      (left ≠ 0 → room t size (addFrom inv t (.ofInt n) announced).inventory.slots = 0) ∧
      (openRoom t size inv.slots = 0 → announced.head? = some inv →
        (addFrom inv t (.ofInt n) announced).announced.getLast? =
          some (addFrom inv t (.ofInt n) announced).inventory) := by
  induction hfree : freeSlots inv.slots using Nat.strongRecOn generalizing inv n announced with
  | _ free ih =>
    obtain ⟨filled, left, htop, hfill, hleft, hopen, hsame⟩ := topUpAll_stows ht hsize hinv hn
    rw [addFrom_eq ht htop]
    by_cases hdone : left = 0
    · subst hdone
      exact ⟨0, rfl, hfill, by omega, fun h => absurd rfl h, by simp⟩
    rw [decide_eq_false hdone, if_neg (by simp)]
    rcases hp : place? t (.ofInt left) filled with - | ⟨placed, outcome⟩
    · refine ⟨left, rfl, hfill, hleft, fun _ => ?_, fun hfull hhead => ?_⟩
      · simp [room, hopen hdone, freeSlots_of_place?_eq_none hp]
      · simpa [hsame hfull] using hhead
    · have hplace := place?_stows ht hsize hfill.inOrder (by omega) hp
      by_cases hmore : size < left
      · -- More than a stack is left: the next round starts with one free slot less.
        have hround := freeSlots_round htop hp
        have hless : freeSlots placed < free := by omega
        have hmin : min left size = size := by omega
        have hnext : 1 ≤ left - size := by omega
        rw [hmin] at hplace
        obtain ⟨rest, hrest, hstow, hnn, hroom, htold⟩ :=
          ih _ hless { inv with slots := placed } hplace.inOrder hnext
            ({ inv with slots := placed } :: announced) rfl
        simp only [if_pos hmore]
        refine ⟨rest, hrest, hfill.trans (hplace.trans hstow), hnn, hroom, fun _ _ => htold ?_ rfl⟩
        exact openRoom_place hplace (freeSlots_place? hp) (hopen hdone)
      · have hnone : left - min left size = 0 := by omega
        rw [hnone] at hplace
        simp only [if_neg hmore]
        exact ⟨0, rfl, hfill.trans hplace, by omega, fun h => absurd rfl h, by simp⟩

end

end Steps

lemma add_stows (hinv : inv.WellFormed) {t : ItemType} {size : Int}
    (ht : t.stackSize = .ofInt size) (hsize : 1 ≤ size) {n : Int} (hn : 1 ≤ n) :
    (inv.add t (.ofInt n)).leftover = .ok (.ofInt (max 0 (n - room t size inv.slots))) ∧
      Stows t size inv.slots n (inv.add t (.ofInt n)).inventory.slots
        (max 0 (n - room t size inv.slots)) := by
  obtain ⟨left, hleft, hstow, hnn, hroom, -⟩ := addFrom_stows ht hsize inv hinv hn []
  have haft := room_nonneg ht hsize hstow.inOrder
  have heq := hstow.room_eq
  have hmax : left = max 0 (n - room t size inv.slots) := by
    by_cases hzero : left = 0
    · omega
    · have := hroom hzero
      omega
  rw [← hmax]
  exact ⟨hleft, hstow⟩

/-! ## What listeners know -/

/-- The inventories that come from an empty one by adding items that stack and taking items out.
What is asked for when items are taken out may be any value. -/
inductive Reached (capacity : Int) : Inventory → Prop
  | empty : Reached capacity (.empty capacity)
  | add {inv : Inventory} {t : ItemType} {size n : Int} (h : Reached capacity inv)
      (ht : t.stackSize = .ofInt size) (hsize : 1 ≤ size) (hn : 1 ≤ n) :
      Reached capacity (inv.add t (.ofInt n)).inventory
  | remove {inv : Inventory} {t : ItemType} {amount : Json} {r : Removed} (h : Reached capacity inv)
      (hr : inv.remove t amount = .ok r) : Reached capacity r.inventory

lemma empty_wellFormed (capacity : Int) : (empty capacity).WellFormed := by
  intro slot hs
  exact inOrder_of_none (List.eq_of_mem_replicate hs ▸ rfl)

lemma Reached.wellFormed {capacity : Int} (h : Reached capacity inv) : inv.WellFormed := by
  induction h with
  | empty => exact empty_wellFormed capacity
  | add _ ht hsize hn ih => exact (add_stows ih ht hsize hn).2.inOrder
  | remove _ hr ih => exact (remove_wellFormed ih hr).1

/-- **Adding fills the room there is.**  Exactly what finds no room is left over, the rest is in the
slots of the type, and all else is as it was. So an inventory in use is well formed, and what it is
asked for it has exactly when it holds as many. -/
theorem add_fills_room : (∀ (inv : Inventory) (t : ItemType) (size n : Int), inv.WellFormed →
      t.stackSize = .ofInt size → 1 ≤ size → 1 ≤ n →
        ∃ left : Int, left = max 0 (n - room t size inv.slots) ∧
          (inv.add t (.ofInt n)).leftover = .ok (.ofInt left) ∧
          total t (inv.add t (.ofInt n)).inventory.slots = total t inv.slots + (n - left) ∧
          SameOthers t inv.slots (inv.add t (.ofInt n)).inventory.slots ∧
          (inv.add t (.ofInt n)).inventory.WellFormed) ∧
    ∀ (capacity : Int) (inv : Inventory), Reached capacity inv →
      inv.WellFormed ∧ ∀ (t : ItemType) (k : Int), 1 ≤ k →
        inv.has t (.ofInt k) = .ok (decide (k ≤ total t inv.slots)) := by
  constructor
  · intro inv t size n hinv ht hsize hn
    obtain ⟨hleft, hstow⟩ := add_stows hinv ht hsize hn
    refine ⟨_, rfl, hleft, ?_, hstow.others, hstow.inOrder⟩
    have := hstow.total_eq
    omega
  · intro capacity inv h
    exact ⟨h.wellFormed, fun t k hk => has_iff h.wellFormed t hk⟩

/-- Four more diamonds on top of a stack of three and a full one: two fit, two are left over. -/
theorem add_to_two_stacks :
    (twoStacks.WellFormed ∧ ∃ left : Int, left = max 0 (4 - room diamond 5 twoStacks.slots) ∧
      (twoStacks.add diamond 4).leftover = .ok (.ofInt left) ∧
      total diamond (twoStacks.add diamond 4).inventory.slots =
        total diamond twoStacks.slots + (4 - left) ∧
      SameOthers diamond twoStacks.slots (twoStacks.add diamond 4).inventory.slots ∧
      (twoStacks.add diamond 4).inventory.WellFormed) ∧
    max 0 (4 - room diamond 5 twoStacks.slots) = 2 ∧ Reached 3 ((empty 3).add diamond 7).inventory ∧
    ((empty 3).add diamond 7).inventory.has diamond 7 =
      .ok (decide (7 ≤ total diamond ((empty 3).add diamond 7).inventory.slots)) := by
  have hreached : Reached 3 ((empty 3).add diamond 7).inventory :=
    .add .empty rfl (by decide : (1 : Int) ≤ 5) (by decide : (1 : Int) ≤ 7)
  exact ⟨⟨twoStacks_wellFormed,
      add_fills_room.1 twoStacks diamond 5 4 twoStacks_wellFormed rfl (by decide) (by decide)⟩,
    by decide, hreached, (add_fills_room.2 3 _ hreached).2 diamond 7 (by decide)⟩

end Inventory

end TileQuest
