import Mathlib.Algebra.Order.Ring.Int
import Mathlib.Data.List.Forall2
import TileQuest.Item.Inventory
import TileQuest.Proofs.Outcome

/-!
# Taking out

The account of an inventory is how many items of a type it holds (`Inventory.total`) and for how
many more it has room (`Inventory.room`). `Inventory.remove` looks for one slot that holds enough.
Slots of the type that hold less are counted but keep what they hold, and the slot that holds enough
loses its type even if some of its items stay behind (`Inventory.takeOut_of_enough`,
`Inventory.takeOut_of_short`).
-/

namespace TileQuest

/-- How many items are in a slot, none if the amount is no whole number. -/
def Slot.count (slot : Slot) : Int :=
  match slot.amount with
  | .num (.int n) => n
  | _ => 0

/-- A slot with a type holds at least one item and at most one stack of it. -/
def Slot.InOrder (slot : Slot) : Prop :=
  ∀ t, slot.item? = some t → ∃ size n : Int,
    t.stackSize = .ofInt size ∧ slot.amount = .ofInt n ∧ 1 ≤ n ∧ n ≤ size

namespace Inventory

variable {slot : Slot} {t : ItemType} {size k : Int} {slots : List Slot}

def slotsOf (t : ItemType) (slots : List Slot) : List Slot := slots.filter fun s => s.item? = some t

def total (t : ItemType) (slots : List Slot) : Int := ((slotsOf t slots).map Slot.count).sum

/-- How many more items fit on the stacks of a type, a stack being of the given size. -/
def openRoom (t : ItemType) (size : Int) (slots : List Slot) : Int :=
  ((slotsOf t slots).map fun s => size - s.count).sum

/-- How many more items of a type fit into a row of slots: what is missing on its stacks, and a
stack for every slot without a type. -/
def room (t : ItemType) (size : Int) (slots : List Slot) : Int :=
  openRoom t size slots + size * freeSlots slots

/-- Every slot with a type holds at least one item and at most one stack. -/
def WellFormed (inv : Inventory) : Prop := ∀ slot ∈ inv.slots, slot.InOrder

def SameOthers (t : ItemType) (before after : List Slot) : Prop :=
  List.Forall₂ (fun a b => ∀ u, a.item? = some u → u ≠ t → b = a) before after

/-! ## Slot by slot -/

@[simp] lemma ofInt_count (item? : Option ItemType) (n : Int) :
    Slot.count { item?, amount := .ofInt n } = n := rfl

lemma count_of_amount {n : Int} (h : slot.amount = .ofInt n) : slot.count = n := by
  rw [Slot.count, h]
  rfl

lemma inOrder_iff (ht : t.stackSize = .ofInt size) (hs : slot.item? = some t) :
    slot.InOrder ↔ slot.amount = .ofInt slot.count ∧ 1 ≤ slot.count ∧ slot.count ≤ size := by
  constructor
  · intro h
    obtain ⟨size', n, hsize, hn, hlo, hhi⟩ := h t hs
    have hsame : size' = size := by
      rw [ht] at hsize
      simpa [Json.ofInt] using hsize.symm
    rw [count_of_amount hn]
    exact ⟨hn, hlo, hsame ▸ hhi⟩
  · rintro ⟨ha, hlo, hhi⟩ u hu
    obtain rfl : t = u := Option.some.inj (hs.symm.trans hu)
    exact ⟨size, slot.count, ht, ha, hlo, hhi⟩

lemma inOrder_of_none (h : slot.item? = none) : slot.InOrder := by
  intro t ht
  rw [h] at ht
  cases ht

lemma one_le_count (h : slot.InOrder) (hs : slot.item? = some t) : 1 ≤ slot.count := by
  obtain ⟨_, n, _, hn, hlo, _⟩ := h t hs
  rw [count_of_amount hn]
  exact hlo

lemma amount_eq_count (h : slot.InOrder) (hs : slot.item? = some t) :
    slot.amount = .ofInt slot.count := by
  obtain ⟨_, n, _, hn, _, _⟩ := h t hs
  rw [count_of_amount hn]
  exact hn

/-! ## Row by row -/

@[simp] lemma total_nil (t : ItemType) : total t [] = 0 := rfl

@[simp] lemma openRoom_nil (t : ItemType) (size : Int) : openRoom t size [] = 0 := rfl

lemma total_cons_of_eq (h : slot.item? = some t)
    (rest : List Slot) : total t (slot :: rest) = slot.count + total t rest := by
  simp [total, slotsOf, h]

lemma total_cons_of_ne (h : slot.item? ≠ some t)
    (rest : List Slot) : total t (slot :: rest) = total t rest := by
  simp [total, slotsOf, h]

lemma openRoom_cons_of_eq (h : slot.item? = some t) (size : Int) (rest : List Slot) :
    openRoom t size (slot :: rest) = size - slot.count + openRoom t size rest := by
  simp [openRoom, slotsOf, h]

lemma openRoom_cons_of_ne (h : slot.item? ≠ some t) (size : Int)
    (rest : List Slot) : openRoom t size (slot :: rest) = openRoom t size rest := by
  simp [openRoom, slotsOf, h]

lemma freeSlots_cons_of_some (h : slot.item? = some t)
    (rest : List Slot) : freeSlots (slot :: rest) = freeSlots rest := by
  simp [freeSlots, h]

lemma freeSlots_cons_of_none (h : slot.item? = none) (rest : List Slot) :
    freeSlots (slot :: rest) = freeSlots rest + 1 := by
  simp [freeSlots, h]

lemma total_append (t : ItemType) (front back : List Slot) :
    total t (front ++ back) = total t front + total t back := by
  simp [total, slotsOf]

lemma total_nonneg (h : ∀ s ∈ slots, s.InOrder) : 0 ≤ total t slots := by
  induction slots with
  | nil => simp
  | cons slot rest ih =>
    have hrest := ih fun s hs => h s (.tail _ hs)
    by_cases hs : slot.item? = some t
    · have := one_le_count (h slot (.head _)) hs
      rw [total_cons_of_eq hs]
      omega
    · rwa [total_cons_of_ne hs]

lemma openRoom_nonneg (ht : t.stackSize = .ofInt size)
    (h : ∀ s ∈ slots, s.InOrder) : 0 ≤ openRoom t size slots := by
  induction slots with
  | nil => simp
  | cons slot rest ih =>
    have hrest := ih fun s hs => h s (.tail _ hs)
    by_cases hs : slot.item? = some t
    · have := ((inOrder_iff ht hs).1 (h slot (.head _))).2.2
      rw [openRoom_cons_of_eq hs]
      omega
    · rwa [openRoom_cons_of_ne hs]

lemma room_nonneg (ht : t.stackSize = .ofInt size) (hsize : 1 ≤ size)
    (h : ∀ s ∈ slots, s.InOrder) : 0 ≤ room t size slots := by
  have h1 := openRoom_nonneg ht h
  have h2 : 0 ≤ size * (freeSlots slots : Int) := Int.mul_nonneg (by omega) (Int.natCast_nonneg _)
  rw [room]
  omega

lemma sameOthers_refl (t : ItemType) (slots : List Slot) : SameOthers t slots slots :=
  List.forall₂_same.2 fun _ _ _ _ _ => rfl

lemma SameOthers.trans {a b c : List Slot} (hab : SameOthers t a b)
    (hbc : SameOthers t b c) : SameOthers t a c := by
  induction hab generalizing c with
  | nil => exact hbc
  | cons h _ ih =>
    cases hbc with
    | cons h' hrest =>
      refine .cons (fun u hu hne => ?_) (ih hrest)
      have hb := h u hu hne
      rw [h' u (hb ▸ hu) hne, hb]

lemma hasFrom_iff (h : ∀ s ∈ slots, s.InOrder) {found : Int} (hk : found < k) :
    hasFrom t (.ofInt k) slots (.ofInt found) = .ok (decide (k ≤ found + total t slots)) := by
  induction slots generalizing found with
  | nil =>
    have : ¬ k ≤ found := by omega
    simp [hasFrom, this]
  | cons slot rest ih =>
    have hrest : ∀ s ∈ rest, s.InOrder := fun s hs => h s (.tail _ hs)
    rw [hasFrom]
    by_cases hs : slot.item? = some t
    · have hslot := h slot (.head _)
      rw [if_pos hs, amount_eq_count hslot hs, total_cons_of_eq hs]
      have hnn := total_nonneg (t := t) hrest
      by_cases hle : k ≤ found + slot.count
      · have : k ≤ found + (slot.count + total t rest) := by omega
        simp [Json.ofInt, bind, Except.bind, hle, this, pure, Except.pure]
      · simp only [Json.ofInt, Json.plus_int, bind, Except.bind, Json.atMost_int, hle, decide_false]
        have hmore : found + slot.count < k := by omega
        simpa [Json.ofInt, Int.add_assoc] using ih hrest hmore
    · rw [if_neg hs, total_cons_of_ne hs]
      exact ih hrest hk

lemma has_iff {inv : Inventory} (h : inv.WellFormed) (t : ItemType) (hk : 1 ≤ k) :
    inv.has t (.ofInt k) = .ok (decide (k ≤ total t inv.slots)) := by
  have hpos : 0 < k := by omega
  have hall := hasFrom_iff (t := t) h hpos
  rwa [Int.zero_add] at hall

/-! ## Taking items -/

variable {front after : List Slot} {n : Int} {sum amount : Json} {isTaken : Bool} {inv : Inventory}

/-- As many items as were asked for, or all there are, go from the slots of a type. A slot loses
its type only when it is empty. -/
structure TakesOut (t : ItemType) (n : Int) (before : List Slot) (found : Json)
    (after : List Slot) : Prop where
  /-- As many are found as were asked for, if there are so many. -/
  found_eq : found = .ofInt (min n (total t before))
  /-- The slots hold less by as many as were found. -/
  lowered : found = .ofInt (total t before - total t after)
  /-- Other types are left alone. -/
  others : SameOthers t before after
  /-- A slot that loses its type is empty. -/
  cleared : List.Forall₂ (fun a b => a.item?.isSome → b.item? = none → b.amount = .ofInt 0)
    before after

/-! ## What is taken -/

section Searching

lemma takeOut_cons_of_short (hslot : slot.InOrder)
    (hshort : slot.item? = some t → slot.count < n) {rest : List Slot} {found : Int}
    (hrest : takeOut t (.ofInt n) rest (.ofInt (found + total t [slot])) =
      .ok (after, sum, isTaken)) :
    takeOut t (.ofInt n) (slot :: rest) (.ofInt found) = .ok (slot :: after, sum, isTaken) := by
  rw [takeOut]
  by_cases hs : slot.item? = some t
  · have hless : (Json.ofInt slot.count).less (.ofInt n) = .ok true := by
      simp [Json.ofInt, hshort hs]
    have hplus : (Json.ofInt found).plus (.ofInt slot.count) = .ok (.ofInt (found + slot.count)) :=
      rfl
    rw [total_cons_of_eq hs, total_nil, Int.add_zero] at hrest
    rw [if_pos hs, amount_eq_count hslot hs, hless]
    simp only [ok_bind, if_true, hplus, hrest]
    rfl
  · rw [total_cons_of_ne hs, total_nil, Int.add_zero] at hrest
    rw [if_neg hs, hrest]
    rfl

lemma takeOut_of_short (hsl : ∀ s ∈ slots, s.InOrder)
    (hshort : ∀ s ∈ slots, s.item? = some t → s.count < n) (found : Int) :
    takeOut t (.ofInt n) slots (.ofInt found) =
      .ok (slots, .ofInt (found + total t slots), false) := by
  induction slots generalizing found with
  | nil => simp [takeOut]
  | cons slot rest ih =>
    refine takeOut_cons_of_short (hsl slot (.head _))
      (hshort slot (.head _)) ?_
    rw [show total t (slot :: rest) = _ from total_append t [slot] rest, ← Int.add_assoc]
    exact ih (fun s hs => hsl s (.tail _ hs))
      (fun s hs => hshort s (.tail _ hs)) _

lemma takeOut_of_enough (hfront : ∀ s ∈ front, s.InOrder)
    (hshort : ∀ s ∈ front, s.item? = some t → s.count < n) (hslot : slot.InOrder)
    (hs : slot.item? = some t) (henough : n ≤ slot.count) (back : List Slot) (found : Int) :
    takeOut t (.ofInt n) (front ++ slot :: back) (.ofInt found) =
      .ok (front ++ { item? := none, amount := .ofInt (slot.count - n) } :: back,
        .ofInt (found + total t front + n), true) := by
  induction front generalizing found with
  | nil =>
    have hless : (Json.ofInt slot.count).less (.ofInt n) = .ok false := by
      simp [Json.ofInt, henough]
    have hemptied : emptied slot (.ofInt n) =
        .ok { item? := none, amount := .ofInt (slot.count - n) } := by
      rw [emptied, amount_eq_count hslot hs]
      by_cases heq : slot.count = n
      · simp only [Json.ofInt, Json.equal_int, heq, decide_true, if_true, Int.sub_self]
        rfl
      · simp only [Json.ofInt, Json.equal_int, heq, decide_false, Json.minus_int]
        rfl
    rw [List.nil_append, takeOut, if_pos hs, hemptied, amount_eq_count hslot hs, hless]
    simp [Json.ofInt, pure, Except.pure]
  | cons first front ih =>
    refine takeOut_cons_of_short (hfront first (.head _))
      (hshort first (.head _)) ?_
    rw [show total t (first :: front) = _ from total_append t [first] front, ← Int.add_assoc found]
    exact ih (fun s hs => hfront s (.tail _ hs))
      (fun s hs => hshort s (.tail _ hs)) _

lemma short_or_enough (t : ItemType) (n : Int) (slots : List Slot) :
    (∀ s ∈ slots, s.item? = some t → s.count < n) ∨
      ∃ front slot back, slots = front ++ slot :: back ∧
        (∀ s ∈ front, s.item? = some t → s.count < n) ∧ slot.item? = some t ∧ n ≤ slot.count := by
  rcases hfind : slots.find? fun s => s.item? = some t ∧ n ≤ s.count with - | slot
  · left
    intro s hmem hs
    have := List.find?_eq_none.1 hfind s hmem
    simp only [hs, true_and, decide_eq_true_eq] at this
    omega
  · right
    obtain ⟨hp, front, back, rfl, hfront⟩ := List.find?_eq_some_iff_append.1 hfind
    simp only [decide_eq_true_eq] at hp
    refine ⟨front, slot, back, rfl, fun s hmem hs => ?_, hp.1, hp.2⟩
    have := hfront s hmem
    simp only [hs, true_and, Bool.not_eq_eq_eq_not, Bool.not_true, decide_eq_false_iff_not] at this
    omega

end Searching

lemma remove_of_short (hinv : inv.WellFormed)
    (hshort : ∀ s ∈ inv.slots, s.item? = some t → s.count < n) :
    inv.remove t (.ofInt n) = .ok ⟨inv, .ofInt (total t inv.slots), false⟩ := by
  have htake := takeOut_of_short hinv hshort 0
  rw [Int.zero_add] at htake
  exact bind_eq_ok.2 ⟨_, htake, rfl⟩

lemma remove_of_enough (hinv : inv.WellFormed)
    {back : List Slot} (hspl : inv.slots = front ++ slot :: back)
    (hshort : ∀ s ∈ front, s.item? = some t → s.count < n) (hs : slot.item? = some t)
    (henough : n ≤ slot.count) :
    inv.remove t (.ofInt n) = .ok
      ⟨{ inv with slots := front ++ { item? := none, amount := .ofInt (slot.count - n) } :: back },
        .ofInt (total t front + n), true⟩ := by
  have hsl : ∀ s ∈ front ++ slot :: back, s.InOrder := hspl ▸ hinv
  have htake := takeOut_of_enough (fun s h => hsl s (List.mem_append_left _ h)) hshort
    (hsl slot (by simp)) hs henough back 0
  rw [Int.zero_add, ← hspl] at htake
  exact bind_eq_ok.2 ⟨_, htake, rfl⟩

/-! ## The slot looked at first -/

def firstOf? (t : ItemType) (slots : List Slot) : Option Slot :=
  slots.find? fun s => s.item? = some t

section First

lemma firstOf?_eq_none : firstOf? t slots = none ↔ ∀ s ∈ slots, s.item? ≠ some t := by
  simp [firstOf?]

lemma firstOf?_append_cons (hs : slot.item? = some t) (front back : List Slot) :
    firstOf? t (front ++ slot :: back) = (firstOf? t front).or (some slot) := by
  rw [firstOf?, List.find?_append, List.find?_cons_of_pos (by simpa using hs)]
  rfl

lemma amount_ne_of_short (hshort : ∀ s ∈ slots, s.item? = some t → s.count < n)
    (h : firstOf? t slots = some slot) : slot.amount ≠ .ofInt n := by
  intro hamount
  have hi : slot.item? = some t := by simpa using List.find?_some h
  have hless := hshort slot (List.mem_of_find?_eq_some h) hi
  rw [count_of_amount hamount] at hless
  omega

lemma total_eq_zero_iff (hsl : ∀ s ∈ slots, s.InOrder) :
    total t slots = 0 ↔ firstOf? t slots = none := by
  rw [firstOf?_eq_none]
  constructor
  · intro h s hmem hs
    obtain ⟨front, back, rfl⟩ := List.append_of_mem hmem
    have h1 := total_nonneg (t := t) fun s hs => hsl s (List.mem_append_left _ hs)
    have h2 := total_nonneg (t := t) fun s hs =>
      hsl s (List.mem_append_right _ (.tail _ hs))
    have h3 := one_le_count (hsl s hmem) hs
    rw [total_append, total_cons_of_eq hs] at h
    omega
  · intro h
    have : slotsOf t slots = [] := List.filter_eq_nil_iff.2 fun s hs => by simpa using h s hs
    simp [total, this]

end First

/-! ## When that is right -/

lemma cleared_refl (slots : List Slot) :
    List.Forall₂ (fun a b => a.item?.isSome → b.item? = none → b.amount = .ofInt 0) slots slots :=
  List.forall₂_same.2 fun s _ hsome hnone => by simp [hnone] at hsome

lemma takesOut_short_iff (hn : 1 ≤ n) (hsl : ∀ s ∈ slots, s.InOrder)
    (hshort : ∀ s ∈ slots, s.item? = some t → s.count < n) :
    TakesOut t n slots (.ofInt (total t slots)) slots ↔
      ∀ slot, firstOf? t slots = some slot → slot.amount = .ofInt n := by
  constructor
  · intro h slot hs
    have hzero : total t slots = 0 := by
      have := h.lowered
      simpa [Json.ofInt] using this
    rw [(total_eq_zero_iff hsl).1 hzero] at hs
    cases hs
  · intro hfst
    have hnone : firstOf? t slots = none :=
      Option.eq_none_iff_forall_ne_some.2 fun slot hs =>
        amount_ne_of_short hshort hs (hfst slot hs)
    have hzero := (total_eq_zero_iff hsl).2 hnone
    refine ⟨?_, ?_, sameOthers_refl t slots, cleared_refl slots⟩
    · rw [hzero, show min n 0 = 0 by omega]
    · rw [hzero, Int.sub_zero]

section Enough

variable {back : List Slot}

lemma total_append_cons (hs : slot.item? = some t) (front back : List Slot) :
    total t (front ++ slot :: back) = total t front + (slot.count + total t back) := by
  rw [total_append, total_cons_of_eq hs]

lemma sameOthers_of_enough (hs : slot.item? = some t) (left : Slot) :
    SameOthers t (front ++ slot :: back) (front ++ left :: back) := by
  refine List.rel_append (sameOthers_refl t front) (.cons ?_ (sameOthers_refl t back))
  intro u hu hne
  exact absurd (Option.some.inj (hu.symm.trans hs)) hne

lemma takesOut_enough_iff (hn : 1 ≤ n) (hsl : ∀ s ∈ front ++ slot :: back, s.InOrder)
    (hshort : ∀ s ∈ front, s.item? = some t → s.count < n) (hs : slot.item? = some t)
    (henough : n ≤ slot.count) :
    TakesOut t n (front ++ slot :: back) (.ofInt (total t front + n))
        (front ++ { item? := none, amount := .ofInt (slot.count - n) } :: back) ↔
      ∀ first, firstOf? t (front ++ slot :: back) = some first → first.amount = .ofInt n := by
  have hfront : ∀ s ∈ front, s.InOrder := fun s h => hsl s (List.mem_append_left _ h)
  have h1 := total_nonneg (t := t) hfront
  have h2 : 0 ≤ total t back := total_nonneg fun s h => hsl s (by simp [h])
  have hbef := total_append_cons hs front back
  have haft : total t (front ++ { item? := none, amount := .ofInt (slot.count - n) } :: back) =
      total t front + total t back := by
    rw [total_append, total_cons_of_ne (by simp)]
  rw [firstOf?_append_cons hs]
  constructor
  · intro h first hfst
    have hfnd := h.found_eq
    have hlowered := h.lowered
    rw [hbef] at hfnd hlowered
    rw [haft] at hlowered
    simp only [Json.ofInt, Json.num.injEq, Scalar.int.injEq] at hfnd hlowered
    -- Nothing stands in front, so the slot that holds enough is the first.
    have hzero : total t front = 0 := by omega
    rw [(total_eq_zero_iff hfront).1 hzero, Option.none_or] at hfst
    obtain rfl := Option.some.inj hfst
    rw [amount_eq_count (hsl slot (by simp)) hs]
    congr 1
    omega
  · intro hfst
    have hnone : firstOf? t front = none :=
      Option.eq_none_iff_forall_ne_some.2 fun first h =>
        amount_ne_of_short hshort h (hfst first (by rw [h, Option.some_or]))
    have hzero := (total_eq_zero_iff hfront).2 hnone
    have hcnt : slot.count = n := count_of_amount (hfst slot (by rw [hnone, Option.none_or]))
    subst hcnt
    refine ⟨?_, ?_, sameOthers_of_enough hs _, ?_⟩
    · rw [hbef, hzero]
      congr 1
      omega
    · rw [hbef, haft, hzero]
      congr 1
      omega
    · refine List.rel_append (cleared_refl front) (.cons ?_ (cleared_refl back))
      exact fun _ _ => by rw [Int.sub_self]

end Enough

/-- **Taking out is right exactly when the first slot of the type holds as many as are asked for,**
or when there is no slot of the type. In every other case the count is too high, or items vanish
with the type of their slot. Slots of other types are left alone in any case, and never is more
counted than there is, nor less than was asked for if there is so much. -/
theorem remove_takesOut_iff {inv : Inventory} (hinv : inv.WellFormed) (t : ItemType) {n : Int}
    (hn : 1 ≤ n) : ∃ r, inv.remove t (.ofInt n) = .ok r ∧ (∃ found, r.found = .ofInt found ∧
        min n (total t inv.slots) ≤ found ∧ found ≤ total t inv.slots) ∧
      SameOthers t inv.slots r.inventory.slots ∧ (TakesOut t n inv.slots r.found r.inventory.slots ↔
        ∀ slot, firstOf? t inv.slots = some slot → slot.amount = .ofInt n) := by
  rcases short_or_enough t n inv.slots with
    hshort | ⟨front, slot, back, hsplit, hshort, hs, henough⟩
  · exact ⟨_, remove_of_short hinv hshort, ⟨_, rfl, by omega, le_rfl⟩,
      sameOthers_refl t inv.slots, takesOut_short_iff hn hinv hshort⟩
  · have hslots : ∀ s ∈ front ++ slot :: back, s.InOrder := hsplit ▸ hinv
    have h1 := total_nonneg (t := t) fun s h => hslots s (List.mem_append_left _ h)
    have h2 : 0 ≤ total t back := total_nonneg fun s h => hslots s (by simp [h])
    refine ⟨_, remove_of_enough hinv hsplit hshort hs henough, ?_⟩
    rw [hsplit, total_append_cons hs]
    exact ⟨⟨_, rfl, by omega, by omega⟩, sameOthers_of_enough hs _,
      takesOut_enough_iff hn hslots hshort hs henough⟩

/-- The diamond, which comes in stacks of five. -/
def diamond : ItemType := ItemType.all.headD default

def twoStacks : Inventory :=
  { capacity := 2,
    slots := [{ item? := some diamond, amount := 3 }, { item? := some diamond, amount := 5 }] }

lemma twoStacks_wellFormed : twoStacks.WellFormed := by
  intro slot hs t ht
  rcases List.mem_cons.1 hs with rfl | hs
  · cases ht
    exact ⟨5, 3, rfl, rfl, by decide, by decide⟩
  · obtain rfl := List.mem_singleton.1 hs
    cases ht
    exact ⟨5, 5, rfl, rfl, by decide, by decide⟩

theorem remove_whole_stack : twoStacks.WellFormed ∧ (1 : Int) ≤ 3 ∧
      ∃ r, twoStacks.remove diamond 3 = .ok r ∧ (∃ found, r.found = .ofInt found ∧
          min 3 (total diamond twoStacks.slots) ≤ found ∧ found ≤ total diamond twoStacks.slots) ∧
        SameOthers diamond twoStacks.slots r.inventory.slots ∧
        (TakesOut diamond 3 twoStacks.slots r.found r.inventory.slots ↔
          ∀ slot, firstOf? diamond twoStacks.slots = some slot → slot.amount = .ofInt 3) :=
  ⟨twoStacks_wellFormed, by decide, remove_takesOut_iff twoStacks_wellFormed diamond (by decide)⟩

/-- One of three diamonds is taken out, and the other two are gone as well: their slot has lost its
type. -/
theorem remove_one_of_three :
    ∃ r, ({ capacity := 1, slots := [{ item? := some diamond, amount := 3 }] } : Inventory).remove
        diamond 1 = .ok r ∧
      r.found = 1 ∧ r.inventory.slots = [{ item? := none, amount := 2 }] ∧
      ¬ TakesOut diamond 1 [{ item? := some diamond, amount := 3 }] r.found r.inventory.slots := by
  refine ⟨⟨⟨1, [⟨none, 2⟩], none⟩, 1, true⟩, rfl, rfl, rfl, fun h => ?_⟩
  have hlowered := h.lowered
  revert hlowered
  decide

lemma takeOut_inOrder (hsl : ∀ s ∈ slots, s.InOrder) {found : Json}
    (h : takeOut t amount slots found = .ok (after, sum, isTaken)) :
    (∀ s ∈ after, s.InOrder) ∧ (isTaken = false → after = slots) := by
  induction slots generalizing found after sum isTaken with
  | nil =>
    cases h
    exact ⟨hsl, fun _ => rfl⟩
  | cons slot rest ih =>
    -- Every way through the loop keeps the slot or gives one without a type.
    obtain ⟨hs, hrest⟩ := List.forall_mem_cons.1 hsl
    rw [takeOut] at h
    split at h
    · obtain ⟨isLess, -, h⟩ := bind_eq_ok.1 h
      cases isLess with
      | true =>
        obtain ⟨counted, -, h⟩ := bind_eq_ok.1 h
        obtain ⟨⟨after', sum', isTaken'⟩, htake, h⟩ := bind_eq_ok.1 h
        cases h
        obtain ⟨haft, hsame⟩ := ih hrest htake
        exact ⟨List.forall_mem_cons.2 ⟨hs, haft⟩, fun hnot => by rw [hsame hnot]⟩
      | false =>
        obtain ⟨counted, -, h⟩ := bind_eq_ok.1 h
        obtain ⟨left, hleft, h⟩ := bind_eq_ok.1 h
        cases h
        refine ⟨List.forall_mem_cons.2 ⟨inOrder_of_none ?_, hrest⟩, nofun⟩
        rw [emptied] at hleft
        split at hleft
        · cases hleft
          rfl
        · obtain ⟨_, -, hleft⟩ := bind_eq_ok.1 hleft
          cases hleft
          rfl
    · obtain ⟨⟨after', sum', isTaken'⟩, htake, h⟩ := bind_eq_ok.1 h
      cases h
      obtain ⟨haft, hsame⟩ := ih hrest htake
      exact ⟨List.forall_mem_cons.2 ⟨hs, haft⟩, fun hnot => by rw [hsame hnot]⟩

lemma remove_wellFormed (hinv : inv.WellFormed) {r : Removed} (h : inv.remove t amount = .ok r) :
    r.inventory.WellFormed ∧ (r.isAnnounced = false → r.inventory = inv) := by
  obtain ⟨⟨after, sum, isTaken⟩, htake, h⟩ := bind_eq_ok.1 h
  cases h
  obtain ⟨haft, hsame⟩ := takeOut_inOrder hinv htake
  exact ⟨haft, fun hnot => by rw [hsame hnot]⟩

end Inventory

end TileQuest
