import TileQuest.Proofs.Play.Numbers

/-!
# The edges of the ground

Outside its rows the ground should be solid and should not change. A coordinate is cut off toward
zero before it is compared with the edges, so this fails for points that are less than a tile to the
left of a row or above the rows: they are taken for points of the tile next to them
(`TileMap.sealed_iff`).
-/

namespace TileQuest

namespace TileMap

variable {m : TileMap} {x y : Int} {tile : Json}

/-! ## The tile of a point -/

lemma tdiv_eq_ite (i : Int) : i.tdiv 32 = if 0 ≤ i then i / 32 else -(-i / 32) := by
  split
  · exact Int.tdiv_eq_ediv_of_nonneg ‹_›
  · rw [← Int.tdiv_eq_ediv_of_nonneg (by omega), Int.neg_tdiv, Int.neg_neg]

lemma cell_ofInt (hx : x.natAbs < 2 ^ 53) : cell (.ofInt x) = .ok (x.tdiv 32) := by
  obtain ⟨c, hc, hholds⟩ := (Scalar.Holds.int 0 (n := x.natAbs) (i := x) (by omega)).div_pow (l := 5)
    hx (by omega) (by omega)
  have htrunc := hholds.whole (fun q => q.num.tdiv q.den) fun i => by simp
  have hdiv : Scalar.div (.int x) tileSize = .ok c := hc
  obtain ⟨g, hnum, hden⟩ := Rat.exists_eq_mul_div_num_and_eq_mul_div_den x
    (by decide : (32 : Int) ≠ 0)
  have hpos : 0 < g := by nlinarith [((x : Rat) / (32 : Int)).den_pos]
  have htdiv : ((x : Rat) / (32 : Int)).num.tdiv ((x : Rat) / (32 : Int)).den = x.tdiv 32 := by
    rw [← Int.mul_tdiv_mul_of_pos _ _ hpos, ← hnum, ← hden]
  rw [cell, Json.ofInt, Json.toScalar, ok_bind, hdiv, ok_bind, ← htdiv]
  exact htrunc

lemma pointIsSolid_ofInt (hx : x.natAbs < 2 ^ 53) (hy : y.natAbs < 2 ^ 53) :
    m.pointIsSolid (.ofInt x) (.ofInt y) = match m.tile? (x.tdiv 32) (y.tdiv 32) with
      | none => .ok true
      | some tile => (TileKind.ofTile tile).map (·.isSolid) := by
  rw [pointIsSolid, cell_ofInt hx, ok_bind, cell_ofInt hy, ok_bind]
  cases m.tile? (x.tdiv 32) (y.tdiv 32) with
  | none => rfl
  | some tile => cases TileKind.ofTile tile <;> rfl

def withTile (m : TileMap) (column row : Int) (tile : Json) : TileMap :=
  { rows := m.rows.modify row.toNat fun tiles => tiles.set column.toNat tile }

lemma setTile_ofInt (tile : Json) (hx : x.natAbs < 2 ^ 53) (hy : y.natAbs < 2 ^ 53) :
    m.setTile (.ofInt x) (.ofInt y) tile = .ok (match m.tile? (x.tdiv 32) (y.tdiv 32) with
      | none => m
      | some _ => m.withTile (x.tdiv 32) (y.tdiv 32) tile) := by
  rw [setTile, cell_ofInt hx, ok_bind, cell_ofInt hy, ok_bind]
  cases m.tile? (x.tdiv 32) (y.tdiv 32) <;> rfl

lemma tile?_withTile {column row : Int} (h : (m.tile? column row).isSome) (c r : Int) :
    (m.withTile column row tile).tile? c r =
      if c = column ∧ r = row then some tile else m.tile? c r := by
  unfold tile? at h
  split at h
  · cases h
  obtain ⟨t, ht⟩ := Option.isSome_iff_exists.1 h
  obtain ⟨tiles, hrow, htile⟩ := Option.bind_eq_some_iff.1 ht
  by_cases hneg : c < 0 ∨ r < 0
  · rw [if_neg (by omega), tile?, tile?, if_pos hneg, if_pos hneg]
  simp only [tile?, withTile, if_neg hneg, List.getElem?_modify]
  by_cases hr : r = row
  · subst hr
    have hlt : column.toNat < tiles.length := (List.getElem?_eq_some_iff.1 htile).1
    by_cases hc : c = column
    · simp [hrow, hc, hlt]
    · simp [hrow, hc, show column.toNat ≠ c.toNat by omega]
  · simp [hr, show row.toNat ≠ r.toNat by omega]

/-! ## Outside the rows -/

/-- The point is left of or above the ground, beyond the last row or beyond the last tile of its
row. -/
def Outside (m : TileMap) (x y : Int) : Prop :=
  x < 0 ∨ y < 0 ∨ (m.rows.getD (y / 32).toNat []).length ≤ (x / 32).toNat

lemma tile?_eq_none_iff : m.tile? (x / 32) (y / 32) = none ↔ m.Outside x y := by
  simp only [tile?, Outside]
  grind

/-- A point outside is solid and no tile is changed there. Inside, a tile that is put at the point
is read there afterwards, and all other tiles are what they were. -/
structure Sealed (m : TileMap) (x y : Int) (tile : Json) : Prop where
  outside : m.Outside x y → m.pointIsSolid (.ofInt x) (.ofInt y) = .ok true ∧
    m.setTile (.ofInt x) (.ofInt y) tile = .ok m
  inside : ¬ m.Outside x y → ∃ m', m.setTile (.ofInt x) (.ofInt y) tile = .ok m' ∧
    m'.pointIsSolid (.ofInt x) (.ofInt y) = (TileKind.ofTile tile).map (·.isSolid) ∧
    ∀ c r, ¬ (c = x / 32 ∧ r = y / 32) → m'.tile? c r = m.tile? c r

/-- The edges are closed at a point exactly if it is not less than a tile to the left of or above
a tile of the map. -/
theorem sealed_iff (hx : x.natAbs < 2 ^ 50) (hy : y.natAbs < 2 ^ 50) : (∀ tile, m.Sealed x y tile) ↔
      0 ≤ x ∧ 0 ≤ y ∨ x ≤ -32 ∨ y ≤ -32 ∨ m.Outside (max x 0) (max y 0) := by
  have hpoint := pointIsSolid_ofInt (m := m) (x := x) (y := y) (by omega) (by omega)
  have hset (tile : Json) := setTile_ofInt (m := m) (x := x) (y := y) tile (by omega) (by omega)
  have hdiv {i : Int} (hi : -32 < i) : i.tdiv 32 = max i 0 / 32 := by
    rw [tdiv_eq_ite]
    omega
  constructor
  · intro h
    by_contra hnear
    simp only [not_or, not_le] at hnear
    obtain ⟨hneg, hleft, habove, hin⟩ := hnear
    rw [← tile?_eq_none_iff, ← hdiv hleft, ← hdiv habove] at hin
    have hsome := Option.isSome_iff_ne_none.2 hin
    -- Any two tiles could be put there, and the map would have to stay what it is for both.
    have hread (tile : Json) : m.tile? (x.tdiv 32) (y.tdiv 32) = some tile := by
      have hkeep := (h tile).outside (by simp only [Outside]; omega)
      obtain ⟨t, ht⟩ := Option.isSome_iff_exists.1 hsome
      have hsame := Except.ok.inj ((hset tile).symm.trans hkeep.2)
      rw [ht] at hsame
      rw [← hsame, tile?_withTile hsome, if_pos ⟨rfl, rfl⟩]
    cases (hread .null).symm.trans (hread (.bool true))
  · intro h tile
    constructor
    · intro hout
      have hnone : m.tile? (x.tdiv 32) (y.tdiv 32) = none := by
        by_cases hleft : x ≤ -32 ∨ y ≤ -32
        · rw [tile?, if_pos (by rw [tdiv_eq_ite, tdiv_eq_ite]; omega)]
        · rw [hdiv (by omega), hdiv (by omega), tile?_eq_none_iff]
          rcases h with h | h | h | h
          · rwa [max_eq_left h.1, max_eq_left h.2]
          · omega
          · omega
          · exact h
      rw [hpoint, hset, hnone]
      exact ⟨rfl, rfl⟩
    · intro hin
      have hx0 : 0 ≤ x ∧ 0 ≤ y := by simp only [Outside] at hin; omega
      rw [← tile?_eq_none_iff] at hin
      have hsome := Option.isSome_iff_ne_none.2 hin
      rw [← Int.tdiv_eq_ediv_of_nonneg hx0.1, ← Int.tdiv_eq_ediv_of_nonneg hx0.2] at hsome ⊢
      obtain ⟨t, ht⟩ := Option.isSome_iff_exists.1 hsome
      refine ⟨_, by rw [hset, ht], ?_, fun c r hne => ?_⟩
      · rw [pointIsSolid_ofInt (by omega) (by omega), tile?_withTile hsome, if_pos ⟨rfl, rfl⟩]
      · rw [tile?_withTile hsome, if_neg hne]

def lawn : TileMap := { rows := [[.ofInt 1]] }

theorem sealed_iff_lawn : lawn.Sealed 31 (-32) (.ofInt 2) :=
  (sealed_iff (by decide) (by decide)).2 (.inr (.inr (.inl (by decide)))) _

/-- One pixel to the left of the grass it is not solid. -/
theorem not_sealed_lawn : ¬ lawn.Sealed (-1) 0 (.ofInt 2) := fun h => by
  have hsolid := (h.outside (.inl (by decide))).1
  rw [pointIsSolid_ofInt (by decide) (by decide)] at hsolid
  cases hsolid

end TileMap

end TileQuest
