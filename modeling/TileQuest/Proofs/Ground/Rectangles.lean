import Mathlib.Data.Nat.Choose.Basic
import TileQuest.Proofs.Ground.Edges

/-!
# Rectangles on the ground

Whether a rectangle touches solid ground is found out at a few points (`TileMap.lookedAt`): on a walk
whose steps grow, and at the corners as seen from where the walk ended. For rectangles up to the
size of a tile these are the corners of the rectangle, and they are enough
(`TileMap.IsValid.tells_of_small`). For every larger rectangle the last corner is too far away, so
that there is ground on which the answer is wrong (`TileMap.large_tells_iff`).
-/

namespace TileQuest

namespace TileMap

variable {m : TileMap} {x y w h : Int} (isSolid : Json → Json → Except Fault Bool)

/-! ## The points looked at

The steps of a walk grow by a tile each, so after `n` of them it is `n.choose 2` tiles away from its
start. -/

/-- The points of one row of a walk, the row being `rowStep` tiles below the last one. -/
def rowPoints (rowStep left step : Nat) (x y : Int) : List (Int × Int) :=
  (List.range' step left).map fun j =>
    (x + 32 * (j + 1).choose 2, y + 32 * (rowStep * (j + 1) : Nat))

def walkPoints (columns left rowStep : Nat) (x y : Int) : List (Int × Int) :=
  (List.range' rowStep left).flatMap fun i =>
    rowPoints i columns 0 (x + 32 * (i * columns.choose 2 : Nat))
      (y + 32 * (columns * i.choose 2 : Nat))

def anySolid (isSolid : Json → Json → Except Fault Bool) (points : List (Int × Int)) :
    Except Fault Bool :=
  points.anyM fun p => isSolid (.ofInt p.1) (.ofInt p.2)

lemma anySolid_cons (p : Int × Int) (ps : List (Int × Int)) :
    anySolid isSolid (p :: ps) = (do
      if ← isSolid (.ofInt p.1) (.ofInt p.2) then return true
      anySolid isSolid ps) := by
  rw [anySolid, List.anyM_cons]
  rfl

lemma succ_choose_two (n : Nat) : (n + 1).choose 2 = n.choose 2 + n := by
  rw [Nat.choose_succ_succ', Nat.choose_one_right, Nat.add_comm]

lemma walkRow_eq (rowStep left step : Nat) (x y : Int) :
    walkRow isSolid rowStep left step (.ofInt (x + 32 * step.choose 2))
      (.ofInt (y + 32 * (rowStep * step : Nat))) = (do
        if ← anySolid isSolid (rowPoints rowStep left step x y) then return none
        return some (.ofInt (x + 32 * (step + left).choose 2),
          .ofInt (y + 32 * (rowStep * (step + left) : Nat)))) := by
  induction left generalizing step with
  | zero => rfl
  | succ left ih =>
    have hx : Json.plus (.ofInt (step * tileSize : Nat)) (.ofInt (x + 32 * step.choose 2)) =
        .ok (.ofInt (x + 32 * (step + 1).choose 2)) := by
      refine (Json.plus_int _ _).trans (congrArg (Except.ok ∘ Json.ofInt) ?_)
      rw [succ_choose_two, tileSize]
      push_cast
      ring
    have hy : Json.plus (.ofInt (rowStep * tileSize : Nat))
        (.ofInt (y + 32 * (rowStep * step : Nat))) =
        .ok (.ofInt (y + 32 * (rowStep * (step + 1) : Nat))) := by
      refine (Json.plus_int _ _).trans (congrArg (Except.ok ∘ Json.ofInt) ?_)
      rw [tileSize]
      push_cast
      ring
    rw [walkRow, hx, ok_bind, hy, ok_bind, ih, ← Nat.add_assoc, Nat.add_right_comm]
    change _ = anySolid isSolid (_ :: rowPoints rowStep left (step + 1) x y) >>= _
    rw [anySolid_cons]
    cases isSolid (.ofInt (x + 32 * (step + 1).choose 2))
      (.ofInt (y + 32 * (rowStep * (step + 1) : Nat))) with
    | error fault => rfl
    | ok solid => cases solid <;> rfl

lemma anySolid_append (ps qs : List (Int × Int)) :
    anySolid isSolid (ps ++ qs) = (do
      if ← anySolid isSolid ps then return true
      anySolid isSolid qs) := by
  induction ps with
  | nil => rfl
  | cons p ps ih =>
    rw [List.cons_append, anySolid_cons, anySolid_cons]
    cases isSolid (.ofInt p.1) (.ofInt p.2) with
    | error fault => rfl
    | ok solid => cases solid <;> [exact ih; rfl]

lemma walk_eq (columns left rowStep : Nat) (x y : Int) :
    walk isSolid columns left rowStep (.ofInt (x + 32 * (rowStep * columns.choose 2 : Nat)))
      (.ofInt (y + 32 * (columns * rowStep.choose 2 : Nat))) = (do
        if ← anySolid isSolid (walkPoints columns left rowStep x y) then return none
        return some (.ofInt (x + 32 * ((rowStep + left) * columns.choose 2 : Nat)),
          .ofInt (y + 32 * (columns * (rowStep + left).choose 2 : Nat)))) := by
  induction left generalizing rowStep with
  | zero => rfl
  | succ left ih =>
    have hrow := walkRow_eq isSolid rowStep columns 0
      (x + 32 * (rowStep * columns.choose 2 : Nat)) (y + 32 * (columns * rowStep.choose 2 : Nat))
    have hx : x + 32 * (rowStep * columns.choose 2 : Nat) + 32 * (0 + columns).choose 2 =
        x + 32 * ((rowStep + 1) * columns.choose 2 : Nat) := by
      push_cast
      rw [Nat.zero_add]
      ring
    have hy : y + 32 * (columns * rowStep.choose 2 : Nat) + 32 * (rowStep * (0 + columns) : Nat) =
        y + 32 * (columns * (rowStep + 1).choose 2 : Nat) := by
      rw [succ_choose_two]
      push_cast
      ring
    simp only [Nat.choose_zero_succ, Nat.cast_zero, mul_zero, add_zero, hx, hy] at hrow
    change _ = anySolid isSolid (_ ++ walkPoints columns left (rowStep + 1) x y) >>= _
    rw [walk, hrow, anySolid_append, ← Nat.add_assoc, Nat.add_right_comm]
    cases anySolid isSolid (rowPoints rowStep columns 0
        (x + 32 * (rowStep * columns.choose 2 : Nat))
        (y + 32 * (columns * rowStep.choose 2 : Nat))) with
    | error fault => rfl
    | ok solid => cases solid <;> [exact ih (rowStep + 1); rfl]

def tilesFor (length : Int) : Except Fault Int := do
  (← Scalar.div (.int length) tileSize).ceil

/-- The points of a rectangle that are looked at: a walk through it, and then its corners as seen
from where the walk ended. -/
def lookedAt (columns rows : Nat) (x y w h : Int) : List (Int × Int) :=
  let left := x + 32 * (rows * columns.choose 2 : Nat)
  let top := y + 32 * (columns * rows.choose 2 : Nat)
  walkPoints columns rows 0 x y ++ [(left + w, top), (left, top + h), (left + w, top + h)]

lemma touches_eq : touches isSolid (.ofInt x) (.ofInt y) (.ofInt w) (.ofInt h) = (do
    let columns ← tilesFor w
    let rows ← tilesFor h
    anySolid isSolid (lookedAt columns.toNat rows.toNat x y w h)) := by
  have hint (i : Int) : (Json.ofInt i).toScalar = .ok (.int i) := rfl
  simp only [touches, tilesFor, hint, ok_bind, bind_assoc, lookedAt, anySolid_append]
  refine bind_congr fun q => bind_congr fun columns => bind_congr fun q' => bind_congr fun rows => ?_
  have hwalk := walk_eq isSolid columns.toNat rows.toNat 0 x y
  simp only [Nat.zero_mul, Nat.choose_zero_succ, Nat.cast_zero, mul_zero, add_zero,
    Nat.zero_add] at hwalk
  rw [hwalk]
  cases anySolid isSolid (walkPoints columns.toNat rows.toNat 0 x y) with
  | error fault => rfl
  | ok solid =>
    cases solid with
    | true => rfl
    | false =>
      have hplus (i j : Int) : Json.plus (.ofInt i) (.ofInt j) = .ok (.ofInt (i + j)) := rfl
      simp only [ok_bind, pure, Except.pure, Bool.false_eq_true, if_false, hplus, anySolid_cons]
      refine bind_congr fun solid => ?_
      cases solid with
      | true => rfl
      | false =>
        refine bind_congr fun solid => ?_
        cases solid with
        | true => rfl
        | false => exact (bind_pure _).symm.trans (bind_congr fun solid => by cases solid <;> rfl)

lemma anySolid_iff (solid : Int × Int → Prop) (ps : List (Int × Int))
    (hps : ∀ p ∈ ps, ∃ b, isSolid (.ofInt p.1) (.ofInt p.2) = .ok b ∧ (b = true ↔ solid p)) :
    ∃ b, anySolid isSolid ps = .ok b ∧ (b = true ↔ ∃ p ∈ ps, solid p) := by
  induction ps with
  | nil => exact ⟨false, rfl, by simp⟩
  | cons p ps ih =>
    obtain ⟨⟨b, hb, hsol⟩, hrest⟩ := List.forall_mem_cons.1 hps
    rw [anySolid_cons, hb, ok_bind]
    cases b with
    | true => exact ⟨true, rfl, by simp [← hsol]⟩
    | false =>
      obtain ⟨b, hb, hiff⟩ := ih hrest
      refine ⟨b, hb, hiff.trans ?_⟩
      simp [← hsol]

lemma tilesFor_eq (hw : w.natAbs < 2 ^ 53) : tilesFor w = .ok ((w + 31) / 32) := by
  obtain ⟨c, hc, hceil⟩ := exists_ceil hw
  rw [tilesFor, hc, ok_bind, hceil]

/-! ## The tiles touched -/

def Blocked (m : TileMap) (column row : Int) : Prop :=
  m.tile? column row = none ∨ ∃ tile kind, m.tile? column row = some tile ∧
    TileKind.ofTile tile = .ok kind ∧ kind.isSolid = true

lemma IsValid.pointIsSolid_iff (hm : m.IsValid) (hx : 0 ≤ x) (hx' : x < 2 ^ 53) (hy : 0 ≤ y)
    (hy' : y < 2 ^ 53) :
    ∃ b, m.pointIsSolid (.ofInt x) (.ofInt y) = .ok b ∧ (b = true ↔ m.Blocked (x / 32) (y / 32)) := by
  rw [pointIsSolid_ofInt (by omega) (by omega), Int.tdiv_eq_ediv_of_nonneg hx,
    Int.tdiv_eq_ediv_of_nonneg hy, Blocked]
  cases htile : m.tile? (x / 32) (y / 32) with
  | none => exact ⟨true, rfl, by simp⟩
  | some tile =>
    obtain ⟨tiles, hts, hmem⟩ := mem_of_tile? htile
    obtain ⟨kind, hk⟩ := hm tiles hts tile hmem
    exact ⟨kind.isSolid, by simp only [hk]; rfl, by simp [hk]⟩

def Touched (x y w h column row : Int) : Prop :=
  x / 32 ≤ column ∧ column ≤ (x + w) / 32 ∧ y / 32 ≤ row ∧ row ≤ (y + h) / 32

/-- The rectangle is reported solid just if it touches a solid tile or goes beyond the rows. -/
def Tells (m : TileMap) (x y w h : Int) : Prop :=
  ∃ b, m.rectIsSolid (.ofInt x) (.ofInt y) (.ofInt w) (.ofInt h) = .ok b ∧
    (b = true ↔ ∃ column row, Touched x y w h column row ∧ m.Blocked column row)

lemma le_of_mem_lookedAt {columns rows : Nat} (hw : 0 ≤ w) (hh : 0 ≤ h) {p : Int × Int}
    (hp : p ∈ lookedAt columns rows x y w h) :
    (x ≤ p.1 ∧ p.1 ≤ x + 32 * (rows * columns.choose 2 : Nat) + w) ∧
      y ≤ p.2 ∧ p.2 ≤ y + 32 * (columns * rows.choose 2 : Nat) + h := by
  simp only [lookedAt, walkPoints, rowPoints, List.mem_append, List.mem_flatMap, List.mem_map,
    List.mem_range'_1, List.mem_cons, List.not_mem_nil, or_false, Nat.zero_le, true_and,
    Nat.zero_add] at hp
  rcases hp with ⟨i, hi, j, hj, rfl⟩ | rfl | rfl | rfl
  · have hx : i * columns.choose 2 + (j + 1).choose 2 ≤ rows * columns.choose 2 := calc
      _ ≤ i * columns.choose 2 + columns.choose 2 :=
        Nat.add_le_add_left (Nat.choose_le_choose 2 hj) _
      _ = (i + 1) * columns.choose 2 := (Nat.succ_mul _ _).symm
      _ ≤ _ := Nat.mul_le_mul_right _ hi
    have hy : columns * i.choose 2 + i * (j + 1) ≤ columns * rows.choose 2 := calc
      _ ≤ columns * i.choose 2 + i * columns := Nat.add_le_add_left (Nat.mul_le_mul_left _ hj) _
      _ = columns * (i + 1).choose 2 := by rw [succ_choose_two]; ring
      _ ≤ _ := Nat.mul_le_mul_left _ (Nat.choose_le_choose 2 hi)
    dsimp only
    omega
  all_goals dsimp only; omega

/-- As long as the coordinates are exact, the answer is right exactly if there is a solid tile under
one of the points looked at just when there is one under the rectangle. -/
lemma IsValid.tells_iff (hm : m.IsValid) (columns rows : Nat) (hx : 0 ≤ x) (hy : 0 ≤ y)
    (hw : 0 < w) (hh : 0 < h) (hcolumns : columns = (w + 31) / 32) (hrows : rows = (h + 31) / 32)
    (hleft : x + 32 * (rows * columns.choose 2 : Nat) + w < 2 ^ 53)
    (htop : y + 32 * (columns * rows.choose 2 : Nat) + h < 2 ^ 53) :
    m.Tells x y w h ↔
      ((∃ p ∈ lookedAt columns rows x y w h, m.Blocked (p.1 / 32) (p.2 / 32)) ↔
        ∃ column row, Touched x y w h column row ∧ m.Blocked column row) := by
  obtain ⟨b, hb, hiff⟩ := anySolid_iff m.pointIsSolid
    (fun p => m.Blocked (p.1 / 32) (p.2 / 32)) (lookedAt columns rows x y w h) fun p hp => by
      have hbounds := le_of_mem_lookedAt hw.le hh.le hp
      exact hm.pointIsSolid_iff (by omega) (by omega) (by omega) (by omega)
  have hrect : m.rectIsSolid (.ofInt x) (.ofInt y) (.ofInt w) (.ofInt h) = .ok b := by
    rw [TileMap.rectIsSolid, touches_eq, tilesFor_eq (by omega), ok_bind, tilesFor_eq (by omega),
      ok_bind, ← hcolumns, ← hrows]
    exact hb
  rw [← hiff]
  constructor
  · rintro ⟨b', hb', h⟩
    cases hrect.symm.trans hb'
    exact h
  · exact fun h => ⟨b, hrect, h⟩

/-- A rectangle that is no larger than a tile is reported solid just if it touches a solid tile or
goes beyond the rows. -/
theorem IsValid.tells_of_small (hm : m.IsValid) (hx : 0 ≤ x) (hx' : x < 2 ^ 50) (hy : 0 ≤ y)
    (hy' : y < 2 ^ 50) (hw : 1 ≤ w) (hw' : w ≤ 32) (hh : 1 ≤ h) (hh' : h ≤ 32) : m.Tells x y w h := by
  rw [hm.tells_iff 1 1 hx hy (by omega) (by omega) (by omega) (by omega)
    (by simp; omega) (by simp; omega)]
  have hlooked : lookedAt 1 1 x y w h = [(x, y), (x + w, y), (x, y + h), (x + w, y + h)] := by
    simp [lookedAt, walkPoints, rowPoints]
  rw [hlooked]
  constructor
  · rintro ⟨p, hp, hblocked⟩
    refine ⟨_, _, ?_, hblocked⟩
    simp only [List.mem_cons, List.not_mem_nil, or_false] at hp
    rcases hp with rfl | rfl | rfl | rfl <;> simp only [Touched] <;> omega
  · rintro ⟨column, row, ⟨hleft, hright, htop, hbottom⟩, hblocked⟩
    -- A stretch of at most one tile has an end in each tile that it touches.
    have hcolumn : column = x / 32 ∨ column = (x + w) / 32 := by omega
    have hrow : row = y / 32 ∨ row = (y + h) / 32 := by omega
    rcases hcolumn with rfl | rfl <;> rcases hrow with rfl | rfl <;>
      simp only [List.exists_mem_cons_iff, hblocked, true_or, or_true]

/-- Ground of grass alone. -/
def meadow (width height : Nat) : TileMap :=
  { rows := List.replicate height (List.replicate width (.ofInt 1)) }

lemma meadow_isValid (width height : Nat) : (meadow width height).IsValid := by
  intro row hrow tile htile
  rw [List.eq_of_mem_replicate hrow] at htile
  rw [List.eq_of_mem_replicate htile]
  exact ⟨_, rfl⟩

theorem tells_of_small_meadow : (meadow 1 2).IsValid ∧ (meadow 1 2).Tells 5 9 26 32 :=
  ⟨meadow_isValid 1 2, (meadow_isValid 1 2).tells_of_small (by decide) (by decide) (by decide)
    (by decide) (by decide) (by decide) (by decide) (by decide)⟩

/-! ## Rectangles larger than a tile -/

lemma tile?_meadow {width height : Nat} {column row : Int} :
    (meadow width height).tile? column row =
      if 0 ≤ column ∧ column < width ∧ 0 ≤ row ∧ row < height then some (.ofInt 1) else none := by
  simp only [tile?, meadow, List.getElem?_replicate]
  grind

section Large

variable (columns rows : Nat) (hx : 0 ≤ x) (hy : 0 ≤ y) (hw : 0 < w) (hh : 0 < h)
variable (hlarge : 32 < w ∨ 32 < h) (hcolumns : columns = (w + 31) / 32)
variable (hrows : rows = (h + 31) / 32)
variable (hleft : x + 32 * (rows * columns.choose 2 : Nat) + w < 2 ^ 53)
variable (htop : y + 32 * (columns * rows.choose 2 : Nat) + h < 2 ^ 53)
include hx hy hw hh hlarge hcolumns hrows hleft htop

/-- A rectangle that is larger than a tile is misjudged on a meadow that it just fits on: the last
corner looked at is outside. -/
lemma not_tells_meadow :
    ¬ (meadow ((x + w) / 32 + 1).toNat ((y + h) / 32 + 1).toNat).Tells x y w h := by
  rw [(meadow_isValid _ _).tells_iff columns rows hx hy hw hh hcolumns hrows hleft htop]
  intro hiff
  have hfar : 1 ≤ rows * columns.choose 2 ∨ 1 ≤ columns * rows.choose 2 :=
    hlarge.imp (fun _ => Nat.mul_pos (by omega) (Nat.choose_pos (by omega)))
      fun _ => Nat.mul_pos (by omega) (Nat.choose_pos (by omega))
  have houtside : (meadow ((x + w) / 32 + 1).toNat ((y + h) / 32 + 1).toNat).tile?
      ((x + 32 * (rows * columns.choose 2 : Nat) + w) / 32)
      ((y + 32 * (columns * rows.choose 2 : Nat) + h) / 32) = none := by
    rw [tile?_meadow, if_neg (by omega)]
  obtain ⟨column, row, ⟨hcol, hcol', hrow, hrow'⟩, hblocked⟩ :=
    hiff.1 ⟨_, List.mem_append_right _ (.tail _ (.tail _ (.head _))), .inl houtside⟩
  rw [Blocked, tile?_meadow, if_pos (by omega)] at hblocked
  rcases hblocked with h | ⟨tile, kind, htile, hk, hsol⟩
  · cases h
  · cases htile
    cases hk
    cases hsol

/-- No rectangle that is larger than a tile is judged rightly on all maps. On a given map it is
just if a point that is looked at is on a solid tile whenever the rectangle touches one, and only
then. -/
theorem large_tells_iff :
    (∃ m : TileMap, m.IsValid ∧ ¬ m.Tells x y w h) ∧
    ∀ m : TileMap, m.IsValid → (m.Tells x y w h ↔
      ((∃ p ∈ lookedAt columns rows x y w h, m.Blocked (p.1 / 32) (p.2 / 32)) ↔
        ∃ column row, Touched x y w h column row ∧ m.Blocked column row)) :=
  ⟨⟨_, meadow_isValid _ _, not_tells_meadow columns rows hx hy hw hh hlarge hcolumns hrows hleft htop⟩,
    fun _ hm => hm.tells_iff columns rows hx hy hw hh hcolumns hrows hleft htop⟩

end Large

theorem large_tells_iff_three_tiles : ∃ m : TileMap, m.IsValid ∧ ¬ m.Tells 0 0 96 1 :=
  (large_tells_iff 3 1 (by decide) (by decide) (by decide) (by decide)
    (.inl (by decide)) (by decide) (by decide) (by decide) (by decide)).1

def creek : TileMap := { rows := [[0, 0, 2, 0, 0, 0, 0]] }

/-- Three tiles of width are looked at in the first, the second, the fourth and the seventh column,
so the water is missed. -/
theorem not_tells_creek : creek.IsValid ∧ ¬ creek.Tells 0 0 96 1 := by
  have hvalid : ∀ row ∈ creek.rows, ∀ tile ∈ row, (TileKind.ofTile tile).toOption.isSome := by
    decide +kernel
  refine ⟨fun row hrow tile htile => ?_, ?_⟩
  · have h := hvalid row hrow tile htile
    cases hkind : TileKind.ofTile tile with
    | error => rw [hkind] at h; cases h
    | ok kind => exact ⟨kind, rfl⟩
  · rintro ⟨b, hb, hiff⟩
    have hrect : (creek.rectIsSolid (.ofInt 0) (.ofInt 0) (.ofInt 96) (.ofInt 1)).toOption =
        some false := by decide +kernel
    rw [hb] at hrect
    cases hrect
    exact Bool.false_ne_true (hiff.2 ⟨2, 0, by simp [Touched], .inr ⟨_, _, rfl, rfl, rfl⟩⟩)

end TileMap

end TileQuest
