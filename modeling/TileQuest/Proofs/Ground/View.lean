import Mathlib.Data.List.Nodup
import Mathlib.Data.List.ProdSigma
import TileQuest.Proofs.Ground.Edges

/-!
# The ground in view

The tiles in view are drawn column by column and row by row between bounds that are clipped to the
ground. The upper bounds are clipped one too far: nothing in the last column or the last row is ever
drawn. So everything in view is drawn exactly if the view ends before both (`TileMap.draw_complete_iff`).
-/

namespace TileQuest

variable {m : TileMap} {camera : Rect} {width : Nat} {c r : Int}

namespace TileMap

/-- There is ground, all rows of it are equally wide, and all tiles are of some kind. -/
structure IsGrid (m : TileMap) (width : Nat) : Prop where
  wide : 0 < width
  high : m.rows ≠ []
  even : ∀ row ∈ m.rows, row.length = width
  valid : m.IsValid

/-- The column or row is one that the camera sees, given where its view begins and how long it is. -/
def InView (first length i : Int) : Prop := max first (32 * i) < min (first + length) (32 * i + 32)

/-- The tile is there, and the camera sees some of it. -/
def IsSeen (m : TileMap) (camera : Rect) (c r : Int) : Prop :=
  (m.tile? c r).isSome ∧ InView camera.x camera.w c ∧ InView camera.y camera.h r

def imageAt (m : TileMap) (c r : Int) : String :=
  (((m.tile? c r).bind fun tile => (TileKind.ofTile tile).toOption).map (·.image)).getD ""

def blit (m : TileMap) (camera : Rect) (c r : Int) : Draw :=
  .blit screen (m.imageAt c r) (.ofInt (c * 32 - camera.x)) (.ofInt (r * 32 - camera.y)) none

lemma blit_inj {c' r' : Int} (h : m.blit camera c r = m.blit camera c' r') : c = c' ∧ r = r' := by
  simp only [blit, Draw.blit.injEq, Json.ofInt, Json.num.injEq, Scalar.int.injEq] at h
  omega

lemma mapM_eq_map {α β : Type} {f : α → Except Fault β} {g : α → β} {xs : List α}
    (h : ∀ x ∈ xs, f x = .ok (g x)) : xs.mapM f = .ok (xs.map g) := by
  induction xs with
  | nil => rfl
  | cons x xs ih =>
    rw [List.mapM_cons, h x (.head _), ih fun y hy => h y (.tail _ hy)]
    rfl

lemma mem_span {first last i : Int} : i ∈ span first last ↔ first ≤ i ∧ i < last := by
  simp only [span, List.mem_map, List.mem_range]
  constructor
  · rintro ⟨k, hk, rfl⟩
    omega
  · rintro ⟨hle, hlt⟩
    exact ⟨(i - first).toNat, by omega, by omega⟩

lemma nodup_span (first last : Int) : (span first last).Nodup :=
  List.nodup_range.map fun _ _ h => by simpa using h

/-- The columns or rows that are drawn, given where the view begins, how long it is and how many
there are. -/
def drawnSpan (first length : Int) (count : Nat) : List Int :=
  let last := (first + length).tdiv 32 + 1
  span (max 0 (first.tdiv 32)) (if last < count then last else count - 1)

lemma mem_drawnSpan {first length i : Int} {count : Nat} (hv : InView first length i) (hi : 0 ≤ i)
    (hcnt : i < count) : i ∈ drawnSpan first length count ↔ i + 1 < count := by
  simp only [InView] at hv
  simp only [drawnSpan, mem_span, tdiv_eq_ite]
  omega

lemma lt_of_mem_drawnSpan {first length i : Int} {count : Nat}
    (hi : i ∈ drawnSpan first length count) : 0 ≤ i ∧ i < count := by
  simp only [drawnSpan, mem_span] at hi
  omega

section

variable (h : m.IsGrid width)
include h

lemma exists_tile? (hc : 0 ≤ c ∧ c < width) (hr : 0 ≤ r ∧ r < m.rows.length) :
    ∃ tiles tile kind, entry m.rows r = .ok tiles ∧ tiles[c.toNat]? = some tile ∧
      m.tile? c r = some tile ∧ TileKind.ofTile tile = .ok kind := by
  obtain ⟨column, rfl⟩ := Int.eq_ofNat_of_zero_le hc.1
  obtain ⟨row, rfl⟩ := Int.eq_ofNat_of_zero_le hr.1
  have hrow : row < m.rows.length := by omega
  have hmem := List.getElem_mem hrow
  have hcol : column < m.rows[row].length := by rw [h.even _ hmem]; omega
  obtain ⟨kind, hk⟩ := h.valid _ hmem _ (List.getElem_mem hcol)
  have hts := List.getElem?_eq_getElem hrow
  refine ⟨_, _, kind, by rw [entry_natCast, hts], List.getElem?_eq_getElem hcol, ?_, hk⟩
  simp [tile?, hts, hcol]

lemma isSome_tile?_iff : (m.tile? c r).isSome ↔
    (0 ≤ c ∧ c < width) ∧ 0 ≤ r ∧ r < m.rows.length := by
  constructor
  · intro hsome
    unfold tile? at hsome
    split at hsome
    · cases hsome
    · obtain ⟨tile, htile⟩ := Option.isSome_iff_exists.1 hsome
      obtain ⟨tiles, hts, htile⟩ := Option.bind_eq_some_iff.1 htile
      obtain ⟨hrow, rfl⟩ := List.getElem?_eq_some_iff.1 hts
      obtain ⟨hcol, -⟩ := List.getElem?_eq_some_iff.1 htile
      rw [h.even _ (List.getElem_mem hrow)] at hcol
      omega
  · rintro ⟨hc, hr⟩
    obtain ⟨-, tile, -, -, -, htile, -⟩ := exists_tile? h hc hr
    rw [htile]
    rfl

variable (hx : camera.x.natAbs < 2 ^ 53) (hw : (camera.x + camera.w).natAbs < 2 ^ 53)
variable (hy : camera.y.natAbs < 2 ^ 53) (hh : (camera.y + camera.h).natAbs < 2 ^ 53)
include hx hw hy hh

lemma draw_eq : m.draw camera = .ok ((drawnSpan camera.y camera.h m.rows.length).flatMap fun r =>
    (drawnSpan camera.x camera.w width).map fun c => m.blit camera c r) := by
  obtain ⟨first, rest, hrs⟩ := List.exists_cons_of_ne_nil h.high
  have hwd : entry m.rows 0 = .ok first := by simpa [hrs] using entry_natCast m.rows 0
  rw [draw, drawTiles, cell_ofInt hx, cell_ofInt hy, cell_ofInt hw, cell_ofInt hh, hwd]
  have hfst : first.length = width := h.even first (by simp [hrs])
  simp only [ok_bind, pure_bind, hfst]
  rw [mapM_eq_map (g := fun r => (drawnSpan camera.x camera.w width).map fun c => m.blit camera c r)
    fun r hr => ?_]
  · rfl
  have hr := lt_of_mem_drawnSpan hr
  obtain ⟨tiles, -, -, hts, -⟩ := exists_tile? h (c := 0) (by simpa using h.wide) hr
  rw [tilesIn, hts, ok_bind, pure_bind]
  refine mapM_eq_map fun c hc => ?_
  obtain ⟨tiles', tile, kind, hts', hcol, htile, hk⟩ :=
    exists_tile? h (lt_of_mem_drawnSpan hc) hr
  cases hts.symm.trans hts'
  simp only [List.getElem?_toArray, hcol, hk, ok_bind, blit, imageAt, htile, Option.bind_some]
  rfl

/-- Every tile in view is drawn once, in its place. -/
def ShowsAll (m : TileMap) (camera : Rect) (draws : List Draw) : Prop :=
  ∀ c r, m.IsSeen camera c r → draws.count (m.blit camera c r) = 1

theorem draw_complete_iff : ∃ draws, m.draw camera = .ok draws ∧
      (m.ShowsAll camera draws ↔ ∀ c r, m.IsSeen camera c r → c + 1 < width ∧ r + 1 < m.rows.length) := by
  refine ⟨_, draw_eq h hx hw hy hh, forall₂_congr fun c r => imp_congr_right fun hseen => ?_⟩
  obtain ⟨hthere, hc, hr⟩ := hseen
  rw [isSome_tile?_iff h] at hthere
  rw [List.Nodup.count, ite_eq_left_iff]
  · rw [← mem_drawnSpan hc hthere.1.1 hthere.1.2, ← mem_drawnSpan hr hthere.2.1 hthere.2.2]
    simp only [List.mem_flatMap, List.mem_map, zero_ne_one, imp_false, not_not]
    constructor
    · rintro ⟨r', hr', c', hc', heq⟩
      obtain ⟨rfl, rfl⟩ := blit_inj heq
      exact ⟨hc', hr'⟩
    · rintro ⟨hc, hr⟩
      exact ⟨r, hr, c, hc, rfl⟩
  · refine List.nodup_flatMap.2 ⟨fun r _ => (nodup_span _ _).map fun _ _ heq => (blit_inj heq).1, ?_⟩
    refine (nodup_span _ _).imp fun hne d hd hd' => ?_
    obtain ⟨c, -, rfl⟩ := List.mem_map.1 hd
    obtain ⟨c', -, heq⟩ := List.mem_map.1 hd'
    exact hne (blit_inj heq).2.symm

end

/-- Two tiles of grass beside each other, over two more. -/
def patch : TileMap := { rows := [[1, 1], [1, 1]] }

lemma patch_isGrid : patch.IsGrid 2 := ⟨by decide, by simp [patch], by simp [patch], by
  rintro row hrow tile htile
  obtain rfl : tile = 1 := by simp_all [patch]
  exact ⟨_, rfl⟩⟩

/-- A view of the upper left tile that goes up to the others shows all that it should. -/
theorem draw_complete_iff_patch : ∃ draws, patch.draw { w := 32, h := 32 } = .ok draws ∧
    patch.ShowsAll { w := 32, h := 32 } draws := by
  have hx : ({ w := 32, h := 32 } : Rect).x.natAbs < 2 ^ 53 := by decide
  obtain ⟨draws, hdraw, hiff⟩ :=
    draw_complete_iff patch_isGrid hx (by decide) (by decide) (by decide)
  refine ⟨draws, hdraw, hiff.2 fun c r hseen => ?_⟩
  obtain ⟨-, hc, hr⟩ := hseen
  simp only [InView, patch, List.length_cons, List.length_nil] at hc hr ⊢
  omega

/-- One pixel more, and a tile that comes into view is not drawn. -/
theorem draw_misses_patch : patch.IsGrid 2 ∧ patch.IsSeen { w := 33, h := 32 } 1 0 ∧
    ∃ draws, patch.draw { w := 33, h := 32 } = .ok draws ∧
      draws.count (patch.blit { w := 33, h := 32 } 1 0) = 0 :=
  ⟨patch_isGrid, ⟨rfl, by simp [InView], by simp [InView]⟩, [.blit screen "grass.png" 0 0 none],
    by decide +kernel, by decide +kernel⟩

end TileMap

end TileQuest
