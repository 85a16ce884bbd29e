import TileQuest.Proofs.Ground.Edges
import TileQuest.Stage.Editing

/-!
# Painting the ground

The brush of the editor writes tile after tile, and each write is clipped on its own. Together they
fill a square of tiles as far as it lies on the ground, and nothing else (`World.placeTile_fills`).
-/

namespace TileQuest

variable {m : TileMap} {x y : Int} {tile : Json}

/-! ## Filling tiles -/

namespace TileMap

variable {P Q : Nat → Nat → Bool}

/-- The map with another tile in all columns and rows that pass a test. -/
def fill (m : TileMap) (P : Nat → Nat → Bool) (tile : Json) : TileMap :=
  { rows := m.rows.mapIdx fun r tiles => tiles.mapIdx fun c t => if P c r then tile else t }

lemma fill_false : m.fill (fun _ _ => false) tile = m := by
  simp [fill, List.mapIdx_eq_zipIdx_map]

lemma fill_fill : (m.fill P tile).fill Q tile = m.fill (fun c r => P c r || Q c r) tile := by
  simp only [fill, List.mapIdx_mapIdx, Function.comp_def, mk.injEq]
  grind

lemma setTile_eq_fill (hx : 0 ≤ x ∧ x < 2 ^ 53) (hy : 0 ≤ y ∧ y < 2 ^ 53) :
    m.setTile (.ofInt x) (.ofInt y) tile =
      .ok (m.fill (fun c r => c = x / 32 && r = y / 32) tile) := by
  rw [setTile_ofInt tile (by omega) (by omega), Int.tdiv_eq_ediv_of_nonneg hx.1,
    Int.tdiv_eq_ediv_of_nonneg hy.1]
  obtain ⟨column, hcol⟩ : ∃ column : Nat, x / 32 = column := ⟨(x / 32).toNat, by omega⟩
  obtain ⟨row, hrow⟩ : ∃ row : Nat, y / 32 = row := ⟨(y / 32).toNat, by omega⟩
  have hread : m.tile? column row = m.rows[row]?.bind fun tiles => tiles[column]? := by simp [tile?]
  rw [hcol, hrow, hread]
  rcases m with ⟨rows⟩
  simp only [fill, withTile, Int.toNat_natCast]
  cases h : rows[row]?.bind fun tiles => tiles[column]? with
  | none =>
    refine congrArg (Except.ok ∘ mk) (List.ext_getElem? fun r => ?_)
    rw [List.getElem?_mapIdx]
    cases hr : rows[r]? with
    | none => rfl
    | some tiles => exact congrArg some (List.ext_getElem? fun c => by grind)
  | some t =>
    refine congrArg (Except.ok ∘ mk) (List.ext_getElem? fun r => ?_)
    rw [List.getElem?_mapIdx, List.getElem?_modify]
    exact congrArg (Option.map · _) (funext fun tiles => List.ext_getElem? fun c => by grind)

lemma foldlM_fill {f : TileMap → Nat → Except Fault TileMap} {P : Nat → Nat → Nat → Bool} (n : Nat)
    (hf : ∀ m, ∀ k < n, f m k = .ok (m.fill (P k) tile)) :
    (List.range n).foldlM f m = .ok (m.fill (fun c r => (List.range n).any (P · c r)) tile) := by
  induction n with
  | zero => exact congrArg Except.ok fill_false.symm
  | succ n ih =>
    rw [List.range_succ, List.foldlM_append, ih fun m k hk => hf m k (by omega), ok_bind,
      List.foldlM_cons, hf _ n (by omega), ok_bind, fill_fill]
    simp only [List.any_append, List.any_cons, List.any_nil, Bool.or_false]
    rfl

end TileMap

/-! ## The brush -/

/-- The tile is in the square that a brush covers from a point on. -/
def underBrush (x y size : Int) (c r : Nat) : Bool :=
  (x / 32 ≤ c ∧ c < x / 32 + size) ∧ y / 32 ≤ r ∧ r < y / 32 + size

lemma paintTiles_eq_fill {size : Nat} (hx : 0 ≤ x ∧ x < 2 ^ 50) (hy : 0 ≤ y ∧ y < 2 ^ 50)
    (hsize : size < 2 ^ 40) : Game.paintTiles m (.ofInt x) (.ofInt y) size tile =
      .ok (m.fill (underBrush x y size) tile) := by
  have hpoint (m : TileMap) (down across : Nat) (hdown : down < size) (hacr : across < size) :
      m.setTile (.ofInt (x + (across * 32 : Nat))) (.ofInt (y + (down * 32 : Nat))) tile =
        .ok (m.fill (fun c r => c = x / 32 + across && r = y / 32 + down) tile) := by
    rw [TileMap.setTile_eq_fill (by omega) (by omega)]
    congr! 6 <;> push_cast <;> omega
  refine (TileMap.foldlM_fill size fun m down hdown => TileMap.foldlM_fill size fun m across hacr =>
    hpoint m down across hdown hacr).trans ?_
  refine congrArg (fun P => Except.ok (m.fill P tile)) (funext fun c => funext fun r => ?_)
  rw [Bool.eq_iff_iff]
  simp only [List.any_eq_true, List.mem_range, Bool.and_eq_true, decide_eq_true_eq, underBrush]
  constructor
  · rintro ⟨down, hdown, across, hacr, hc, hr⟩
    omega
  · rintro ⟨hc, hr⟩
    exact ⟨(r - y / 32).toNat, by omega, (c - x / 32).toNat, by omega, by omega, by omega⟩

namespace Game

variable {α β : Type} {w : World}

/-- The step changes nothing, and gives what is looked for or breaks off if it is not there. -/
def Reads (g : Game α) (w : World) (a? : Option α) : Prop :=
  ∃ r, g.runOn w = (r, w) ∧ r.toOption = a?

lemma Reads.bind {g : Game α} {f : α → Game β} {a? : Option α} {b? : α → Option β}
    (hg : Reads g w a?) (hf : ∀ a, Reads (f a) w (b? a)) : Reads (g >>= f) w (a?.bind b?) := by
  obtain ⟨r, hrun, rfl⟩ := hg
  cases r with
  | error fault => exact ⟨.error fault, by rw [run_bind, hrun], rfl⟩
  | ok a =>
    obtain ⟨r, hrest, hr⟩ := hf a
    exact ⟨r, (bind_ok hrun).trans hrest, hr⟩

lemma Reads.snd_bind {g : Game α} {f : α → Game β} {a? : Option α} (hg : Reads g w a?) :
    ((g >>= f).runOn w).2 = a?.elim w fun a => ((f a).runOn w).2 := by
  obtain ⟨r, hrun, rfl⟩ := hg
  cases r with
  | error fault => rw [run_bind, hrun]; rfl
  | ok a => rw [bind_ok hrun]; rfl

lemma reads_orAbsent (a? : Option α) : Reads (orAbsent a?) w a? := by
  cases a? with
  | none => exact ⟨.error .absent, rfl, rfl⟩
  | some a => exact ⟨.ok a, rfl, rfl⟩

lemma reads_lift (x : Except Fault α) : Reads (liftM x) w x.toOption := ⟨x, rfl, rfl⟩

end Game

namespace World

variable {w : World}

/-- How many tiles the brush is wide, if there is a brush and its text is a whole number. -/
def brushSize? (w : World) : Option Int :=
  w.editor.brush?.bind fun p => (w.parts[p.index]?.bind (·.part.label?)).bind (·.text.toInt.toOption)

def groundId? (w : World) : Option GroundId :=
  w.area?.bind fun a => w.areas[a.index]?.bind (·.ground?)

/-- All grounds after a stroke of the brush at a point of the world. -/
def brushed (w : World) (x y : Int) : Array TileMap :=
  match w.brushSize?, w.groundId? with
  | some size, some g => w.grounds.modify g.index (·.fill (underBrush x y size) w.editor.tile)
  | _, _ => w.grounds

open Game

lemma reads_label (p : PartId) : Reads (label p) w (w.parts[p.index]?.bind (·.part.label?)) := by
  rw [label, part, bind_assoc]
  exact Reads.bind (reads_orAbsent _) fun o => reads_orAbsent o.part.label?

lemma reads_currentGround : Reads currentGround w w.groundId? :=
  (reads_orAbsent _).bind fun _ => Reads.bind (reads_orAbsent _) fun _ => reads_orAbsent _

lemma snd_run_brushTiles (hx : 0 ≤ x ∧ x < 2 ^ 50) (hy : 0 ≤ y ∧ y < 2 ^ 50)
    (hsize : ∀ size ∈ w.brushSize?, size < 2 ^ 40) :
    ((brushTiles (.ofInt x) (.ofInt y)).runOn w).2 = { w with grounds := w.brushed x y } := by
  have hbrush : Reads (orAbsent w.editor.brush? >>= fun p => label p >>= fun l => l.text.toInt) w
      w.brushSize? :=
    (reads_orAbsent _).bind fun p => (reads_label p).bind fun _ => reads_lift _
  have hgr (g : GroundId) : Reads (ground g) w w.grounds[g.index]? := reads_orAbsent _
  rw [brushTiles, run_get_bind]
  simp only [← bind_assoc] at hbrush ⊢
  rw [hbrush.snd_bind, brushed]
  cases hread : w.brushSize? with
  | none => rfl
  | some size =>
    have hlt : size < 2 ^ 40 := hsize size hread
    have hpaint (m : TileMap) (hpos : 0 < size) : paintTiles m (.ofInt x) (.ofInt y) size.toNat
        w.editor.tile = .ok (m.fill (underBrush x y size) w.editor.tile) := by
      rw [paintTiles_eq_fill hx hy (by omega), Int.toNat_of_nonneg hpos.le]
    rw [Option.elim_some]
    split
    · rw [reads_currentGround.snd_bind]
      cases w.groundId? with
      | none => rfl
      | some g =>
        rw [Option.elim_some, bind_assoc, (hgr g).snd_bind]
        cases hmap : w.grounds[g.index]? with
        | none =>
          refine congrArg (fun grounds => { w with grounds }) (Array.ext_getElem? fun i => ?_)
          grind
        | some m =>
          rw [Option.elim_some, run_lift_bind (hpaint m ‹_›)]
          refine congrArg (fun grounds => { w with grounds }) (Array.ext_getElem? fun i => ?_)
          grind
    · cases w.groundId? with
      | none => rfl
      | some g =>
        refine congrArg (fun grounds => { w with grounds }) ?_
        have hnone : underBrush x y size = fun _ _ => false := by
          funext c r
          simp only [underBrush, decide_eq_false_iff_not]
          omega
        simp only [hnone, TileMap.fill_false]
        grind

theorem placeTile_fills {mouseX mouseY : Int}
    (hx : 0 ≤ mouseX + w.camera.x ∧ mouseX + w.camera.x < 2 ^ 50)
    (hy : 0 ≤ mouseY + w.camera.y ∧ mouseY + w.camera.y < 2 ^ 50)
    (hsize : ∀ size ∈ w.brushSize?, size < 2 ^ 40) :
    ∃ log, (placeTile (.ofInt mouseX) (.ofInt mouseY)).runOn w = (.ok (), { w with
      log, grounds := w.brushed (mouseX + w.camera.x) (mouseY + w.camera.y) }) := by
  have hpoint : (worldPoint (.ofInt mouseX) (.ofInt mouseY)).runOn w =
    (.ok (.int (mouseX + w.camera.x), .int (mouseY + w.camera.y)), w) := rfl
  have hbrush := snd_run_brushTiles hx hy hsize
  rw [placeTile, bind_ok hpoint, run_tryCatch]
  rcases hrun : (brushTiles (.num (.int (mouseX + w.camera.x))) (.num (.int (mouseY + w.camera.y)))).runOn w with
    ⟨fault | _, u⟩
  all_goals
    cases (congrArg Prod.snd hrun).symm.trans hbrush
    exact ⟨_, rfl⟩

/-- A brush of two tiles, and ground whose second row is shorter than the first. -/
def studio : World where
  parts := #[{ part := .label { size? := none, text := .str "2", image := default } }]
  editor := { brush? := some ⟨0⟩, tile := 3 }
  areas := #[{ ground? := some ⟨0⟩ }]
  area? := some ⟨0⟩
  grounds := #[{ rows := [[1, 1, 1], [1]] }]

theorem placeTile_fills_studio : studio.brushSize? = some 2 ∧
    ∃ log, (placeTile (.ofInt 63) (.ofInt 0)).runOn studio =
      (.ok (), { studio with log, grounds := #[{ rows := [[1, 3, 3], [1]] }] }) := by
  have hgrounds : studio.brushed 63 0 = #[{ rows := [[1, 3, 3], [1]] }] := by decide +kernel
  have hsize : studio.brushSize? = some 2 := by decide +kernel
  refine ⟨hsize, ?_⟩
  rw [← hgrounds]
  exact placeTile_fills (by decide) (by decide) fun size h => by
    cases hsize.symm.trans h
    decide

end World

end TileQuest
