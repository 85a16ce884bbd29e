import TileQuest.Proofs.Maps.Crafting

/-!
# What an animation shows

An animation counts the updates and goes on to its next cell after so many of them. Both counters
wrap, at different numbers, and start again with another list of cells. After any run of updates and
new lists, both are known in closed form, and so is the cell that is shown
(`World.newAnimation_strolls`).
-/

namespace TileQuest

variable {w u : World} {id : PartId} {c : Int × Int} {m n : Int} {a : Animation}
variable {cells : List (Int × Int)} {f k : Nat}

/-- A list of cells, each with its column and row. -/
def cellList (cells : List (Int × Int)) : Json :=
  .arr (cells.map fun c => .arr [.ofInt c.1, .ofInt c.2])

lemma length_cellList (cells : List (Int × Int)) : (cellList cells).length = .ok cells.length :=
  congrArg Except.ok (List.length_map _)

namespace Animation

/-- The animation after so many updates since it started to walk through the cells. -/
def walked (cells : List (Int × Int)) (f k : Nat) : Animation where
  frames := cellList cells
  framesPerImage := .ofInt f
  current := k / f % cells.length
  ticks := k % f

lemma cell_walked (hc : cells[k / f % cells.length]? = some c) :
    (walked cells f k).cell = .ok (.ofInt c.1, .ofInt c.2) := by
  rw [cell, walked, cellList, Json.item, entry_natCast, List.getElem?_map, hc]
  rfl

lemma succ_div_mod (k : Nat) (hf : 0 < f) :
    if f ≤ k % f + 1 then (k + 1) / f = k / f + 1 ∧ (k + 1) % f = 0
    else (k + 1) / f = k / f ∧ (k + 1) % f = k % f + 1 := by
  have hk := Nat.div_add_mod k f
  have hlt := Nat.mod_lt k hf
  split
  · refine (Nat.div_mod_unique hf).2 ⟨?_, hf⟩
    rw [Nat.mul_add]
    omega
  · exact (Nat.div_mod_unique hf).2 ⟨by omega, by omega⟩

/-- A cell has been shown long enough exactly if the number of updates is a multiple of the updates
for each cell. -/
lemma isOver_tick_walked (cells : List (Int × Int)) (f k : Nat) :
    (walked cells f k).tick.isOver = .ok (decide (f ≤ k % f + 1)) := by
  have hle : (f : Int) ≤ (k % f + 1 : Nat) ↔ f ≤ k % f + 1 := by omega
  exact (Json.atMost_int _ _).trans (congrArg Except.ok (decide_eq_decide.2 hle))

lemma tick_walked (hf : 0 < f) (hk : ¬ f ≤ k % f + 1) :
    (walked cells f k).tick = walked cells f (k + 1) := by
  have hnext := succ_div_mod k hf
  rw [if_neg hk] at hnext
  rw [walked, walked, tick, hnext.1, hnext.2]

lemma next_tick_walked (hf : 0 < f) (hcs : cells ≠ []) (hk : f ≤ k % f + 1) :
    (walked cells f k).tick.next = .ok (walked cells f (k + 1)) := by
  have hnext := succ_div_mod k hf
  have hwrap := succ_div_mod (k / f) (List.length_pos_iff.2 hcs)
  rw [if_pos hk] at hnext
  have hcur : (if cells.length ≤ k / f % cells.length + 1 then 0
      else k / f % cells.length + 1) = (k / f + 1) % cells.length := by
    split at hwrap
    · rw [if_pos ‹_›, hwrap.2]
    · rw [if_neg ‹_›, hwrap.2]
  rw [walked, walked, tick, next, length_cellList, hnext.1, hnext.2, ← hcur]
  rfl

end Animation

namespace World

/-- The part is an animation whose image was painted last, with the cell. -/
def Displays (w : World) (id : PartId) (m n : Int) (a : Animation) (c : Int × Int) : Prop :=
  ∃ o s base, w.parts[id.index]? = some o ∧ o.lost = [] ∧ o.part = .sprite s ∧
    s.animation? = some a ∧
    s.sheet? = some ⟨base, .ofInt m, .ofInt n, .ofInt c.1, .ofInt c.2⟩ ∧
    w.drawing.head? = some (.blit s.image.name base.name 0 0
      (some ⟨c.1 * m, c.2 * n, m, n⟩))

/-- So many updates after it started to walk through the cells, the animation shows the one whose
turn it is. -/
def Strolls (w : World) (id : PartId) (m n : Int) (cells : List (Int × Int)) (f k : Nat) :
    Prop :=
  ∃ c, cells[k / f % cells.length]? = some c ∧ w.Displays id m n (.walked cells f k) c

end World

namespace Game

open World

lemma run_modifySprite (w : World) (id : PartId) (f : Sprite → Sprite) :
    (modifySprite id f).runOn w = (.ok (), w.altered id (.mapSprite f)) := rfl

lemma exists_showCell {o : Owned} {s : Sprite} {base : Image} {column row : Json}
    (ho : w.parts[id.index]? = some o) (hlost : o.lost = []) (hs : o.part = .sprite s)
    (ha : s.animation? = some a)
    (hsheet : s.sheet? = some ⟨base, .ofInt m, .ofInt n, column, row⟩) (c : Int × Int) :
    ∃ u, (showCell id (.ofInt c.1) (.ofInt c.2)).runOn w = (.ok (), u) ∧ u.Displays id m n a c := by
  let sheet : Sheet := ⟨base, .ofInt m, .ofInt n, .ofInt c.1, .ofInt c.2⟩
  let g := Part.mapSprite fun s =>
    { s with sheet? := s.sheet?.map ({ · with column := .ofInt c.1, row := .ofInt c.2 }) }
  have hp : (w.altered id g).parts[id.index]? =
      some { o with part := .sprite { s with sheet? := some sheet } } := by
    rw [getElem?_altered_self ho, hs]
    simp [g, sheet, Part.mapSprite, hsheet]
  let painted : List Draw := [.blit s.image.name base.name 0 0
    (some ⟨c.1 * m, c.2 * n, m, n⟩), .fill s.image.name [0, 0, 0, 0]]
  refine ⟨{ w.altered id g with drawing := painted ++ w.drawing }, ?_,
    _, _, base, hp, hlost, rfl, ha, rfl, rfl⟩
  rw [showCell, bind_ok (run_modifySprite w id _), bind_ok (run_sprite hp rfl)]
  rfl

lemma exists_changed (h : w.Displays id m n a c) (b : Animation) :
    ∃ u, (modifySprite id ({ · with animation? := some b })).runOn w = (.ok (), u) ∧
      u.Displays id m n b c := by
  obtain ⟨o, s, base, ho, hlost, hs, -, hrest⟩ := h
  refine ⟨w.altered id (Part.mapSprite ({ · with animation? := some b })), rfl,
    { o with part := .sprite { s with animation? := some b } }, _, base, ?_, hlost, rfl, rfl, hrest⟩
  rw [getElem?_altered_self ho, hs]
  rfl

/-- The animation goes over to another state, and shows the cell whose turn it is then. -/
lemma exists_goesOn (h : w.Displays id m n a c) (hcs : cells ≠ []) (f k : Nat) :
    ∃ (c' : Int × Int) (v u : World), (modifySprite id ({ · with animation? := some (.walked cells f k) })).runOn w =
        (.ok (), v) ∧ (Animation.walked cells f k).cell = .ok (.ofInt c'.1, .ofInt c'.2) ∧
      (showCell id (.ofInt c'.1) (.ofInt c'.2)).runOn v = (.ok (), u) ∧ u.Strolls id m n cells f k := by
  have hc := List.getElem?_eq_getElem (Nat.mod_lt (k / f) (List.length_pos_iff.2 hcs))
  obtain ⟨v, hset, o, s, base, ho, hlost, hs, ha, hsheet, -⟩ := exists_changed h (.walked cells f k)
  obtain ⟨u, hrun, hu⟩ := exists_showCell ho hlost hs ha hsheet _
  exact ⟨_, v, u, hset, Animation.cell_walked hc, hrun, _, hc, hu⟩

lemma exists_update (h : w.Strolls id m n cells f k) (hf : 0 < f) (hcs : cells ≠ []) :
    ∃ u, (update id).runOn w = (.ok (), u) ∧ u.Strolls id m n cells f (k + 1) := by
  obtain ⟨c, hc, hw⟩ := h
  obtain ⟨v, hticked, hv⟩ := exists_changed hw (Animation.walked cells f k).tick
  have hupdate : (update id).runOn w = (updateAnimation id (.walked cells f k)).runOn w := by
    obtain ⟨o, ⟨_, _, _, _, _, _⟩, base, ho, hlost, hs, ha, -⟩ := hw
    rw [update, bind_ok (run_requires ho hlost _), bind_ok (run_part ho), hs]
    cases ha
    rfl
  rw [hupdate, updateAnimation, bind_ok hticked, run_lift_bind (Animation.isOver_tick_walked ..)]
  by_cases hk : f ≤ k % f + 1
  · obtain ⟨c', v', u, hset, hcell, hrun, hu⟩ := exists_goesOn hv hcs f (k + 1)
    refine ⟨u, ?_, hu⟩
    rw [if_pos (by simpa using hk), run_lift_bind (Animation.next_tick_walked hf hcs hk),
      bind_ok hset, run_lift_bind hcell]
    exact hrun
  · refine ⟨v, by rw [if_neg (by simpa using hk)]; rfl, c, ?_, Animation.tick_walked hf hk ▸ hv⟩
    have hstays := Animation.succ_div_mod k hf
    rw [if_neg hk] at hstays
    rw [hstays.1, hc]

lemma exists_setFrames (h : w.Displays id m n (.walked cells f k) c) {cells' : List (Int × Int)}
    (hcs : cells' ≠ []) :
    ∃ u, (setFrames id (cellList cells')).runOn w = (.ok (), u) ∧ u.Strolls id m n cells' f 0 := by
  obtain ⟨c', v, u, hset, hcell, hrun, hu⟩ := exists_goesOn h hcs f 0
  have hrestart : (Animation.walked cells f k).restart (cellList cells') = .walked cells' f 0 := by
    simp [Animation.restart, Animation.walked]
  obtain ⟨o, s, base, ho, -, hs, ha, -⟩ := h
  refine ⟨u, ?_, hu⟩
  rw [setFrames, bind_ok (run_sprite ho hs), ha, bind_ok (run_orAbsent_some _ _), hrestart,
    bind_ok hset, run_lift_bind hcell]
  exact hrun

lemma getElem?_of_newSprite {file : String} {isOverlay : Bool}
    (h : (newSprite file isOverlay).runOn w = (.ok id, u)) :
    ∃ s, u.parts[id.index]? = some { part := .sprite s } := by
  rw [newSprite, loadImage, bind_assoc] at h
  obtain ⟨image, _, hl, hrest⟩ := run_bind_eq_ok.1 h
  cases (run_lift_eq_ok.1 hl).2
  cases isOverlay <;> cases hrest <;> exact ⟨_, Array.getElem?_push_size⟩

lemma strolls_of_newAnimation {file : Json} {isOverlay : Bool} (hcs : cells ≠ [])
    (h : (newAnimation file (.ofInt m) (.ofInt n) (cellList cells) (.ofInt f) isOverlay).runOn w =
      (.ok id, u)) : u.Strolls id m n cells f 0 := by
  obtain ⟨c, hc⟩ : ∃ c, cells[0 / f % cells.length]? = some c :=
    ⟨_, List.getElem?_eq_getElem (Nat.mod_lt _ (List.length_pos_iff.2 hcs))⟩
  have hstart : ({ frames := cellList cells, framesPerImage := .ofInt f } : Animation) =
      .walked cells f 0 := by
    simp [Animation.walked]
  rw [newAnimation, run_lift_bind (length_cellList cells)] at h
  dsimp only at h
  rw [if_neg (by simpa using hcs), hstart, run_lift_bind (Animation.cell_walked hc)] at h
  obtain ⟨id', u', hsheet, hact⟩ := run_bind_eq_ok.1 h
  cases hact
  rw [newSheet] at hsheet
  obtain ⟨name, _, hn, hrest⟩ := run_bind_eq_ok.1 hsheet
  cases (run_lift_eq_ok.1 hn).2
  obtain ⟨id', v, hsprite, hrest⟩ := run_bind_eq_ok.1 hrest
  obtain ⟨s, hs⟩ := getElem?_of_newSprite hsprite
  rw [bind_ok (run_sprite hs rfl)] at hrest
  obtain ⟨image, _, himg, hrest⟩ := run_bind_eq_ok.1 hrest
  cases (run_lift_eq_ok.1 himg).2
  rw [bind_ok (run_modifySprite _ _ _)] at hrest
  have hp := getElem?_altered_self hs <| .mapSprite fun s' => { s' with
    image, sheet? := some ⟨s.image, .ofInt m, .ofInt n, .ofInt c.1, .ofInt c.2⟩
    animation? := some (.walked cells f 0) }
  obtain ⟨v', hshn, hv'⟩ := exists_showCell hp rfl rfl rfl rfl _
  rw [bind_ok hshn] at hrest
  cases hrest
  exact ⟨_, hc, hv'⟩

end Game

/-! ## Runs -/

/-- What is done with an animation. -/
inductive Cue where
  | update
  | walk (cells : List (Int × Int))

def Cue.run (id : PartId) : Cue → Game Unit
  | update => Game.update id
  | walk cells => Game.setFrames id (cellList cells)

/-- The cells that are walked through, and the updates since then, after one more cue. -/
def Cue.next (course : List (Int × Int) × Nat) : Cue → List (Int × Int) × Nat
  | update => (course.1, course.2 + 1)
  | walk cells => (cells, 0)

namespace World

open Game

lemma Strolls.run {p : List (Int × Int) × Nat} (h : w.Strolls id m n p.1 f p.2) (hf : 0 < f)
    (hp : p.1 ≠ []) {cues : List Cue} (hcues : ∀ cells, .walk cells ∈ cues → cells ≠ []) :
    ∃ v, (cues.forM (Cue.run id)).runOn w = (.ok (), v) ∧
      v.Strolls id m n (cues.foldl Cue.next p).1 f (cues.foldl Cue.next p).2 := by
  induction cues generalizing w p with
  | nil => exact ⟨w, rfl, h⟩
  | cons t cues ih =>
    have hrest := fun cells ht => hcues cells (.tail _ ht)
    cases t with
    | update =>
      obtain ⟨u, hrun, hu⟩ := exists_update h hf hp
      obtain ⟨v, hrest, hv⟩ := ih (p := (p.1, p.2 + 1)) hu hp hrest
      exact ⟨v, (bind_ok hrun).trans hrest, hv⟩
    | walk cells =>
      have hcs := hcues cells (.head _)
      obtain ⟨u, hrun, hu⟩ := exists_setFrames h.choose_spec.2 hcs
      obtain ⟨v, hrest, hv⟩ := ih (p := (cells, 0)) hu hcs hrest
      exact ⟨v, (bind_ok hrun).trans hrest, hv⟩

/-- Whatever is done with a new animation, both counters and the cell that is shown follow from the
updates since it got its last list of cells. -/
theorem newAnimation_strolls {file : Json} {isOverlay : Bool} (cues : List Cue) (hf : 1 ≤ f)
    (hcells : cells ≠ [])
    (h : (newAnimation file (.ofInt m) (.ofInt n) (cellList cells) (.ofInt f) isOverlay).runOn w =
      (.ok id, u))
    (hcues : ∀ cells', .walk cells' ∈ cues → cells' ≠ []) :
    ∃ v, (cues.forM (Cue.run id)).runOn u = (.ok (), v) ∧
      v.Strolls id m n (cues.foldl Cue.next (cells, 0)).1 f (cues.foldl Cue.next (cells, 0)).2 :=
  Strolls.run (p := (cells, 0)) (strolls_of_newAnimation hcells h) hf hcells hcues

def stroll : List Cue :=
  .replicate 3 .update ++ .walk [(0, 2), (1, 2), (2, 2)] :: .replicate 7 .update

theorem newAnimation_strolls_around :
    ∃ u v, (newAnimation (.str "player_sheet2.png") 32 64 (cellList [(0, 0), (1, 0)]) 2 false).runOn {} =
        (.ok ⟨0⟩, u) ∧ (stroll.forM (Cue.run ⟨0⟩)).runOn u = (.ok (), v) ∧
      v.Strolls ⟨0⟩ 32 64 [(0, 2), (1, 2), (2, 2)] 2 7 := by
  have h : (newAnimation (.str "player_sheet2.png") (.ofInt 32) (.ofInt 64) (cellList [(0, 0), (1, 0)])
      (.ofInt 2) false).runOn {} = (.ok ⟨0⟩, _) := rfl
  obtain ⟨v, hrun, hv⟩ := newAnimation_strolls stroll (f := 2) (by decide) (by decide) h
    (by simp [stroll])
  exact ⟨_, v, h, hrun, hv⟩

end World

end TileQuest
