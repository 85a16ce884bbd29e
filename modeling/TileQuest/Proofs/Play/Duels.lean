import TileQuest.Proofs.Play.Attacks

/-!
# Duels

The frame of an enemy completes exactly if it does not fell somebody
(`World.Reached.updateEnemy_completes_iff`). It does come to that: somebody who is weak enough does
not survive the blow (`World.updateEnemy_fails_arena`).
-/

namespace TileQuest

variable {p? : Option Part}

namespace World

variable {w : World} {id : PartId}

/-- **When a frame of an enemy completes.**  In play, with everybody within a million pixels, the
frame of an enemy in the area completes exactly if it does not strike somebody, once it has looked
around, who does not survive the blow. -/
theorem Reached.updateEnemy_completes_iff (h : w.Reached) (hreal : w.NoStandIns)
    (hranged : w.Ranged reach) (hlive : id ∈ w.live) {en : Enemy}
    (hen : w.part? id = some (.enemy en))
    (hprey : ∀ e, en.targeted? = some e → w.IsPlaced reach e) :
    (∃ u, (Game.updateEnemy id).runOn w = (.ok (), u)) ↔ ¬ (w.alerted id).Fells id := by
  obtain ⟨o, ho, hpart⟩ := part?_eq_some.1 hen
  have hg : w.gist? id = some (Part.enemy en).gist := gist?_eq_some.2 ⟨o, ho, by rw [hpart]⟩
  have hprowls : w.Prowls id en.targeted? :=
    ⟨h.atRest, hreal, hranged, hlive, ⟨_, _, hg⟩, hprey⟩
  exact Game.exists_run_updateEnemy_iff hprowls

end World

/-! A player on an open field, with an enemy on the same tile. -/

def Part.enemy? : Part → Option Enemy
  | enemy e => some e
  | _ => none

def Part.combat? : Part → Option Combat
  | combat c => some c
  | _ => none

lemma Part.eq_enemy_of_bind {e : Enemy} (h : p?.bind enemy? = some e) : p? = some (.enemy e) := by
  obtain ⟨p, rfl, hp⟩ := Option.bind_eq_some_iff.1 h
  cases p <;> cases hp
  rfl

namespace World

def arenaBody : List UInt8 :=
  [1, 0, 0, 0, 5, 0, 0, 0, 5, 0, 0, 0] ++ List.replicate 50 0 ++ [48, 44, 49, 44, 49, 0] ++
    [57, 44, 49, 44, 49, 44, 110, 112, 99, 95, 109, 97, 108, 101, 49, 46, 112, 110, 103, 0]

/-- A new game with the map file on its disk. -/
def beforeArena : World :=
  { disk := { nodes := [(["content"], .folder), (["content", "maps"], .folder),
      (["content", "maps", "forest.map"], .file (.bytes (0 :: arenaBody)))] }
    scenes := [("Play", .play)] }

def openedArena : World :=
  { beforeArena with
    stage? := some "Play"
    log := [.line ("Switching to " ++ "Play")]
    areas := #[{}]
    area? := some ⟨0⟩ }

def arena : World := ((Game.loadBinary ⟨0⟩ "forest.map" arenaBody).runOn openedArena).2

lemma switchTo_arena : ((Game.switchTo "Play").runOn beforeArena).2 = arena :=
  switchTo_forest arenaBody

variable {w : World}

def IsArena (w : World) : Prop :=
  (w.present = [⟨23⟩, ⟨25⟩] ∧ ⟨29⟩ ∈ w.live) ∧
    (∀ p ∈ w.live, w.partIs Part.isPlaceholder p = false) ∧
    (∀ e ∈ w.present, w.placeOf? e = some (.num (.int 32), .num (.int 32))) ∧
    (w.area? = some ⟨0⟩ ∧ w.areas[0]?.map Area.ground? = some (some ⟨0⟩)) ∧
    (w.grounds[0]?.map fun m => decide (∀ row ∈ m.rows, ∀ tile ∈ row,
      (TileKind.ofTile tile).isOk = true)) = some true

instance (w : World) : Decidable w.IsArena := inferInstanceAs (Decidable (_ ∧ _))

lemma isArena_arena : arena.IsArena := by
  decide +kernel

lemma IsArena.noStandIns (h : w.IsArena) : w.NoStandIns := .of_partIs h.2.1

lemma within_tile : (Json.num (.int 32)).Within reach :=
  ⟨.int 32, rfl, Scalar.Fine.int 1 (by decide)⟩

lemma IsArena.ranged (h : w.IsArena) : w.Ranged reach := by
  obtain ⟨-, -, hplaces, ⟨ha, hgr⟩, hval⟩ := h
  obtain ⟨map, hmap, hkinds⟩ := Option.map_eq_some_iff.1 hval
  refine ⟨⟨map, ⟨⟨0⟩, ⟨0⟩, ha, hgr, hmap⟩, fun row hrow tile htile => ?_⟩, fun e he => ?_⟩
  · have hok := of_decide_eq_true hkinds row hrow tile htile
    rcases hk : TileKind.ofTile tile with fault | kind
    · rw [hk] at hok
      cases hok
    · exact ⟨kind, rfl⟩
  · exact ⟨_, _, hplaces e he, within_tile, within_tile⟩

lemma reached_arena : arena.Reached := by
  have hnew : beforeArena.IsNew := ⟨rfl, rfl, rfl, rfl, rfl, rfl, rfl, rfl⟩
  rw [← switchTo_arena]
  exact .step (.new hnew) (.switchTo "Play")

def weakSword : ItemType := ItemType.all.get ⟨4, by decide⟩

def hunter : Enemy :=
  { health? := none
    weapon := weakSword
    phase := 0
    target? := some (.int 32, .int 32)
    targeted? := some ⟨23⟩
    combat? := some ⟨31⟩ }

theorem updateEnemy_completes_arena : arena.Reached ∧ arena.NoStandIns ∧ arena.Ranged reach ∧
    ⟨29⟩ ∈ arena.live ∧ ¬ (arena.alerted ⟨29⟩).Fells ⟨29⟩ ∧
    (arena.part? ⟨26⟩).bind Part.combat? = some { health := 100, maxHealth := 100, onDeath := .restart } ∧
    (((Game.updateEnemy ⟨29⟩).runOn arena).2.part? ⟨26⟩).bind Part.combat? =
      some { health := 98, maxHealth := 100, onDeath := .restart } := by
  have hfacts : ((Game.updateEnemy ⟨29⟩).runOn arena).1.isOk = true ∧
      (arena.part? ⟨29⟩).bind Part.enemy? =
        some { hunter with target? := none, targeted? := none } ∧
      (arena.part? ⟨26⟩).bind Part.combat? =
        some { health := 100, maxHealth := 100, onDeath := .restart } ∧
      (((Game.updateEnemy ⟨29⟩).runOn arena).2.part? ⟨26⟩).bind Part.combat? =
        some { health := 98, maxHealth := 100, onDeath := .restart } := by
    decide +kernel
  obtain ⟨hok, hen, hbefore, hafter⟩ := hfacts
  have harena := isArena_arena
  have hlive := harena.1.2
  exact ⟨reached_arena, harena.noStandIns, harena.ranged, hlive,
    (reached_arena.updateEnemy_completes_iff harena.noStandIns harena.ranged hlive
      (Part.eq_enemy_of_bind hen) nofun).1 ⟨_, Game.run_of_isOk hok⟩, hbefore, hafter⟩

/-! The same arena, with a sword at the feet of the player. -/

def yardBody : List UInt8 := arenaBody ++ [55, 44, 49, 44, 50, 44, 51, 44, 49, 0]

def yard : World := ((Game.loadBinary ⟨0⟩ "forest.map" yardBody).runOn (openedForest yardBody)).2

def course (w : World) (hs : List Happening) : World := hs.foldl (fun w h => (h.run.runOn w).2) w

lemma Reached.course (h : w.Reached) (hs : List Happening) : (w.course hs).Reached := by
  induction hs generalizing w with
  | nil => exact h
  | cons s hs ih => exact ih (.step h s)

def slotClick : Input :=
  { freshButtons := [1], buttonsDown := [1], mouse := (.ok (.int (-180)), .ok 10) }

/-- The player picks the sword up, takes it in hand, and strikes with it twice, each time at
itself. -/
def weary : World :=
  yard.course ([.update ⟨0⟩, .input slotClick, .update ⟨3⟩, .input {}, .update ⟨0⟩,
    .attack ⟨26⟩ (some ⟨26⟩)] ++ List.replicate 30 (.update ⟨26⟩) ++ [.attack ⟨26⟩ (some ⟨26⟩)])

lemma weary_facts : weary.IsArena ∧ ((weary.part? ⟨29⟩).bind Part.enemy?).isSome = true ∧
    ((Game.updateEnemy ⟨29⟩).runOn weary).1.isOk = false := by
  decide +kernel

/-- A frame of an enemy in the arena that it cannot complete: the player does not survive its
blow. -/
theorem updateEnemy_fails_arena : ∃ w : World, w.Reached ∧ w.NoStandIns ∧ w.Ranged reach ∧
    ⟨29⟩ ∈ w.live ∧ (∃ en, w.part? ⟨29⟩ = some (.enemy en)) ∧
    ∀ u, (Game.updateEnemy ⟨29⟩).runOn w ≠ (.ok (), u) := by
  obtain ⟨harena, henemy, hfails⟩ := weary_facts
  obtain ⟨en, hen⟩ := Option.isSome_iff_exists.1 henemy
  have hnew : (beforeForest yardBody).IsNew := ⟨rfl, rfl, rfl, rfl, rfl, rfl, rfl, rfl⟩
  have hyard : yard.Reached := by
    rw [yard, ← switchTo_forest]
    exact .step (.new hnew) (.switchTo "Play")
  refine ⟨weary, hyard.course _, harena.noStandIns, harena.ranged, harena.1.2,
    ⟨en, Part.eq_enemy_of_bind hen⟩, fun u hrun => ?_⟩
  rw [hrun] at hfails
  cases hfails

end World

end TileQuest
