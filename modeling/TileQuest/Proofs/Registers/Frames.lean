import TileQuest.Frame
import TileQuest.Proofs.Registers.Playing

/-!
# The registers hold what is in the area

In every frame the game handles what the player did, lets every active part act and draws
everything. Drawing disturbs nothing, and whatever acts or is typed leaves the registers as the
area is (`World.Kept`).
-/

namespace TileQuest

variable {w : World} {R : World → World → Prop}

namespace Game

open World

variable (id : PartId) {i : PartId}

/-! ## Widgets -/

section Widgets

variable [IsPreorder World R] [Allows (Orderly Steady) R]

lemma obeys_updateAnimation (animation : Animation) : Obeys R (updateAnimation id animation) :=
  .bind (obeys_modifySprite id fun _ => rfl) fun _ => .lifts fun _ =>
    .ite (.lifts fun _ => .bind (obeys_modifySprite id fun _ => rfl) fun _ => .lifts fun _ =>
      obeys_showCell id _ _) (.pure _)

lemma obeys_eraseLast : Obeys R (eraseLast id) :=
  .bind (obeys_label id) fun _ => .lifts fun _ => obeys_setText id _

lemma obeys_updateTextField (field : TextField) : Obeys R (updateTextField id field) :=
  .bind .get fun _ => .when (obeys_eraseLast id) fun _ => .bind (obeys_modifyField id _) fun _ =>
    .bind (.orAbsent _) fun _ => .bind (obeys_place id) fun _ => .lifts fun _ => .lifts fun _ =>
    .ite (.lifts fun _ => obeys_modifyField id _) (.pure _)

lemma obeys_typeInto (typed : Json) : Obeys R (typeInto id typed) := by
  refine .bind (obeys_requires id _) fun _ => .bind (obeys_part id) fun p => ?_
  have hcut (text : Json) : Obeys R (do
      modifyLabel id ({ · with text })
      setText id text
      return true) :=
    .bind (obeys_modifyLabel id _) fun _ => .bind (obeys_setText id text) fun _ => .pure _
  cases p with
  | textField l field =>
    exact .ite (.pure _) <| .lifts fun _ => .bind (obeys_modifyLabel id _) fun _ => .lifts fun _ =>
      .lifts fun _ => .ite (.bind (.lift _) hcut) (.bind (.pure _) hcut)
  | _ => exact .throw _

lemma obeys_updateView [Refreshes R] (v : InventoryView) : Obeys R (updateView id v) := by
  refine .bind .get fun _ => .ite (.pure _) <| .lifts fun _ => .ite ?_ (.pure _)
  refine .lifts fun _ => .lifts fun _ => .lifts fun _ => .lifts fun _ => .lifts fun index? => ?_
  cases index? with
  | none => exact .pure _
  | some index =>
    exact .bind (obeys_print _) fun _ => .bind (obeys_modifyBag _ _) fun _ =>
      .bind (Refreshes.refresh id) fun _ => .bind (obeys_bag _) fun _ => obeys_print _

lemma obeys_updateButton [Edits R] (b : Button) : Obeys R (updateButton id b) :=
  .bind (obeys_place id) fun _ => .lifts fun _ => .bind .get fun _ =>
    .ite (.lifts fun _ => .ite (obeys_perform _) (.pure _)) (.pure _)

lemma obeys_updateEditorHelper [Edits R] (h : EditorHelper) : Obeys R (updateEditorHelper h) :=
  .bind (obeys_same fun _ => by rfl) fun _ => .bind .get fun _ => .lifts fun _ =>
    .ite (obeys_perform _) (.pure _)

end Widgets

lemma kept_scroll {o : Owned} {s : ScrollView} (ho : w.parts[i.index]? = some o)
    (hs : o.part = .scrollView s) (amount : Scalar) :
    Kept .any w ((scroll i s amount).runOn w).2 := by
  have hset (s' : ScrollView) : Obeys (SteadyAt i .list) (setPart i (.scrollView s')) :=
    fun _ => .altered (f := fun _ => .scrollView s') (fun _ _ => rfl) fun _ _ _ => trivial
  have hg : w.gist? i = some .list := gist?_eq_some.2 ⟨o, ho, by rw [hs]; rfl⟩
  refine fun h => Ends.snd (.lift (fun _ _ => h) fun _ _ => .lift (fun _ _ => h) fun _ _ =>
    .lift (fun _ _ => h) fun turned _ => ?_)
  refine .watch (hset _) (fun u hu => h.of_steady (hu hg)) fun _ u _ hu => ?_
  have hu := hu hg
  refine .lift (fun _ _ => h.of_steady hu) fun _ _ => ?_
  refine .watch (hset _) (fun v hv => h.of_steady (hu.trans (hv (hu.gist?_some hg)))) fun _ v _ hv => ?_
  refine .kept (.forM (fun (child, index) => ?_) _) (h.of_steady (hu.trans (hv (hu.gist?_some hg))))
  exact .lifts fun _ => .lifts fun _ => kept_modifyEntity child fun _ => rfl

/-- The relation allows whatever is done in a frame. -/
class Lively (R : World → World → Prop) : Prop extends Roving R, Edits R where
  scroll : ∀ (w : World) (i : PartId) (o : Owned) s amount, w.parts[i.index]? = some o →
    o.part = .scrollView s → R w ((scroll i s amount).runOn w).2
  combat : ∀ (w : World) (i : PartId) (o : Owned) c, w.parts[i.index]? = some o →
    o.part = .combat c → R w ((updateCombat i c).runOn w).2

instance : Lively (Kept .any) where
  scroll _ _ _ _ amount ho hs := kept_scroll ho hs amount
  combat _ _ _ _ ho hc := kept_updateCombat ho hc

/-! ## Acting -/

section Acting

variable [IsPreorder World R] [Allows (Orderly Steady) R]

lemma obeys_updateList [Lively R] (s : ScrollView) : Obeys R (updateList id s) := by
  have hchoose (click : Scalar) (top : Json) : Obeys R (chooseItem s click top) :=
    .lifts fun _ => .lifts fun _ => .lifts fun _ => .lifts fun _ => .lifts fun _ =>
      .ite (.lifts fun _ => obeys_choose _ _ _) (.pure _)
  refine .bind (obeys_place id) fun _ => .lifts fun _ => .bind .get fun _ => .lifts fun _ => .ite
      (.ite (.lifts fun _ => .bind (hchoose _ _) fun _ => ?_) ?_) (.pure _)
  all_goals
    refine .bind_part fun w o ho => ?_
    cases hp : o.part with
    | scrollView s => exact Lively.scroll w id o s _ ho hp
    | _ => exact Std.Refl.refl w

lemma obeys_update [Lively R] : Obeys R (update id) := by
  refine .bind (obeys_requires id _) fun _ => .bind_part fun w o ho => ?_
  split
  · exact obeys_updateAnimation id _ w
  · exact obeys_updateTextField id _ w
  · exact obeys_updateButton id _ w
  · exact obeys_updateView id _ w
  · exact obeys_updateList id _ w
  · exact obeys_updateEditorHelper _ w
  · exact obeys_updateDialogue id w
  · exact Lively.combat w id o _ ho ‹_›
  · exact obeys_updatePlayer id w
  · exact obeys_updateEnemy id w
  · exact Std.Refl.refl w

lemma obeys_updateFrom [Lively R] (rounds position : Nat) : Obeys R (updateFrom rounds position) := by
  induction rounds generalizing position with
  | zero => exact .throw _
  | succ rounds ih =>
    refine .bind .get fun _ => ?_
    split
    · exact .pure _
    · exact .bind (obeys_update _) fun _ => ih _

end Acting

/-! ## Drawing -/

section Drawing

variable [IsPreorder World R] [Allows (Orderly Steady) R]

lemma obeys_drawLabel (l : Label) (target : String) : Obeys R (drawLabel id l target) :=
  .bind (obeys_place id) fun _ => .lifts fun _ => .lifts fun _ =>
    .bind (obeys_requires id _) fun _ => obeys_paint _

lemma obeys_drawTextField (l : Label) (field : TextField) (target : String) :
    Obeys R (drawTextField id l field target) :=
  .bind (obeys_place id) fun _ => .bind (obeys_requires id _) fun _ => .bind (obeys_paint _) fun _ =>
    .bind (obeys_drawLabel id l target) fun _ => .ite
      (.lifts fun _ => .lifts fun _ => .lifts fun _ => .bind (obeys_requires id _) fun _ =>
        obeys_paint _) (.pure _)

lemma obeys_drawBar (b : Bar) (target : String) : Obeys R (drawBar id b target) :=
  have hrect (color : Json) (area : Rect) : Obeys R (paintRect target color area) :=
    .lifts fun _ => obeys_paint _
  .lifts fun _ => .bind (obeys_place id) fun _ => .lifts fun _ => .bind (hrect _ _) fun _ =>
    .lifts fun _ => .lifts fun _ => .lifts fun _ => hrect _ _

lemma obeys_drawPlain (target : String) (id : PartId) : Obeys R (drawPlain target id) := by
  refine .bind (obeys_requires id _) fun _ => .bind (obeys_part id) fun p => ?_
  cases p with
  | sprite s =>
    exact .bind (obeys_place id) fun _ => .bind .get fun _ => .lifts fun _ => obeys_paint _
  | inputBox width height =>
    exact .bind (obeys_place id) fun _ => .bind (obeys_paint _) fun _ => .lifts fun _ =>
      obeys_paint _
  | label l => exact obeys_drawLabel id l target
  | textField l field => exact obeys_drawTextField id l field target
  | bar b => exact obeys_drawBar id b target
  | _ => exact .throw _

lemma obeys_draw (id : PartId) : Obeys R (draw id) := by
  refine .bind (obeys_part id) fun p => ?_
  cases p with
  | scrollView s =>
    exact .bind (obeys_requires id _) fun _ => .bind (obeys_requires id _) fun _ =>
      .bind (obeys_requires id _) fun _ => .bind (obeys_paint _) fun _ =>
      .bind (.forM (obeys_drawPlain _) _) fun _ => .bind (obeys_place id) fun _ => obeys_paint _
  | _ => exact obeys_drawPlain _ id

lemma obeys_drawScenery (s : Scenery) : Obeys R (drawScenery s) := by
  cases s with
  | ground g =>
    exact .bind (obeys_ground g) fun _ => .bind .get fun _ => .lifts fun _ => obeys_paint _
  | unfinished => exact .throw _

lemma obeys_passEffects : Obeys R passEffects := by
  refine .bind .get fun w => .bind (obeys_same fun _ => by rfl) fun _ =>
    .bind (.mapM (fun _ => .lift _) _) fun _ => .bind (obeys_paint _) fun _ => ?_
  cases (Effect.pass w.camera w.effects).fault? with
  | none => exact .pure _
  | some fault => exact .throw _

lemma obeys_drawAll : Obeys R drawAll :=
  .bind (obeys_paint _) fun _ => .bind .get fun _ => .bind (.forM obeys_drawScenery _) fun _ =>
    .bind .get fun _ => .bind (.forM obeys_draw _) fun _ => .bind obeys_passEffects fun _ =>
    .bind .get fun _ => .forM obeys_draw _

end Drawing

/-! ## Events and frames -/

section Events

variable [Allows (Orderly Steady) R]

lemma obeys_modifyInput (f : Input → Input) : Obeys R (modifyInput f) :=
  obeys_same fun _ => by rfl

variable [IsPreorder World R]

lemma obeys_enterText [Edits R] (text : Json) (id : PartId) : Obeys R (enterText text id) := by
  refine .bind (obeys_typeInto id text) fun _ => .ite (.bind (obeys_part id) fun _ => ?_) (.pure _)
  split
  · exact obeys_perform _
  · exact .pure _

lemma obeys_handle [Edits R] (event : Event) : Obeys R (handle event) := by
  refine .bind .get fun _ => ?_
  cases event with
  | quit => exact obeys_same fun _ => by rfl
  | keyDown k => exact obeys_modifyInput _
  | keyUp k => exact .when (.throw _) fun _ => obeys_modifyInput _
  | buttonDown b => exact obeys_modifyInput _
  | buttonUp b => exact .when (.throw _) fun _ => obeys_modifyInput _
  | mouseMove => exact .pure _
  | wheel amount => exact .lifts fun _ => .lifts fun _ => obeys_modifyInput _
  | text s => exact .bind .get fun _ => .forM (obeys_enterText _) _

lemma obeys_frame [Lively R] (events : List Event) : Obeys R (frame events) :=
  .bind (obeys_same fun _ => by rfl) fun _ => .bind (.forM obeys_handle _) fun _ =>
    .bind (.bind .get fun _ => obeys_updateFrom _ 0) fun _ => obeys_drawAll

end Events

end Game

/-! ## Everything that may happen -/

inductive Happening where
  | frame (events : List Event)
  | update (id : PartId)
  | attack (id : PartId) (other? : Option PartId)
  | attackAround (id : PartId)
  | die (death : Death) (e : EntityId)
  /-- Somebody touches a trigger: an item on the ground, or a teleporter. -/
  | touch (id : PartId) (other : EntityId)
  /-- Somebody uses something: a tree, a rock, or somebody to talk to. -/
  | use (id : PartId) (user? : Option EntityId) (distance : Json)
  | teleport (file column row : Json)
  | switchTo (stage : String)
  | start
  | files (disk : Disk)
  | input (input : Input)

namespace Happening

def run : Happening → Game Unit
  | frame events => Game.frame events
  | update id => Game.update id
  | attack id other? => Game.attack id other?
  | attackAround id => Game.performAttack id
  | die death e => Game.die death e
  | touch id other => Game.touch id other
  | use id user? distance => Game.useOn id user? distance
  | teleport file column row => Game.teleport file column row
  | switchTo stage => Game.switchTo stage
  | start => Game.start
  | files disk => modify fun w => { w with disk }
  | input i => modify fun w => { w with input := i }

open Game World in
lemma kept_run (h : Happening) : Obeys (Kept .any) h.run := by
  cases h with
  | frame events => exact obeys_frame events
  | update id => exact obeys_update id
  | attack id other? => exact obeys_attack id other?
  | attackAround id => exact obeys_performAttack id
  | die death e => exact obeys_die death e
  | touch id other => exact obeys_touch id other
  | use id user? distance => exact obeys_useOn id user? distance
  | teleport file column row => exact kept_teleport file column row
  | switchTo stage => exact kept_switchTo stage
  | start =>
    have hset (f : World → World) (hf : ∀ w, Orderly Steady w (f w)) :
        Obeys (Kept .any) (modify f) := obeys_modify hf
    exact .bind (hset _ fun _ => .of_same (by rfl)) fun _ =>
      .bind (hset _ fun _ => .of_same (by rfl)) fun _ =>
      .bind (hset _ fun _ => .of_same (by rfl)) fun _ =>
      .bind (hset _ fun _ => .of_same (by rfl)) fun _ =>
      .bind (hset _ fun _ => .of_same (by rfl)) fun _ => kept_switchTo _
  | files disk => exact kept_write disk
  | input i => exact obeys_same fun _ => by rfl

end Happening

namespace World

/-- Nothing was made yet. The files, the stages and everything else may be as they like. -/
structure IsNew (w : World) : Prop where
  parts : w.parts = #[]
  entities : w.entities = #[]
  area : w.area? = none
  tools : w.editor.toolEntities? = none
  bodies : w.bodies = []
  triggers : w.triggers = []
  usables : w.usables = []
  taken : w.taken = []

/-- The world of a game: from a new one on, anything may have happened, to its end or until a fault
broke it off. -/
inductive Reached : World → Prop where
  | new {w : World} (h : w.IsNew) : Reached w
  | step {w : World} (h : Reached w) (s : Happening) : Reached (s.run.runOn w).2

lemma IsNew.atRest {rule : Rule} (h : w.IsNew) (hrule : rule.allows (fun _ _ => False) [])
    (hpast : rule.Past w) : w.AtRest rule := by
  have hgist (p : PartId) : w.gist? p = none := by rw [gist?, h.parts]; rfl
  have hps (e : EntityId) : w.partsOf e = [] := by rw [partsOf, h.entities]; rfl
  have htools : w.tools = [] := by rw [World.tools, h.tools]; rfl
  have hpres : w.present = [] := by rw [present, h.area]; rfl
  have hlive : w.live = [] := by rw [live, hpres, List.flatMap_nil]
  exact
    { able := fun i o ho => by rw [h.parts] at ho; cases ho
      owned := fun e p hp => by rw [hps] at hp; cases hp
      shown := fun k g hg => by rw [hgist] at hg; cases hg
      distinct := fun k g hg => by rw [hgist] at hg; cases hg
      keeper := fun k k' g g' q hg => by rw [hgist] at hg; cases hg
      window := fun k k' g g' e hg => by rw [hgist] at hg; cases hg
      housed := fun k g e hg => by rw [hgist] at hg; cases hg
      fighter := fun k hud? bar? c health? hg => by rw [hgist] at hg; cases hg
      player := fun e p hp => by rw [hps] at hp; cases hp
      aimed := fun k combat? e health? hg => by rw [hgist] at hg; cases hg
      tools := fun e he => by rw [htools] at he; cases he
      nodup := hlive ▸ List.nodup_nil
      ready := by rw [hlive]; simp
      registered := fun r => by
        rw [hlive, List.filter_nil]
        cases r
        · exact h.bodies
        · exact h.triggers
        · exact h.usables
      seated := by rw [hlive]; simp
      ruled := by rwa [hlive, seating_nil, h.taken]
      past := hpast
      here := by rw [hpres]; simp
      area := by rw [h.area]; simp }

lemma Reached.atRest (h : w.Reached) : w.AtRest .any := by
  induction h with
  | new h => exact h.atRest trivial ⟨nofun, nofun⟩
  | step _ s ih => exact s.kept_run _ ih

/-- **The registers hold what is in the area.**  Whatever files there are and whatever happened, the
bodies, the triggers and the usables that are registered are exactly those of the entities in the
area, in order and each of them once. -/
theorem Reached.registers_hold_area (h : w.Reached) :
    (w.bodies = w.live.filter (w.partIs Part.isBody) ∧ w.bodies.Nodup) ∧
      (w.triggers = w.live.filter (w.partIs Part.isTrigger) ∧ w.triggers.Nodup) ∧
      (w.usables = w.live.filter (w.partIs Part.isUsable) ∧ w.usables.Nodup) := by
  have hrest := h.atRest
  have hlist (r : Register) : r.list w = w.live.filter (w.partIs r.test) ∧ (r.list w).Nodup :=
    ⟨hrest.registered r, by rw [hrest.registered r]; exact hrest.nodup.filter _⟩
  exact ⟨hlist .bodies, hlist .triggers, hlist .usables⟩

/-- A new game with one map file on its disk. -/
def beforeForest (body : List UInt8) : World :=
  { disk := { nodes := [(["content"], .folder), (["content", "maps"], .folder),
      (["content", "maps", "forest.map"], .file (.bytes (0 :: body)))] }
    scenes := [("Play", .play)] }

def openedForest (body : List UInt8) : World :=
  { beforeForest body with
    stage? := some "Play"
    log := [.line ("Switching to " ++ "Play")]
    areas := #[{}]
    area? := some ⟨0⟩ }

lemma switchTo_forest (body : List UInt8) : ((Game.switchTo "Play").runOn (beforeForest body)).2 =
      ((Game.loadBinary ⟨0⟩ "forest.map" body).runOn (openedForest body)).2 := by
  have hclear : Game.reset.runOn (beforeForest body) = (.ok (), beforeForest body) := rfl
  have hopen : (Game.switchTo "Play").runOn (beforeForest body) =
      (Game.loadNamed ⟨0⟩ (.str "forest.map") >>= fun _ => pure ()).runOn (openedForest body) := by
    rw [Game.run_switchTo hclear rfl, Game.build, Game.run_openArea_bind]
    rfl
  have hreset : Game.reset.runOn (openedForest body) = (.ok (), openedForest body) := rfl
  have hread : (Game.readMap "forest.map").runOn (openedForest body) =
      (.ok (0 :: body), openedForest body) := by
    rfl
  have hl : (Game.loadNamed ⟨0⟩ (.str "forest.map")).runOn (openedForest body) =
      (Game.loadBinary ⟨0⟩ "forest.map" body).runOn (openedForest body) := by
    change (Game.loadFile ⟨0⟩ "forest.map").runOn (openedForest body) = _
    rw [Game.loadFile, Game.bind_ok hreset, Game.bind_ok hread]
    rfl
  rw [hopen, Game.snd_run_bind_pure, hl]

/-! A player on an open field, five tiles wide and high, with a diamond at the feet and a rock
beside. -/

def clearingBody : List UInt8 :=
  [1, 0, 0, 0, 5, 0, 0, 0, 5, 0, 0, 0] ++ List.replicate 50 0 ++ [48, 44, 49, 44, 49, 0] ++
    [55, 44, 49, 44, 50, 44, 49, 44, 49, 0] ++ [50, 44, 51, 44, 49, 0]

/-- A new game with the map file on its disk. -/
def beforeClearing : World :=
  { disk := { nodes := [(["content"], .folder), (["content", "maps"], .folder),
      (["content", "maps", "forest.map"], .file (.bytes (0 :: clearingBody)))] }
    scenes := [("Play", .play)] }

def openedClearing : World :=
  { beforeClearing with
    stage? := some "Play"
    log := [.line ("Switching to " ++ "Play")]
    areas := #[{}]
    area? := some ⟨0⟩ }

def clearing : World :=
  ((Game.loadBinary ⟨0⟩ "forest.map" clearingBody).runOn openedClearing).2

def laterClearing : World := ((Game.update ⟨0⟩).runOn clearing).2

lemma switchTo_clearing : ((Game.switchTo "Play").runOn beforeClearing).2 = clearing :=
  switchTo_forest clearingBody

lemma clearing_facts :
    clearing.bodies = [⟨25⟩, ⟨31⟩] ∧ clearing.triggers = [⟨28⟩] ∧ clearing.usables = [⟨32⟩] ∧
      laterClearing.bodies = [⟨25⟩, ⟨31⟩] ∧ laterClearing.triggers = [] := by
  decide +kernel

/-- The diamond is no longer registered when the player has picked it up, and all registers hold what
is in the area. -/
theorem registers_hold_area_clearing : clearing.Reached ∧ clearing.triggers = [⟨28⟩] ∧
      clearing.triggers = clearing.live.filter (clearing.partIs Part.isTrigger) ∧
      laterClearing.Reached ∧ laterClearing.triggers = [] ∧ laterClearing.bodies = [⟨25⟩, ⟨31⟩] ∧
      laterClearing.bodies = laterClearing.live.filter (laterClearing.partIs Part.isBody) := by
  have hnew : beforeClearing.IsNew := ⟨rfl, rfl, rfl, rfl, rfl, rfl, rfl, rfl⟩
  have hreached : clearing.Reached := by
    rw [← switchTo_clearing]
    exact .step (.new hnew) (.switchTo "Play")
  have hlater : laterClearing.Reached := .step hreached (.update ⟨0⟩)
  obtain ⟨-, htriggers, -, hbodies', htriggers'⟩ := clearing_facts
  exact ⟨hreached, htriggers, hreached.registers_hold_area.2.1.1, hlater, htriggers', hbodies',
    hlater.registers_hold_area.1.1⟩

end World

end TileQuest
