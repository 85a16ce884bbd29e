import TileQuest.Proofs.Bodies.Making
import TileQuest.Proofs.Widgets

/-!
# Loading areas and switching stages

Loading an area clears everything away before it lays the ground and makes entities, and so does
switching to another stage before it builds the scene. So unless there is new ground or a new area,
either no body is registered in the end or nothing moved (`World.Calm`).
-/

namespace TileQuest

variable {β α : Type} {v w : World}

namespace World

/-- No area and no ground is lost, and unless there is a new one, either no body is registered any
more or nothing moved. -/
structure Calm (w w' : World) : Prop where
  loads_le : w.loads ≤ w'.loads
  calm : w.loads < w'.loads ∨ w'.bodies = [] ∨ Still w w'

instance : IsPreorder World Calm where
  refl w := ⟨le_rfl, .inr (.inr (Still.refl w))⟩
  trans _ _ _ h h' := by
    refine ⟨h.loads_le.trans h'.loads_le, ?_⟩
    rcases h.calm with hgrew | hcalm
    · exact .inl (hgrew.trans_le h'.loads_le)
    rcases h'.calm with hgrew | hemp | hstill'
    · exact .inl (h.loads_le.trans_lt hgrew)
    · exact .inr (.inl hemp)
    rcases hcalm with hemp | hstill
    · exact .inr (.inl (List.sublist_nil.1 (hemp ▸ hstill'.bodies)))
    · exact .inr (.inr (hstill.trans hstill'))

instance : Game.Allows Still Calm := ⟨fun _ _ h => ⟨h.loads_le, .inr (.inr h)⟩⟩

lemma Calm.of_idle {w' : World} (hloads : v.loads ≤ w.loads) (hemp : w.bodies = [])
    (h : Idle w w') : Calm v w' := by
  refine ⟨hloads.trans h.loads_le, ?_⟩
  rcases h.bodies with hgrew | hsub
  · exact .inl (hloads.trans_lt hgrew)
  · exact .inr (.inl (List.sublist_nil.1 (hemp ▸ hsub)))

end World

namespace Game

open World

/-! ## Loading -/

lemma tame_layGround (a : AreaId) (map : TileMap) : Obeys (Orderly Tame) (layGround a map) :=
  fun w =>
    ⟨{ Tame.refl w with
      loads_le := by simp [layGround, modifyArea, loads, run_bind] }, .of_same rfl⟩

lemma loads_layGround (a : AreaId) (map : TileMap) (w : World) :
    w.loads < ((layGround a map).runOn w).2.loads := by
  simp only [layGround, modifyArea, loads, run_get_bind, run_modify_bind, run_modify,
    Array.size_modify, Array.size_push]
  omega

lemma calm_of_grown {g : Game α} {f : α → Game β}
    (hg : ∀ w, w.loads < (g.runOn w).2.loads) (hf : ∀ a, Obeys (Orderly Grows) (f a)) :
    Obeys Calm (g >>= f) := by
  intro w
  have hgrew : w.loads < ((g >>= f).runOn w).2.loads :=
    snd_run_bind (Q := fun u => w.loads < u.loads) (hg w) (fun _ hu => hu) fun a u _ hu =>
      hu.trans_le (hf a u).holds.loads_le
  exact ⟨hgrew.le, .inl hgrew⟩

lemma obeys_readMap {R : World → World → Prop} [IsPreorder World R] (file : String) :
    Obeys R (readMap file) :=
  .bind .get fun _ => .lifts fun _ => .pure _

/-- The relation lets ground be laid and entities be made on it. -/
class Landed (R : World → World → Prop) : Prop where
  lay : ∀ (a : AreaId) (map : TileMap) (f : Unit → Game Unit), (∀ u, Obeys (Orderly Grows) (f u)) →
    Obeys R (layGround a map >>= f)

instance : Landed (Orderly Grows) := ⟨fun a map _ hf => (tame_layGround a map).allow.bind hf⟩

instance : Landed Calm := ⟨fun a map _ hf => calm_of_grown (loads_layGround a map) hf⟩

section Landed

variable {R : World → World → Prop} [IsPreorder World R] [Allows (Orderly Still) R] [Landed R]

lemma obeys_loadBinary (a : AreaId) (file : String) (bytes : List UInt8) :
    Obeys R (loadBinary a file bytes) :=
  (obeys_modifyArea a fun _ => by rfl).bind fun _ => .lifts fun _ =>
    Landed.lay a _ _ fun _ => .lifts fun _ => grows_loadRecords a _

lemma obeys_loadText (a : AreaId) (file : String) : Obeys R (loadText a file) :=
  (obeys_print _).bind fun _ => obeys_reset.bind fun _ => (obeys_readMap file).bind fun _ =>
    .lifts fun _ => (obeys_modifyArea a fun _ => by rfl).bind fun _ =>
    .lifts fun _ => by
      split
      · exact (obeys_same fun _ => by rfl).bind fun _ => .throw _
      · exact Landed.lay a _ _ fun _ =>
          (obeys_modifyArea a fun _ => by rfl).bind fun _ => grows_loadRecords a _

lemma obeys_loadCleared (a : AreaId) (file : String) : Obeys R (do
    match ← readMap file with
    | [] => throw .badRecord
    | first :: bytes =>
      if 128 ≤ first then throw .notUtf8
      if first = 0 then loadBinary a file bytes else loadText a file) :=
  (obeys_readMap file).bind fun content => by
    cases content with
    | nil => exact .throw _
    | cons first bytes =>
      exact .ite (.throw _) (.ite (obeys_loadBinary a file bytes) (obeys_loadText a file))

lemma obeys_loadFile (a : AreaId) (file : String) : Obeys R (loadFile a file) :=
  obeys_reset.bind fun _ => obeys_loadCleared a file

lemma obeys_loadNamed (a : AreaId) (file : Json) : Obeys R (loadNamed a file) := by
  rw [loadNamed]
  split
  · exact obeys_loadFile a _
  · exact obeys_reset.bind fun _ => .throw _

end Landed

/-! ## There is new ground -/

/-- If the step completes, there is a new area or new ground. -/
def Grew {α : Type} (g : Game α) : Prop :=
  ∀ w w' a, g.runOn w = (.ok a, w') → w.loads < w'.loads

lemma Grew.throw (fault : Fault) : Grew (throw fault : Game α) := by
  intro w w' a hrun
  rw [run_throw] at hrun
  cases hrun

lemma Grew.before {g : Game α} {f : α → Game β} (hg : Grew g)
    (hf : ∀ a, Obeys (Orderly Grows) (f a)) : Grew (g >>= f) := by
  intro w w' b hrun
  obtain ⟨a, u, hrun', hrun⟩ := run_bind_eq_ok.1 hrun
  exact (hg w u a hrun').trans_le ((hf a).of_run hrun).holds.loads_le

lemma Grew.after {g : Game α} {f : α → Game β} (hg : Obeys (Orderly Grows) g)
    (hf : ∀ a, Grew (f a)) : Grew (g >>= f) := by
  intro w w' b hrun
  obtain ⟨a, u, hrun', hrun⟩ := run_bind_eq_ok.1 hrun
  exact (hg.of_run hrun').holds.loads_le.trans_lt (hf a u w' b hrun)

lemma grew_layGround (a : AreaId) (map : TileMap) : Grew (layGround a map) := by
  intro w w' u hrun
  have hlt := loads_layGround a map w
  rwa [hrun] at hlt

lemma grew_loadBinary (a : AreaId) (file : String) (bytes : List UInt8) :
    Grew (loadBinary a file bytes) :=
  .after (obeys_modifyArea a fun _ => by rfl) fun _ => .after (.lift _) fun _ =>
    (grew_layGround a _).before fun _ => .lifts fun _ => grows_loadRecords a _

lemma grew_loadText (a : AreaId) (file : String) : Grew (loadText a file) :=
  .after (obeys_print _) fun _ => .after obeys_reset fun _ => .after (obeys_readMap file) fun _ =>
    .after (.lift _) fun _ => .after (obeys_modifyArea a fun _ => by rfl) fun _ =>
    .after (.lift _) fun _ => by
      split
      · exact .after (obeys_same fun _ => by rfl) fun _ => .throw _
      · exact (grew_layGround a _).before fun _ =>
          (obeys_modifyArea a fun _ => by rfl).bind fun _ => grows_loadRecords a _

lemma grew_loadNamed (a : AreaId) (file : Json) : Grew (loadNamed a file) := by
  rw [loadNamed]
  split
  · refine .after obeys_reset fun _ => .after (obeys_readMap _) fun content => ?_
    cases content with
    | nil => exact .throw _
    | cons first bytes =>
      simp only
      split
      · exact .throw _
      · split
        · exact grew_loadBinary a _ bytes
        · exact grew_loadText a _
  · exact .after obeys_reset fun _ => .throw _

lemma ownBodies_of_loadNamed {a : AreaId} {file : Json}
    (h : (loadNamed a file).runOn v = (.ok (), w)) : w.OwnBodies := by
  rw [loadNamed] at h
  split at h
  · rename_i name _
    obtain ⟨_, v0, hreset, hrest⟩ := run_bind_eq_ok.1 h
    have hgrows : Orderly Grows v0 w := (obeys_loadCleared a name).of_run hrest
    have hraised := Raised.of_bodies_nil (bodies_of_reset hreset)
    exact (hgrows.holds.raised _ hraised).toOwnBodies
  · obtain ⟨_, v0, -, hrest⟩ := run_bind_eq_ok.1 h
    cases hrest

lemma calm_openArea (file : Json) (isEdited : Bool) : Obeys Calm (openArea file isEdited) := by
  refine .bind .get fun w0 => calm_of_grown (fun w => ?_) fun _ =>
    (obeys_loadNamed _ file).bind fun _ => .pure _
  simp only [run_modify, loads, Array.size_push]
  omega

/-! ## Building scenes -/

lemma idle_openArea (file : Json) (isEdited : Bool) : Obeys Idle (openArea file isEdited) := by
  intro w
  have h := calm_openArea file isEdited w
  refine ⟨h.loads_le, ?_⟩
  rcases h.calm with hgrew | hemp | hstill
  · exact .inl hgrew
  · exact .inr (hemp ▸ List.nil_sublist _)
  · exact .inr hstill.bodies

lemma obeys_buildEditor : Obeys Idle buildEditor :=
  (obeys_modifyEditor _).bind fun _ => .bind .get fun _ => (idle_openArea _ true).bind fun _ =>
    .bind (crafts_newEditorHelper _).steady.allow fun _ => (idle_spawn _ _ _).bind fun _ =>
    (obeys_placeToolButton _ _ _).bind fun _ => (obeys_placeToolButton _ _ _).bind fun _ =>
    (obeys_placeToolButton _ _ _).bind fun _ => (obeys_placeToolButton _ _ _).bind fun _ =>
    (obeys_placeToolButton _ _ _).bind fun _ => obeys_placeToolButton _ _ _

lemma obeys_build (scene : Scene) : Obeys Idle (build scene) := by
  cases scene with
  | menu => exact steady_buildMenu.allow
  | play => exact (idle_openArea _ false).bind fun _ => .pure _
  | chooser => exact steady_buildChooser.allow
  | editor => exact obeys_buildEditor
  | demo => exact steady_buildDemo.allow
  | blank => exact .pure _

lemma calm_switchTo (stage : String) : Obeys Calm (switchTo stage) := by
  intro w
  have hrest : Obeys Idle (do
      modify ({ · with stage? := some stage })
      let scene ← lookup (← get).scenes stage
      print ("Switching to " ++ stage)
      build scene) :=
    (obeys_same fun _ => by rfl).bind fun _ => .bind .get fun _ => .lifts fun _ =>
      (obeys_print _).bind fun _ => obeys_build _
  have hreset : Still w (reset.runOn w).2 := obeys_reset w
  exact snd_run_bind hreset (Allows.allows w) fun _ u hrun hu =>
    .of_idle hu.loads_le (bodies_of_reset hrun) (hrest u)

end Game

end TileQuest
