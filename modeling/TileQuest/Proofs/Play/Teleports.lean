import TileQuest.Proofs.Registers.Frames

/-!
# One teleporter after another

At the end of a frame the player touches the triggers one after the other, by their positions in
the register. A teleporter takes everything down and loads another area, and the walk goes on at
the next position among the triggers of that area, with the body that the player had before. So
after a teleporter another one is touched, and a further area is loaded, if it stands behind that
position and meets the body where it was: `World.Reached.updatePlayer_teleports_once_iff`.
-/

namespace TileQuest

variable {rule : Rule} {w v u : World} {body t : PartId} {me : EntityId} {i : Nat}

/-- A trigger that leads to an area. -/
def Part.isTeleporter : Part → Bool
  | trigger _ (.teleporter ..) => true
  | _ => false

namespace World

def Meets (w : World) (body t : PartId) : Prop :=
  (Game.collides body t).runOn w = (.ok true, w)

def Misses (w : World) (body t : PartId) : Prop :=
  (Game.collides body t).runOn w = (.ok false, w)

/-- The trigger leads to an area. -/
def IsTeleporter (w : World) (t : PartId) : Prop := w.partIs Part.isTeleporter t = true

lemma isTeleporter_iff : w.IsTeleporter t ↔ ∃ o hitbox file column row,
    w.parts[t.index]? = some o ∧ o.part = .trigger hitbox (.teleporter file column row) := by
  constructor
  · intro h
    obtain ⟨o, ho⟩ : ∃ o, w.parts[t.index]? = some o :=
      ⟨_, Array.getElem?_eq_getElem (lt_of_partIs h)⟩
    rw [IsTeleporter, partIs_of ho] at h
    cases hp : o.part with
    | trigger hitbox form =>
      cases form with
      | teleporter file column row => exact ⟨o, hitbox, file, column, row, ho, hp⟩
      | _ => rw [hp] at h; cases h
    | _ => rw [hp] at h; cases h
  · rintro ⟨o, hitbox, file, column, row, ho, hp⟩
    rw [IsTeleporter, partIs_of ho, hp]
    rfl

def Passes (w : World) (body : PartId) (position : Nat) : Prop :=
  ∀ t ∈ w.triggers.drop position, w.Misses body t ∨ w.Meets body t ∧ ¬ w.IsTeleporter t

/-- The walk over the triggers has come to a position in a world, and no teleporter was touched on
the way. -/
inductive Walks (body : PartId) (me : EntityId) (w : World) : Nat → World → Prop where
  /-- At the first position. -/
  | start : Walks body me w 0 w
  | miss {i : Nat} {v : World} {t : PartId} (h : Walks body me w i v)
    (ht : v.triggers[i]? = some t) (hmisses : v.Misses body t) : Walks body me w (i + 1) v
  /-- The body meets the trigger, which is no teleporter. -/
  | touch {i : Nat} {v u : World} {t : PartId} (h : Walks body me w i v)
    (ht : v.triggers[i]? = some t) (hmeets : v.Meets body t) (hplain : ¬ v.IsTeleporter t)
    (hrun : (Game.touch t me).runOn v = (.ok (), u)) : Walks body me w (i + 1) u

lemma AtRest.exists_trigger (h : w.AtRest rule) (ht : t ∈ w.triggers) :
    ∃ o hitbox form, w.parts[t.index]? = some o ∧ o.part = .trigger hitbox form := by
  have hregistered : w.triggers = w.live.filter (w.partIs Part.isTrigger) := h.registered .triggers
  rw [hregistered, List.mem_filter] at ht
  obtain ⟨hlive, htrigger⟩ := ht
  obtain ⟨g, hg, -⟩ := h.ready t hlive
  obtain ⟨o, ho, -⟩ := gist?_eq_some.1 hg
  rw [partIs_of ho] at htrigger
  cases hp : o.part with
  | trigger hitbox form => exact ⟨o, hitbox, form, ho, hp⟩
  | _ => rw [hp] at htrigger; cases htrigger

end World

namespace Game

open World

/-! ## The walk over the triggers -/

lemma run_touchFrom_none (h : w.triggers[i]? = none) (rounds : Nat) :
    (touchFrom body me (rounds + 1) i).runOn w = (.ok (), w) := by
  rw [touchFrom, run_get_bind, h]
  rfl

lemma run_touchFrom_misses (h : w.triggers[i]? = some t) (hmisses : w.Misses body t)
    (rounds : Nat) :
    (touchFrom body me (rounds + 1) i).runOn w = (touchFrom body me rounds (i + 1)).runOn w := by
  rw [touchFrom, run_get_bind, h]
  exact bind_ok hmisses

lemma run_touchFrom_meets (h : w.triggers[i]? = some t) (hmeets : w.Meets body t)
    (hrun : (touch t me).runOn w = (.ok (), u)) (rounds : Nat) :
    (touchFrom body me (rounds + 1) i).runOn w = (touchFrom body me rounds (i + 1)).runOn u := by
  rw [touchFrom, run_get_bind, h]
  exact (bind_ok hmeets).trans (bind_ok hrun)

lemma shed_touch (hplain : ¬ w.IsTeleporter t) (hrun : (touch t me).runOn w = (.ok (), u)) :
    Shed w u := by
  obtain ⟨p, hpart, hrun⟩ := (obeys_part t).seen hrun
  obtain ⟨⟨o, ho, rfl⟩, -⟩ := run_part_eq_ok.1 hpart
  cases hp : o.part with
  | trigger hitbox form =>
    rw [hp] at hrun
    cases form with
    | plain =>
      cases hrun
      exact Std.Refl.refl w
    | teleporter file column row => exact absurd (isTeleporter_iff.2 ⟨o, hitbox, file, column, row, ho, hp⟩) hplain
    | dropped item quantity =>
      have hshed := (keeps_pickUp ho hp item quantity me).self.holds
      rwa [show (pickUp t hitbox item quantity me).runOn w = (.ok (), u) from hrun] at hshed
  | _ => rw [hp] at hrun; cases hrun

end Game

namespace World

section

variable (h : w.Walks body me i v)
include h

lemma Walks.triggers_le : v.triggers.length ≤ w.triggers.length := by
  induction h with
  | start => exact le_rfl
  | miss _ _ _ ih => exact ih
  | touch _ _ _ hplain hrun ih =>
    exact (Game.shed_touch hplain hrun).triggers.length_le.trans ih

lemma Walks.position_le : i ≤ w.triggers.length := by
  have hlt {i : Nat} {v : World} {t : PartId} (h : w.Walks body me i v)
      (ht : v.triggers[i]? = some t) : i < w.triggers.length :=
    (List.getElem?_eq_some_iff.1 ht).1.trans_le h.triggers_le
  cases h with
  | start => exact Nat.zero_le _
  | miss h ht _ => exact hlt h ht
  | touch h ht _ _ _ => exact hlt h ht

lemma Walks.atRest (hw : w.AtRest .any) : v.AtRest .any := by
  induction h with
  | start => exact hw
  | miss _ _ _ ih => exact ih
  | @touch _ _ _ t _ _ _ _ hrun ih =>
    have hkept : Game.Obeys (Kept .any) (Game.touch t me) := Game.obeys_touch t me
    exact hkept.of_run hrun ih

lemma Walks.run_touchFrom (rounds : Nat) :
    (Game.touchFrom body me (i + rounds) 0).runOn w = (Game.touchFrom body me rounds i).runOn v := by
  induction h generalizing rounds with
  | start => rw [Nat.zero_add]
  | miss _ ht hmisses ih =>
    rw [Nat.add_right_comm, Nat.add_assoc, ih]
    exact Game.run_touchFrom_misses ht hmisses rounds
  | touch _ ht hmeets _ hrun ih =>
    rw [Nat.add_right_comm, Nat.add_assoc, ih]
    exact Game.run_touchFrom_meets ht hmeets hrun rounds

lemma Walks.run_touchAll :
    ∃ rounds, (Game.touchAll body me).runOn w = (Game.touchFrom body me (rounds + 1) i).runOn v := by
  have hle := h.position_le
  have hrounds : w.triggers.length + Game.loadBound w =
      i + (w.triggers.length + Game.loadBound w - i - 1 + 1) := by
    rw [Game.loadBound]
    omega
  refine ⟨w.triggers.length + Game.loadBound w - i - 1, ?_⟩
  rw [Game.touchAll, Game.run_get_bind, hrounds, h.run_touchFrom, ← hrounds]

end

end World

namespace Game

open World

/-! ## After a teleporter -/

lemma isBare_of_touch (h : v.AtRest rule) (hreal : v.NoStandIns) (hme : me ∈ v.present)
    (ht : v.IsTeleporter t) (hrun : (touch t me).runOn v = (.ok (), u)) : u.IsBare me := by
  obtain ⟨o, hitbox, file, column, row, ho, hp⟩ := isTeleporter_iff.1 ht
  rw [touch, bind_ok (run_part ho), hp] at hrun
  obtain ⟨column, -, hrun⟩ := (Obeys.lift _).seen hrun
  obtain ⟨row, -, hrun⟩ := (Obeys.lift _).seen hrun
  obtain ⟨a, ha, hrun⟩ := obeys_currentArea.seen hrun
  obtain ⟨_, v1, hl, hrun⟩ := run_bind_eq_ok.1 hrun
  have hsett : v1.Settled v.aftermath a :=
    (ends_loadNamed_play h hreal (run_currentArea_eq_ok.1 ha).1 file).ok _ _ hl
  have hloose : ¬ v.aftermath.tiled := id
  have hrest : u.AtRest v.aftermath := (kept_arrive hloose a _ _).of_run hrun hsett.rest
  exact hrest.past.gone me hme

lemma run_touch_of_isBare (h : u.AtRest rule) (ht : t ∈ u.triggers) (hme : u.IsBare me)
    (hplain : ¬ u.IsTeleporter t) : (touch t me).runOn u = (.ok (), u) := by
  obtain ⟨o, hitbox, form, ho, hp⟩ := h.exists_trigger ht
  rw [touch, bind_ok (run_part ho), hp]
  cases form with
  | plain => rfl
  | teleporter file column row => exact absurd (isTeleporter_iff.2 ⟨o, hitbox, file, column, row, ho, hp⟩) hplain
  | dropped item quantity =>
    have hnob : (hasPart me Part.isPlayer).runOn u = (.ok false, u) := by
      obtain ⟨hth, hps⟩ := hme
      have hen := Array.getElem?_eq_getElem hth
      rw [World.partsOf, hen] at hps
      rw [hasPart, bind_ok (run_find? hen _), show u.entities[me.index].parts = [] from hps]
      rfl
    exact (bind_ok hnob).trans rfl

lemma snd_run_touchFrom_of_passes (h : u.AtRest rule) (hme : u.IsBare me)
    (hpasses : u.Passes body i) (rounds : Nat) : ((touchFrom body me rounds i).runOn u).2 = u := by
  induction rounds generalizing i with
  | zero => rfl
  | succ rounds ih =>
    rcases ht : u.triggers[i]? with _ | t
    · rw [run_touchFrom_none ht]
    · have hrest : u.Passes body (i + 1) := fun t' ht' =>
        hpasses t' (List.drop_subset_drop_left _ (Nat.le_succ i) ht')
      have hmem : t ∈ u.triggers.drop i :=
        List.mem_of_getElem? (i := 0) (by rw [List.getElem?_drop, Nat.add_zero, ht])
      rcases hpasses t hmem with hmisses | ⟨hmeets, hplain⟩
      · rw [run_touchFrom_misses ht hmisses]
        exact ih hrest
      · rw [run_touchFrom_meets ht hmeets
          (run_touch_of_isBare h (List.mem_of_getElem? ht) hme hplain)]
        exact ih hrest

lemma loads_lt_of_touch (ht : w.IsTeleporter t) (hrun : (touch t me).runOn w = (.ok (), u)) :
    w.loads < u.loads := by
  obtain ⟨o, hitbox, file, column, row, ho, hp⟩ := isTeleporter_iff.1 ht
  rw [touch, bind_ok (run_part ho), hp] at hrun
  obtain ⟨column, -, hrun⟩ := (Obeys.lift _).seen hrun
  obtain ⟨row, -, hrun⟩ := (Obeys.lift _).seen hrun
  obtain ⟨a, ha, hrun⟩ := obeys_currentArea.seen hrun
  obtain ⟨_, v1, hl, hrun⟩ := run_bind_eq_ok.1 hrun
  exact (grew_loadNamed a file w v1 () hl).trans_le
    ((grows_arrive a _ _).of_run hrun).holds.loads_le

lemma loads_lt_of_not_passes (h : u.AtRest rule) (hme : u.IsBare me)
    (hpasses : ¬ u.Passes body i) {rounds : Nat} {z : World}
    (hrun : (touchFrom body me rounds i).runOn u = (.ok (), z)) : u.loads < z.loads := by
  induction rounds generalizing i with
  | zero => cases hrun
  | succ rounds ih =>
    rcases ht : u.triggers[i]? with _ | t
    · rw [run_touchFrom_none ht] at hrun
      refine absurd (fun t ht' => ?_) hpasses
      rw [List.drop_eq_nil_of_le (List.getElem?_eq_none_iff.1 ht)] at ht'
      cases ht'
    rw [touchFrom, run_get_bind, ht] at hrun
    obtain ⟨meets, hcoll, hrun⟩ := (obeys_collides body t).seen hrun
    have hdrop : u.triggers.drop i = t :: u.triggers.drop (i + 1) := by
      obtain ⟨hlt, rfl⟩ := List.getElem?_eq_some_iff.1 ht
      exact List.drop_eq_getElem_cons hlt
    -- the trigger at this position passes, and the teleporter comes later, or it is one
    by_cases hhere : u.Misses body t ∨ u.Meets body t ∧ ¬ u.IsTeleporter t
    · have hlater : ¬ u.Passes body (i + 1) := fun hlater => hpasses fun t' ht' => by
        rw [hdrop, List.mem_cons] at ht'
        rcases ht' with rfl | ht'
        · exact hhere
        · exact hlater t' ht'
      refine ih hlater ?_
      rcases hhere with hmisses | ⟨hmeets, hplain⟩
      · cases hcoll.symm.trans hmisses
        exact hrun
      · cases hcoll.symm.trans hmeets
        obtain ⟨_, u', htouch, hrun⟩ := run_bind_eq_ok.1 hrun
        cases htouch.symm.trans (run_touch_of_isBare h (List.mem_of_getElem? ht) hme hplain)
        exact hrun
    · cases meets with
      | false => exact absurd (.inl hcoll) hhere
      | true =>
        have htele : u.IsTeleporter t := by
          by_contra hplain
          exact hhere (.inr ⟨hcoll, hplain⟩)
        obtain ⟨_, u', htouch, hrun⟩ := run_bind_eq_ok.1 hrun
        have hcalm : Obeys Calm (touchFrom body me rounds (i + 1)) := obeys_touchFrom _ _ _ _
        exact (loads_lt_of_touch htele htouch).trans_le (hcalm.of_run hrun).loads_le

end Game

namespace World

/-- **After a teleporter no other one is touched exactly if none is met behind it.**  In a frame of
the player the walk over the triggers has come to a teleporter, the first one that is met, and it has
led to another area. If from the next position on the old body meets no teleporter of that area, the
frame changes nothing any more. Otherwise a further area is loaded, unless the frame breaks off. -/
theorem Reached.updatePlayer_teleports_once_iff (h : w.Reached) {id : PartId} {v₀ : World}
    (hstride : (Game.stride id).runOn w = (.ok (body, me), v₀)) (hwalks : v₀.Walks body me i v)
    (hreal : v.NoStandIns) (hme : me ∈ v.present) (ht : v.triggers[i]? = some t)
    (hteleporter : v.IsTeleporter t) (hmeets : v.Meets body t)
    (hrun : (Game.touch t me).runOn v = (.ok (), u)) :
    (u.Passes body (i + 1) → ((Game.updatePlayer id).runOn w).2 = u) ∧
      ∀ z, (Game.updatePlayer id).runOn w = (.ok (), z) →
        (z.loads = u.loads ↔ u.Passes body (i + 1)) := by
  have hkept : Game.Obeys (Kept .any) (Game.touch t me) := Game.obeys_touch t me
  have hv : v.AtRest .any := hwalks.atRest ((Game.obeys_stride id).of_run (R := Kept .any) hstride h.atRest)
  have hu : u.AtRest .any := hkept.of_run hrun hv
  have hbare := Game.isBare_of_touch hv hreal hme hteleporter hrun
  obtain ⟨rounds, hall⟩ := hwalks.run_touchAll
  have hframe : (Game.updatePlayer id).runOn w = (Game.touchFrom body me rounds (i + 1)).runOn u := by
    rw [Game.updatePlayer_eq, Game.bind_ok hstride]
    exact hall.trans (Game.run_touchFrom_meets ht hmeets hrun rounds)
  have hsame (hpasses : u.Passes body (i + 1)) : ((Game.updatePlayer id).runOn w).2 = u := by
    rw [hframe]
    exact Game.snd_run_touchFrom_of_passes hu hbare hpasses rounds
  refine ⟨hsame, fun z hz => ⟨fun hloads => ?_, fun hpasses => ?_⟩⟩
  · by_contra hmet
    rw [hframe] at hz
    exact (Game.loads_lt_of_not_passes hu hbare hmet hz).ne' hloads
  · rw [← hsame hpasses, hz]

/-! A way that leads through three groves, each four tiles wide and high. In the second one a
teleporter stands where the player came from, or beside. -/

def groveBytes (records : List String) : List UInt8 :=
  0 :: ([1, 0, 0, 0, 4, 0, 0, 0, 4, 0, 0, 0] ++ List.replicate 32 0 ++
    records.flatMap fun line => line.toUTF8.toList ++ [0])

def beforeGroves (last : String) : World :=
  { disk := { nodes := [(["content"], .folder), (["content", "maps"], .folder),
      (["content", "maps", "forest.map"],
        .file (.bytes (groveBytes ["0,1,1", "4,1,2,b.map,2,1"]))),
      (["content", "maps", "b.map"],
        .file (.bytes (groveBytes ["0,0,0", "4,3,0,b.map,1,1", last]))),
      (["content", "maps", "c.map"], .file (.bytes (groveBytes ["0,0,0"])))] }
    scenes := [("Play", .play)] }

def groves (last : String) : World := ((Game.switchTo "Play").runOn (beforeGroves last)).2

def grovesStrode (last : String) : World := ((Game.stride ⟨0⟩).runOn (groves last)).2

/-- The game when the player has touched the teleporter of the first grove. -/
def grovesBeyond (last : String) : World :=
  ((Game.touch ⟨28⟩ ⟨23⟩).runOn (grovesStrode last)).2

lemma reached_groves (last : String) : (groves last).Reached :=
  .step (.new ⟨rfl, rfl, rfl, rfl, rfl, rfl, rfl, rfl⟩) (.switchTo "Play")

/-- The player stands on the teleporter of the first grove, and comes through it. -/
def AtGroves (last : String) : Prop :=
  ((Game.stride ⟨0⟩).runOn (groves last)).1 = .ok (⟨25⟩, ⟨23⟩) ∧
    (grovesStrode last).triggers = [⟨28⟩] ∧
    (∀ p ∈ (grovesStrode last).live, (grovesStrode last).partIs Part.isPlaceholder p = false) ∧
    ⟨23⟩ ∈ (grovesStrode last).present ∧ (grovesStrode last).partIs Part.isTeleporter ⟨28⟩ = true ∧
    ((Game.collides ⟨25⟩ ⟨28⟩).runOn (grovesStrode last)).1 = .ok true ∧
    ((Game.touch ⟨28⟩ ⟨23⟩).runOn (grovesStrode last)).1 = .ok ()

instance (last : String) : Decidable (AtGroves last) := inferInstanceAs (Decidable (_ ∧ _))

lemma meets_of_fst (h : ((Game.collides body t).runOn w).1 = .ok true) : w.Meets body t :=
  Prod.ext h (Game.obeys_collides (R := Eq) body t w).symm

lemma misses_of_fst (h : ((Game.collides body t).runOn w).1 = .ok false) : w.Misses body t :=
  Prod.ext h (Game.obeys_collides (R := Eq) body t w).symm

theorem updatePlayer_teleports_once_groves :
    AtGroves "4,3,3,c.map,2,2" ∧ (grovesBeyond "4,3,3,c.map,2,2").Passes ⟨25⟩ 1 ∧
      ((Game.updatePlayer ⟨0⟩).runOn (groves "4,3,3,c.map,2,2")).2 =
        grovesBeyond "4,3,3,c.map,2,2" := by
  have hfacts : AtGroves "4,3,3,c.map,2,2" ∧
      (grovesBeyond "4,3,3,c.map,2,2").triggers.drop 1 = [⟨60⟩] ∧
      ((Game.collides ⟨25⟩ ⟨60⟩).runOn (grovesBeyond "4,3,3,c.map,2,2")).1 = .ok false := by
    decide +kernel
  obtain ⟨hgroves, hdrop, hmisses⟩ := hfacts
  obtain ⟨hstride, htriggers, hreal, hme, hteleporter, hmeets, htouch⟩ := id hgroves
  have hpasses : (grovesBeyond "4,3,3,c.map,2,2").Passes ⟨25⟩ 1 := by
    intro t ht
    rw [hdrop] at ht
    cases List.mem_singleton.1 ht
    exact .inl (misses_of_fst hmisses)
  have hstrode : (Game.stride ⟨0⟩).runOn (groves "4,3,3,c.map,2,2") =
      (.ok (⟨25⟩, ⟨23⟩), grovesStrode "4,3,3,c.map,2,2") := Prod.ext hstride rfl
  have hbeyond : (Game.touch ⟨28⟩ ⟨23⟩).runOn (grovesStrode "4,3,3,c.map,2,2") =
      (.ok (), grovesBeyond "4,3,3,c.map,2,2") := Prod.ext htouch rfl
  have hfirst : (grovesStrode "4,3,3,c.map,2,2").triggers[0]? = some ⟨28⟩ := by rw [htriggers]; rfl
  refine ⟨hgroves, hpasses, ?_⟩
  exact ((reached_groves _).updatePlayer_teleports_once_iff hstrode .start (.of_partIs hreal) hme
    hfirst hteleporter (meets_of_fst hmeets) hbeyond).1 hpasses

/-- In the second grove the player comes to a teleporter by the place in the first one, and goes on
to the third one. -/
theorem updatePlayer_teleports_twice_groves :
    AtGroves "4,1,2,c.map,2,2" ∧ ((Game.updatePlayer ⟨0⟩).runOn (groves "4,1,2,c.map,2,2")).1 = .ok () ∧
      (grovesBeyond "4,1,2,c.map,2,2").loads <
        ((Game.updatePlayer ⟨0⟩).runOn (groves "4,1,2,c.map,2,2")).2.loads := by
  decide +kernel

end World

end TileQuest
