import TileQuest.Proofs.Rolls.Frames

/-!
# Whose turn it is in a frame

In a frame the active parts act one after the other. The walk over them goes by position, and what
acts may unregister parts, itself among them. When one goes that had its turn already, all that come
later move up, and the walk passes over as many of them as have gone (`Game.Turn.Overtakes`).
-/

namespace TileQuest

variable {p : PartId} {r : Roll}

/-! ## Where a part stands in a register -/

lemma idxOf_le_of_sublist {kept old : List PartId} (h : kept.Sublist old) (hnd : old.Nodup) (hp : p ∈ kept) : kept.idxOf p ≤ old.idxOf p := by
  induction h with
  | slnil => cases hp
  | @cons kept old a h ih =>
    have hne : a ≠ p := fun heq => (List.nodup_cons.1 hnd).1 (heq ▸ h.subset hp)
    rw [List.idxOf_cons_ne _ hne]
    exact Nat.le_succ_of_le (ih (List.nodup_cons.1 hnd).2 hp)
  | @cons_cons kept old a h ih =>
    by_cases heq : a = p
    · rw [heq, List.idxOf_cons_self]
      exact Nat.zero_le _
    · rw [List.idxOf_cons_ne _ heq, List.idxOf_cons_ne _ heq]
      refine Nat.succ_le_succ (ih (List.nodup_cons.1 hnd).2 ?_)
      exact (List.mem_cons.1 hp).resolve_left fun hpa => heq hpa.symm

lemma idxOf_of_getElem? {ids : List PartId} (hnd : ids.Nodup) {k : Nat}
    (h : ids[k]? = some p) : ids.idxOf p = k := by
  obtain ⟨hlt, rfl⟩ := List.getElem?_eq_some_iff.1 h
  exact hnd.idxOf_getElem k hlt

namespace World

variable {w w' : World} {p : PartId}

lemma Drafts.mem_of_mem (h : Drafts w w') (hp : p.index < w.parts.size)
    (hmem : p ∈ r.list w') : p ∈ r.list w := by
  obtain ⟨kept, added, hlist, hkept, -, hfr⟩ := h.refilled r
  rw [hlist] at hmem
  rcases List.mem_append.1 hmem with hmem | hmem
  · exact hkept.subset hmem
  · exact absurd (hfr p hmem).1 hp.not_ge

lemma Drafts.idxOf_le (h : Drafts w w') (hp : p.index < w.parts.size)
    (hnd : (r.list w).Nodup) (hmem : p ∈ r.list w') :
    (r.list w').idxOf p ≤ (r.list w).idxOf p := by
  obtain ⟨kept, added, hlist, hkept, -, hfr⟩ := h.refilled r
  rw [hlist] at hmem ⊢
  rcases List.mem_append.1 hmem with hmem | hmem
  · rw [List.idxOf_append_of_mem hmem]
    exact idxOf_le_of_sublist hkept hnd hmem
  · exact absurd (hfr p hmem).1 hp.not_ge

end World

namespace Game

open World

/-! ## Turns -/

structure Turn where
  position : Nat
  part : PartId
  before : World
  after : World

/-- A part was still to come, and then so many before it were unregistered that it no longer is. -/
def Turn.Overtakes (t : Turn) (p : PartId) : Prop :=
  t.position < t.before.active.idxOf p ∧ t.after.active.idxOf p ≤ t.position

instance (t : Turn) (p : PartId) : Decidable (t.Overtakes p) :=
  inferInstanceAs (Decidable (_ ∧ _))

/-- The turns of the walk from a position on, until there is nobody left or somebody's act breaks
off. -/
def turnsFrom : (rounds position : Nat) → World → List Turn
  | 0, _, _ => []
  | rounds + 1, position, w =>
    match w.active[position]? with
    | none => []
    | some id =>
      match (update id).runOn w with
      | (.ok (), u) => ⟨position, id, w, u⟩ :: turnsFrom rounds (position + 1) u
      | (.error _, u) => [⟨position, id, w, u⟩]

def turns (w : World) : List Turn :=
  turnsFrom (w.active.length + loadBound w) 0 w

variable {rounds position : Nat} {w v : World} {p : PartId}

lemma run_updateFrom_eq_ok (h : (updateFrom rounds position).runOn w = (.ok (), v)) :
    (w.active[position]? = none ∧ v = w ∧ turnsFrom rounds position w = []) ∨
      ∃ rest id u, rounds = rest + 1 ∧ w.active[position]? = some id ∧
        (update id).runOn w = (.ok (), u) ∧ (updateFrom rest (position + 1)).runOn u = (.ok (), v) ∧
        turnsFrom rounds position w = ⟨position, id, w, u⟩ :: turnsFrom rest (position + 1) u := by
  cases rounds with
  | zero => cases h
  | succ rest =>
    rw [updateFrom, run_get_bind] at h
    cases hid : w.active[position]? with
    | none =>
      rw [hid] at h
      cases h
      exact .inl ⟨rfl, rfl, by rw [turnsFrom, hid]⟩
    | some id =>
      rw [hid] at h
      obtain ⟨_, u, hupd, hrest⟩ := run_bind_eq_ok.1 h
      refine .inr ⟨rest, id, u, rfl, rfl, hupd, hrest, ?_⟩
      rw [turnsFrom, hid]
      simp only [hupd]

lemma run_forM_turnsFrom (h : (updateFrom rounds position).runOn w = (.ok (), v)) :
    (((turnsFrom rounds position w).map Turn.part).forM update).runOn w = (.ok (), v) := by
  induction rounds generalizing position w with
  | zero => cases h
  | succ rounds ih =>
    rcases run_updateFrom_eq_ok h with ⟨-, rfl, hturns⟩ | ⟨_, id, u, ⟨⟩, -, hupd, hrest, hturns⟩
    · rw [hturns]
      rfl
    · rw [hturns]
      change (update id >>= fun _ => ((turnsFrom rounds (position + 1) u).map Turn.part).forM update).runOn
        w = (.ok (), v)
      rw [bind_ok hupd]
      exact ih hrest

lemma idxOf_le_of_update (hw : w.Filed) {id : PartId} {u : World}
    (hupd : (update id).runOn w = (.ok (), u))
    (hrest : (updateFrom rounds position).runOn u = (.ok (), v)) (hp : p ∈ w.active)
    (hv : p ∈ v.active) : u.Filed ∧ p ∈ u.active ∧ u.active.idxOf p ≤ w.active.idxOf p := by
  have hdr : Drafts w u := (obeys_update id).of_run hupd
  have hold : p.index < w.parts.size := lt_of_mem_rollsOf (hw.sort .active p hp)
  have hu : p ∈ u.active := ((obeys_updateFrom (R := Drafts) _ _).of_run hrest).mem_of_mem (r := .active)
    (hold.trans_le hdr.parts_le) hv
  exact ⟨hw.of_drafts hdr, hu, hdr.idxOf_le (r := .active) hold (hw.nodup .active) hu⟩

section

variable (hw : w.Filed) (h : (updateFrom rounds position).runOn w = (.ok (), v)) (hp : p ∈ w.active) (hv : p ∈ v.active)
include hw h hp hv

lemma turnsFrom_passed (hpassed : w.active.idxOf p < position) :
    ((turnsFrom rounds position w).map Turn.part).count p = 0 ∧
      ∀ t ∈ turnsFrom rounds position w, ¬ t.Overtakes p := by
  induction rounds generalizing position w with
  | zero => cases h
  | succ rounds ih =>
    rcases run_updateFrom_eq_ok h with ⟨-, -, hturns⟩ | ⟨_, id, u, ⟨⟩, hid, hupd, hrest, hturns⟩
    · rw [hturns]
      exact ⟨List.count_nil, fun _ ht => absurd ht List.not_mem_nil⟩
    · obtain ⟨hw', hu, hup⟩ := idxOf_le_of_update hw hupd hrest hp hv
      have hne : id ≠ p := fun heq =>
        absurd (idxOf_of_getElem? (hw.nodup .active) (heq ▸ hid)) hpassed.ne
      obtain ⟨hcnt, hnone⟩ := ih hw' hrest hu (by omega)
      rw [hturns, List.map_cons, List.count_cons_of_ne hne, List.forall_mem_cons]
      exact ⟨hcnt, fun hover => absurd hover.1 (Nat.not_lt_of_gt hpassed), hnone⟩

lemma turnsFrom_coming (hcoming : position ≤ w.active.idxOf p) :
    ((turnsFrom rounds position w).map Turn.part).count p ≤ 1 ∧
      (((turnsFrom rounds position w).map Turn.part).count p = 1 ↔
        ∀ t ∈ turnsFrom rounds position w, ¬ t.Overtakes p) := by
  induction rounds generalizing position w with
  | zero => cases h
  | succ rounds ih =>
    have hlt : w.active.idxOf p < w.active.length := List.idxOf_lt_length_of_mem hp
    rcases run_updateFrom_eq_ok h with ⟨hnone, -, -⟩ | ⟨_, id, u, ⟨⟩, hid, hupd, hrest, hturns⟩
    · exact absurd (List.getElem?_eq_none_iff.1 hnone) (by omega)
    obtain ⟨hw', hu, hup⟩ := idxOf_le_of_update hw hupd hrest hp hv
    rw [hturns, List.map_cons, List.forall_mem_cons]
    by_cases hhere : w.active.idxOf p = position
    · -- it is the turn of the part
      obtain ⟨hcnt, hnone⟩ := turnsFrom_passed hw' hrest hu hv (by omega)
      have hself : id = p := by
        rw [← hhere, List.getElem?_eq_getElem hlt, List.getElem_idxOf hlt] at hid
        exact (Option.some.inj hid).symm
      rw [hself, List.count_cons_self, hcnt]
      exact ⟨le_rfl, iff_of_true rfl ⟨fun hover => hover.1.ne' hhere, hnone⟩⟩
    · have hne : id ≠ p := fun heq =>
        hhere (idxOf_of_getElem? (hw.nodup .active) (heq ▸ hid))
      rw [List.count_cons_of_ne hne]
      by_cases hover : u.active.idxOf p ≤ position
      · -- the turn overtakes the part
        obtain ⟨hcnt, -⟩ := turnsFrom_passed hw' hrest hu hv (by omega)
        rw [hcnt]
        refine ⟨Nat.zero_le _, iff_of_false nofun fun hnone => hnone.1 ⟨?_, hover⟩⟩
        exact Nat.lt_of_le_of_ne hcoming (Ne.symm hhere)
      · obtain ⟨hcnt, hiff⟩ := ih hw' hrest hu (by omega)
        exact ⟨hcnt, hiff.trans ⟨fun hnone => ⟨fun h => hover h.2, hnone⟩, fun h => h.2⟩⟩

end

lemma Turn.not_overtakes {t : Turn}
    (h : (t.before.active.take (t.position + 1)).IsPrefix t.after.active) (p : PartId) :
    ¬ t.Overtakes p := by
  rintro ⟨hcoming, hover⟩
  obtain ⟨rest, hrest⟩ := h
  have hmem : p ∉ t.before.active.take (t.position + 1) := fun hmem => by
    have hidx := List.idxOf_lt_length_of_mem hmem
    have hfst : (t.before.active.take (t.position + 1) ++
        t.before.active.drop (t.position + 1)).idxOf p = _ := List.idxOf_append_of_mem hmem
    rw [List.take_append_drop] at hfst
    rw [List.length_take] at hidx
    omega
  have hlen : t.position + 1 ≤ t.before.active.length :=
    hcoming.trans_le List.idxOf_le_length
  rw [← hrest, List.idxOf_append_of_notMem hmem, List.length_take] at hover
  omega

end Game

open Game

namespace World

/-- **Who acts in a frame.**  The walk over the active parts lets parts act, one after the other. A
part that is active from its beginning to its end acts once at most, and it acts exactly if no turn
overtakes it. So all of them act if nobody goes who had a turn already. -/
theorem Filed.acts_once_iff_not_overtaken {w v : World} (hw : w.Filed)
    (hrun : updateAll.runOn w = (.ok (), v)) :
    (((turns w).map Turn.part).forM update).runOn w = (.ok (), v) ∧
      (∀ p ∈ w.active, p ∈ v.active → ((turns w).map Turn.part).count p ≤ 1 ∧
        (((turns w).map Turn.part).count p = 1 ↔ ∀ t ∈ turns w, ¬ t.Overtakes p)) ∧
      ((∀ t ∈ turns w, (t.before.active.take (t.position + 1)).IsPrefix t.after.active) →
        ∀ p ∈ w.active, p ∈ v.active → ((turns w).map Turn.part).count p = 1) := by
  have hwalk : (updateFrom (w.active.length + loadBound w) 0).runOn w = (.ok (), v) := hrun
  refine ⟨run_forM_turnsFrom hwalk, fun p hp hv => ?_, fun hstay p hp hv => ?_⟩
  · exact turnsFrom_coming hw hwalk hp hv (Nat.zero_le _)
  · exact (turnsFrom_coming hw hwalk hp hv (Nat.zero_le _)).2.2 fun t ht =>
      Turn.not_overtakes (hstay t ht) p

/-! ## A monster is slain

A player with a sword in hand, and a monster beside that was there first and is hurt. -/

def lairBody : List UInt8 :=
  [1, 0, 0, 0, 5, 0, 0, 0, 5, 0, 0, 0] ++ List.replicate 50 0 ++
    [57, 44, 50, 44, 49, 44, 110, 112, 99, 95, 109, 97, 108, 101, 49, 46, 112, 110, 103, 0] ++
    [48, 44, 50, 44, 50, 0]

def emptyLair : World := { areas := #[{}], area? := some ⟨0⟩ }

/-- The area is loaded, the monster is hurt, and the player has a sword and clicks. -/
def setUpLair : Game Unit := do
  loadBinary ⟨0⟩ "lair.map" lairBody
  modifyCombat ⟨3⟩ ({ · with health := 20 })
  let _ ← give playerBag (ItemType.all.get ⟨3, by decide⟩) 1
  modifyBag playerBag fun b => { b with inventory := { b.inventory with equipped? := some 0 } }
  modifyInput fun i => { i with freshButtons := [1] }

/-- Before the blow. -/
def lair : World := (setUpLair.runOn emptyLair).2

lemma filed_lair : lair.Filed := by
  have hemp : emptyLair.Filed :=
    ⟨fun r => by cases r <;> exact List.nodup_nil, fun r p hp => by cases r <;> cases hp⟩
  refine hemp.of_drafts (Obeys.bind (obeys_loadBinary _ _ _) (fun _ => .bind
    (obeys_modifyCombat _ _) fun _ => .bind (obeys_give _ _ _) fun _ => .bind (obeys_modifyBag _ _)
    fun _ => obeys_modifyInput _) emptyLair)

lemma lair_facts : (updateAll.runOn lair).1.isOk = true ∧
    lair.active = [⟨1⟩, ⟨3⟩, ⟨5⟩, ⟨8⟩, ⟨29⟩, ⟨31⟩] ∧
    (updateAll.runOn lair).2.active = [⟨5⟩, ⟨8⟩, ⟨29⟩, ⟨31⟩] ∧
    (turns lair).map Turn.part = [⟨1⟩, ⟨3⟩, ⟨5⟩, ⟨31⟩] := by
  decide +kernel

/-- In the frame in which the player slays the monster, the player's ability to fight acts, since no
turn overtakes it. The turn of the player overtakes the look of the player. -/
theorem acts_once_lair : lair.Filed ∧ updateAll.runOn lair = (.ok (), (updateAll.runOn lair).2) ∧
    ((turns lair).map Turn.part).count ⟨31⟩ = 1 ∧ (∀ t ∈ turns lair, ¬ t.Overtakes ⟨31⟩) ∧
    ((turns lair).map Turn.part).count ⟨29⟩ = 0 ∧ ∃ t ∈ turns lair, t.Overtakes ⟨29⟩ := by
  obtain ⟨hok, hbefore, hafter, hturns⟩ := lair_facts
  have hrun := run_of_isOk hok
  obtain ⟨-, hacts, -⟩ := filed_lair.acts_once_iff_not_overtaken hrun
  have hfighter := hacts ⟨31⟩ (by simp [hbefore]) (by simp [hafter])
  have hlook := hacts ⟨29⟩ (by simp [hbefore]) (by simp [hafter])
  rw [hturns] at hfighter hlook ⊢
  refine ⟨filed_lair, hrun, by decide, hfighter.2.1 (by decide), by decide, ?_⟩
  by_contra hnone
  exact absurd (hlook.2.2 fun t ht hover => hnone ⟨t, ht, hover⟩) (by decide)

/-- The look of the player is active from the beginning of the frame to its end, and does not act
in it. -/
theorem lair_skips_look : lair.Filed ∧ ∃ v, updateAll.runOn lair = (.ok (), v) ∧
    ⟨29⟩ ∈ lair.active ∧ ⟨29⟩ ∈ v.active ∧ ⟨29⟩ ∉ (turns lair).map Turn.part := by
  obtain ⟨hok, hbefore, hafter, hturns⟩ := lair_facts
  refine ⟨filed_lair, _, run_of_isOk hok, ?_, ?_, ?_⟩
  · simp [hbefore]
  · simp [hafter]
  · rw [hturns]
    decide

end World

end TileQuest
