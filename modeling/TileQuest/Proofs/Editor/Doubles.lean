import TileQuest.Proofs.Editor.Places

/-!
# Two entities on one tile

An entity that is to be placed on a tile that is taken is deleted again, and when it is deleted it
frees the tile, although another entity is there. From then on that other entity is exposed: the
next one is placed on the same tile. So of three entities that are placed on one tile, the first
and the third stay (`World.plot_doubled`).
-/

namespace TileQuest

variable {w : World} {a : AreaId} {tile tile' : Int × Int}
variable {lines : List String} {mouseX mouseY : Json}

namespace World

variable {rule rule' : Rule} {w' : World} {seating : Seating} {taken : List Scalar}

/-! ## Entities that are apart -/

/-- No two entities of the editor are in the same place. -/
def Apart (w : World) : Prop :=
  ∀ e ∈ w.present, ∀ e' ∈ w.present, w.IsStandIn e → w.IsStandIn e' →
    w.entities[e.index]?.map placeOf = w.entities[e'.index]?.map placeOf → e = e'

def Exposed (w : World) (tile : Int × Int) : Prop :=
  (∃ e ∈ w.present, w.IsStandIn e ∧ w.IsAt e tile) ∧ w.taken.any (tileKey tile).same = false

lemma isPlaceholder_eq (p : Part) : p.isPlaceholder = true ↔ p.gist = .placeholder := by
  cases p with
  | combat c => simp [Part.isPlaceholder, Part.gist_combat]
  | _ => simp [Part.isPlaceholder, Part.gist]

lemma partIs_isPlaceholder {p : PartId} :
    w.partIs Part.isPlaceholder p = true ↔ w.gist? p = some .placeholder := by
  rw [partIs, gist?]
  cases w.parts[p.index]? with
  | none => simp
  | some o => simp [isPlaceholder_eq]

lemma Tied.exists_seating_iff (h : w.Tied) :
    (∃ p, w.seating w.live p tile) ↔ ∃ e ∈ w.present, w.IsStandIn e ∧ w.IsAt e tile := by
  constructor
  · rintro ⟨p, hp⟩
    obtain ⟨e, he, hmem, hat⟩ := h.isAt_of_seating hp
    exact ⟨e, he, ⟨p, hmem, partIs_isPlaceholder.2 hp.2.1⟩, hat⟩
  · rintro ⟨e, he, ⟨p, hp, htest⟩, en, hen, hx, hy⟩
    exact ⟨p, mem_live.2 ⟨e, he, hp⟩, partIs_isPlaceholder.1 htest, e, en, h.owned e p hp, hen, hx, hy⟩

/-- Only tiles are taken on which something is, and no two are on one tile. -/
def Rule.apart : Rule where
  tiled := True
  allows seating taken := keys.allows seating taken ∧
    ∀ p q tile, seating p tile → seating q tile → p = q
  loose h := absurd trivial h
  leave seating taken p key h hp hkey := ⟨keys.leave seating taken p key h.1 hp hkey,
    fun q q' tile hq hq' => h.2 q q' tile hq.2 hq'.2⟩

lemma AtRest.apart (h : w.AtRest .apart) : w.Apart := by
  rintro e he e' he' ⟨p, hp, htest⟩ ⟨p', hp', htest'⟩ hsame
  have hlive : p ∈ w.live := mem_live.2 ⟨e, he, hp⟩
  have hlive' : p' ∈ w.live := mem_live.2 ⟨e', he', hp'⟩
  have hg := partIs_isPlaceholder.1 htest
  have hg' := partIs_isPlaceholder.1 htest'
  obtain ⟨tile, hseat⟩ := h.seated trivial p hlive hg
  have hseat' : w.Seated p' tile := by
    obtain ⟨e0, en, hown, hen, hx, hy⟩ := hseat
    cases (h.owned e p hp).symm.trans hown
    rw [hen, Option.map_some] at hsame
    obtain ⟨en', hen', hplace⟩ := Option.map_eq_some_iff.1 hsame.symm
    obtain ⟨hx', hy'⟩ := Prod.mk.inj hplace
    exact ⟨e', en', h.owned e' p' hp', hen', hx'.trans hx, hy'.trans hy⟩
  cases h.ruled.2 p p' tile ⟨hlive, hg, hseat⟩ ⟨hlive', hg', hseat'⟩
  exact h.eq_of_mem_partsOf hp hp'

lemma AtRest.admits_of_not_exposed (h : w.AtRest .apart) (htile : ¬ w.Exposed tile) :
    Rule.apart.Admits (w.seating w.live) w.taken tile where
  enter hfree p hp := by
    have hnone (q : PartId) : ¬ w.seating w.live q tile := fun hq =>
      htile ⟨h.exists_seating_iff.1 ⟨q, hq⟩, hfree⟩
    refine ⟨Rule.keys_enter h.ruled.1 tile, fun q q' tile' hq hq' => ?_⟩
    rcases hq with hq | ⟨rfl, rfl⟩
    · rcases hq' with hq' | ⟨rfl, rfl⟩
      · exact h.ruled.2 q q' tile' hq hq'
      · exact absurd hq (hnone q)
    · rcases hq' with hq' | ⟨rfl, -⟩
      · exact absurd hq' (hnone q')
      · rfl
  refuse _ := ⟨Rule.keys_filter h.ruled.1 _, h.ruled.2⟩

/-! ## Maps that name no tile three times -/

/-- The keys of the tiles on which the editor puts the entities of the records, one after the
other. -/
def keysOf (lines : List String) : List Scalar :=
  lines.filterMap fun line => (MapFile.tileOf line).toOption.map tileKey

/-- No tile is named more than twice. -/
def Sparse (lines : List String) : Prop := ∀ k, (keysOf lines).count k ≤ 2

/-- What holds while records are loaded, of which these keys were named so far: an entity is exposed
only if its tile was named twice. -/
def Rule.loading (named : List Scalar) : Rule where
  tiled := True
  allows seating taken := keys.allows seating taken ∧
    (∀ p q tile tile', seating p tile → seating q tile' → tileKey tile = tileKey tile' → p = q) ∧
    ∀ p tile, seating p tile → tileKey tile ∈ named ∧
      (tileKey tile ∈ taken ∨ 2 ≤ named.count (tileKey tile))
  loose h := absurd trivial h
  leave seating taken p key h hp hkey := by
    obtain ⟨hkeys, hapart, hnamed⟩ := h
    refine ⟨keys.leave seating taken p key hkeys hp hkey,
      fun q q' tile tile' hq hq' => hapart q q' tile tile' hq.2 hq'.2, fun q tile hq => ?_⟩
    obtain ⟨hmem, htaken⟩ := hnamed q tile hq.2
    refine ⟨hmem, htaken.imp_left fun htaken => List.mem_filter.2 ⟨htaken, ?_⟩⟩
    -- whoever leaves has another key
    obtain ⟨tile', hp⟩ := hp
    have hne : ¬ tileKey tile = tileKey tile' := fun heq => hq.1 (hapart q p tile tile' hq.2 hp heq)
    rw [← hkey tile' hp, Bool.not_eq_true', Bool.eq_false_iff]
    exact fun hsame => hne (same_tileKey.1 hsame)

variable {named : List Scalar}

lemma any_same_iff (h : Rule.keys.allows seating taken) :
    taken.any (tileKey tile).same = true ↔ tileKey tile ∈ taken := by
  rw [List.any_eq_true]
  constructor
  · rintro ⟨k, hk, hsame⟩
    obtain ⟨p, tile', -, rfl⟩ := h k hk
    exact same_tileKey.1 hsame ▸ hk
  · exact fun hk => ⟨_, hk, same_tileKey.2 rfl⟩

lemma Rule.loading_admits
    (h : (loading named).allows seating taken) (hcnt : named.count (tileKey tile) < 2) :
    (loading (named ++ [tileKey tile])).Admits seating taken tile := by
  obtain ⟨hkeys, hapart, hnamed⟩ := h
  have hlater {p : PartId} {tile' : Int × Int} (hp : seating p tile') :
      tileKey tile' ∈ named ++ [tileKey tile] := List.mem_append_left _ (hnamed p tile' hp).1
  have hmore (k : Scalar) (hk : 2 ≤ named.count k) : 2 ≤ (named ++ [tileKey tile]).count k := by
    rw [List.count_append]
    omega
  refine ⟨fun hfree p hp => ?_, fun htaken => ?_⟩
  · have hnone {q : PartId} {tile' : Int × Int} (hq : seating q tile') :
        tileKey tile' ≠ tileKey tile := fun heq => by
      rcases (hnamed q tile' hq).2 with htaken | hcnt'
      · rw [heq, ← any_same_iff hkeys, hfree] at htaken
        cases htaken
      · rw [heq] at hcnt'
        omega
    refine ⟨keys_enter hkeys tile, ?_, ?_⟩
    · rintro q q' tile' tile'' (hq | ⟨rfl, rfl⟩) (hq' | ⟨rfl, rfl⟩) hkey
      · exact hapart q q' tile' tile'' hq hq' hkey
      · exact absurd hkey (hnone hq)
      · exact absurd hkey.symm (hnone hq')
      · rfl
    · rintro q tile' (hq | ⟨rfl, rfl⟩)
      · refine ⟨hlater hq, ((hnamed q tile' hq).2).imp (List.mem_append_left _) (hmore _)⟩
      · simp
  · refine ⟨keys_filter hkeys _, hapart, fun q tile' hq => ⟨hlater hq, ?_⟩⟩
    by_cases heq : tileKey tile' = tileKey tile
    · -- the tile is free now, and was named before
      have hbef : 0 < named.count (tileKey tile) :=
        List.count_pos_iff.2 (heq ▸ (hnamed q tile' hq).1)
      rw [heq, List.count_append, List.count_singleton_self]
      exact .inr (by omega)
    · refine ((hnamed q tile' hq).2).imp (fun hmem => List.mem_filter.2 ⟨hmem, ?_⟩) (hmore _)
      rw [Bool.not_eq_true', Bool.eq_false_iff]
      exact fun hsame => heq (same_tileKey.1 hsame)

lemma Rule.loading_append (h : (loading named).allows seating taken) (k : Scalar) :
    (loading (named ++ [k])).allows seating taken := by
  obtain ⟨hkeys, hapart, hnamed⟩ := h
  refine ⟨hkeys, hapart, fun p tile hp => ⟨List.mem_append_left _ (hnamed p tile hp).1, ?_⟩⟩
  refine ((hnamed p tile hp).2).imp_right fun hcnt => ?_
  rw [List.count_append]
  omega

lemma Settled.adopt (h : w.Settled rule a) (htiled : rule'.tiled → rule.tiled)
    (hruled : rule'.allows (w.seating w.live) w.taken) (hpast : rule'.Past w) : w.Settled rule' a :=
  ⟨⟨h.rest.toSound.adopt _ htiled hruled hpast, h.rest.here, h.rest.area⟩, h.area⟩

lemma Settled.apart_of_loading (h : w.Settled (.loading named) a) : w.Settled .apart a := by
  obtain ⟨hkeys, hapart, -⟩ := h.rest.ruled
  exact h.adopt id ⟨hkeys, fun p q tile hp hq => hapart p q tile tile hp hq rfl⟩ ⟨nofun, nofun⟩

end World

namespace Game

open World

variable {d : Disk}

lemma ends_loadRecords_sparse {named : List Scalar}
    (h : w.Settled (.loading named) a) (hsparse : ∀ k, (named ++ keysOf lines).count k ≤ 2) :
    Ends w (loadRecords a lines) (fun _ => Settled .apart a) (AtRest .apart) := by
  induction lines generalizing w named with
  | nil => exact .pure h.apart_of_loading
  | cons line lines ih =>
    obtain ⟨named', hw, hl, hnamed⟩ : ∃ named', w.Settled (.loading named') a ∧
        (∀ tile, MapFile.tileOf line = .ok tile →
          (Rule.loading named').Admits (w.seating w.live) w.taken tile) ∧
        named' ++ keysOf lines = named ++ keysOf (line :: lines) := by
      rw [keysOf, keysOf, List.filterMap_cons]
      cases htile : MapFile.tileOf line with
      | error fault => exact ⟨named, h, by simp, rfl⟩
      | ok tile =>
        have hcnt := hsparse (tileKey tile)
        rw [keysOf, List.filterMap_cons, htile] at hcnt
        simp only [Except.toOption, Option.map_some, List.count_append, List.count_cons_self]
          at hcnt
        refine ⟨named ++ [tileKey tile], h.adopt id (Rule.loading_append h.rest.ruled _)
          ⟨fun _ => False.elim, fun _ _ => False.elim⟩,
          ?_, ?_⟩
        · rintro _ ⟨⟩
          exact Rule.loading_admits h.rest.ruled (by omega)
        · simp [Except.toOption]
    refine Ends.bind (P := fun _ => Settled (.loading named') a) ?_ fun _ u hu =>
      ih hu (hnamed ▸ hsparse)
    refine Ends.tryCatch (ends_loadRecord hw hl) fun fault u hu => ?_
    exact .of_obeys (R := Settles (.loading named') a) (obeys_note _) (fun _ _ hv => hv hu)
      fun _ hv => (hv hu).apart_of_loading.rest

lemma loads_apart (hd : ∀ lines, d.Lists lines → Sparse lines) : Rule.apart.Loads d := by
  intro a lines w hls h
  have hlive : w.live = [] := by rw [live, h.empty, List.flatMap_nil]
  have hseating : w.seating w.live = fun _ _ => False := by rw [hlive, seating_nil]
  have hruled := h.rest.ruled
  have hloading : w.Settled (.loading []) a := by
    refine h.toSettled.adopt id ?_ ⟨fun _ => False.elim, fun _ _ => False.elim⟩
    rw [hseating] at hruled ⊢
    exact ⟨hruled.1, by simp, by simp⟩
  exact ends_loadRecords_sparse hloading (hd lines hls)

end Game

/-! ## Careful editing -/

/-- Nothing is placed on a tile whose entity is exposed, and no map is loaded that names a tile three
times. -/
def Edit.IsGentle (w : World) : Edit → Prop
  | place mouseX mouseY => ∀ tile, w.Aims mouseX mouseY tile → ¬ w.Exposed tile
  | edit => edit.isLoading = true → ∀ lines, w.disk.Lists lines → World.Sparse lines

namespace World

inductive Careful : World → Prop where
  | new {w : World} (h : w.IsNew) : Careful w
  | step {w : World} (h : Careful w) (edit : Edit) (hgentle : edit.IsGentle w) :
    Careful (edit.run.runOn w).2

lemma Careful.atRest (h : w.Careful) : w.AtRest .apart := by
  induction h with
  | new h => exact h.atRest ⟨nofun, nofun⟩ ⟨nofun, nofun⟩
  | @step w _ edit hgentle ih =>
    refine edit.atRest_run ih (fun hl => Game.loads_apart fun lines hls => ?_) ?_
    · cases edit with
      | place => cases hl
      | _ => exact hgentle hl lines hls
    · rintro x y rfl
      exact Game.ends_placeEntity ih fun tile haims => ih.admits_of_not_exposed (hgentle tile haims)

lemma Aims.unique (h : w.Aims mouseX mouseY tile)
    (h' : w.Aims mouseX mouseY tile') : tile' = tile := by
  obtain ⟨x, y, hpoint, hcol, hrow⟩ := h.point
  obtain ⟨x', y', hpoint', hcol', hrow'⟩ := h'.point
  cases hpoint.symm.trans hpoint'
  exact Prod.ext (Except.ok.inj (hcol'.symm.trans hcol))
    (Except.ok.inj (hrow'.symm.trans hrow))

lemma AtRest.not_apart_of_exposed {rule : Rule} (h : w.AtRest rule)
    (haims : w.Aims mouseX mouseY tile) (hexposed : w.Exposed tile) :
    ¬ ((Game.placeEntity mouseX mouseY).runOn w).2.Apart := by
  obtain ⟨⟨e, he, hstandIn, en, hen, hx, hy⟩, hfree⟩ := hexposed
  obtain ⟨w', e', hrun, hgains⟩ := Game.gains_placeEntity h haims hfree
  obtain ⟨en', hen', hx', hy'⟩ := hgains.isAt
  rw [hrun]
  intro hapart
  have hmem : e ∈ w'.present := hgains.present ▸ List.mem_append_left _ he
  have hmem' : e' ∈ w'.present := hgains.present ▸ List.mem_append_right _ (.head _)
  have heq : e = e' := by
    refine hapart e hmem e' hmem' ((hgains.standIns e he).2 hstandIn) hgains.standIn ?_
    rw [hgains.entities e he, hen, hen', Option.map_some, Option.map_some, placeOf, placeOf, hx, hy,
      hx', hy']
  exact hgains.new (heq ▸ he)

/-- **No two entities of the editor are in one place, as long as everything was done with care.**
A click brings two of them together exactly if the entity on its tile is exposed. -/
theorem Careful.stand_ins_apart (h : w.Careful) :
    w.Apart ∧ ∀ mouseX mouseY tile, w.Aims mouseX mouseY tile →
      (((Game.placeEntity mouseX mouseY).runOn w).2.Apart ↔ ¬ w.Exposed tile) := by
  refine ⟨h.atRest.apart, fun mouseX mouseY tile haims => ⟨fun hapart hexposed => ?_, fun htile => ?_⟩⟩
  · exact h.atRest.not_apart_of_exposed haims hexposed hapart
  · have hgentle : Edit.IsGentle w (.place mouseX mouseY) := fun tile' haims' =>
      haims.unique haims' ▸ htile
    exact (h.step (.place mouseX mouseY) hgentle).atRest.apart

lemma sparse_plot (h : beforePlot.disk.Lists lines) : Sparse lines := by
  obtain ⟨path, data, hread, hlists⟩ := h
  obtain ⟨spot, hmem⟩ := Disk.mem_nodes_of_read hread
  obtain ⟨-, rfl⟩ : spot = ["content", "maps", "a.map"] ∧ data = .bytes (0 :: plotBody) := by
    simpa [beforePlot] using hmem
  cases hlists with
  | binary first tiles records =>
    cases first
    have hts : MapFile.readTiles plotBody = .ok ({ rows := [[.ofInt 1]] }, []) := by
      decide +kernel
    cases hts.symm.trans tiles
    have hls : MapFile.readRecords [] = .ok [] := by decide +kernel
    cases hls.symm.trans records
    exact fun k => Nat.zero_le 2
  | text decoded divided records =>
    have hbad : (MapFile.readText (0 :: plotBody) >>= MapFile.halves).isOk = false := by
      decide +kernel
    rw [FileData.content] at decoded
    rw [decoded, ok_bind, divided] at hbad
    cases hbad

lemma careful_stonyPlot : stonyPlot.Careful := by
  have hplot : plot.Careful := by
    rw [← switchTo_plot]
    exact .step (.new isNew_beforePlot) (.switchTo "EditorEditMap") fun _ _ => sparse_plot
  refine .step hplot (.place (.num (.int 0)) (.num (.int 0))) fun tile _ hexposed => ?_
  have hpres : plot.present = [] := by decide +kernel
  obtain ⟨⟨e, he, -⟩, -⟩ := hexposed
  rw [hpres] at he
  cases he

theorem stand_ins_apart_plot : stonyPlot.Careful ∧
    ((Game.placeEntity (.num (.int 0)) (.num (.int 0))).runOn stonyPlot).2.Apart := by
  obtain ⟨-, -, hcamera, hentity, hmap⟩ := stonyPlot_facts
  have haims : stonyPlot.Aims (.num (.int 0)) (.num (.int 0)) (0, 0) :=
    aims_of_facts hcamera hentity hmap (by decide +kernel) (by decide +kernel)
  refine ⟨careful_stonyPlot, (careful_stonyPlot.stand_ins_apart.2 _ _ _ haims).2 fun hexposed => ?_⟩
  have htaken : stonyPlot.taken.any (tileKey (0, 0)).same = true := by decide +kernel
  cases htaken.symm.trans hexposed.2

/-- The map after two more rocks were to be placed on its tile. -/
def doubledPlot : World :=
  let again : Game Unit := Game.placeEntity (.num (.int 0)) (.num (.int 0))
  (again.runOn (again.runOn stonyPlot).2).2

/-- **Of three rocks that are placed on one tile, two stay.** -/
theorem plot_doubled : doubledPlot.Edited ∧ ¬ doubledPlot.Apart := by
  refine ⟨.step (.step edited_stonyPlot (.place _ _)) (.place _ _), fun hapart => ?_⟩
  have hfacts : (⟨7⟩ : EntityId) ∈ doubledPlot.present ∧ (⟨9⟩ : EntityId) ∈ doubledPlot.present ∧
      doubledPlot.IsStandIn ⟨7⟩ ∧ doubledPlot.IsStandIn ⟨9⟩ ∧
      doubledPlot.entities[7]?.map placeOf = doubledPlot.entities[9]?.map placeOf := by
    decide +kernel
  obtain ⟨hfirst, hthird, hstandIn, hstandIn', hplace⟩ := hfacts
  cases hapart _ hfirst _ hthird hstandIn hstandIn' hplace

end World

end TileQuest
