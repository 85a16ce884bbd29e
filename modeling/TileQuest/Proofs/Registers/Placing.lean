import TileQuest.Proofs.Registers.Player
import TileQuest.Proofs.Registers.Tools

/-!
# Coming to the area

What was built comes to the area with all its parts. What stands for an entity in the editor comes
there on a tile, and takes it; where the tile is taken, it is deleted again and the tile is free
from then on, whoever was there before. A rule for the places of the editor that puts up with both
(`World.Rule.Admits`) is followed afterwards.
-/

namespace TileQuest

variable {rule : Rule} {w0 w : World} {a : AreaId}

namespace World

/-! ## Rules that let entities come -/

namespace Rule

/-- Whatever becomes of an entity that is to be placed on a tile, the rule is followed. -/
structure Admits (rule : Rule) (seating : Seating) (taken : List Scalar) (tile : Int × Int) :
    Prop where
  enter : taken.any (tileKey tile).same = false → ∀ p, (∀ tile', ¬ seating p tile') →
    rule.allows (fun q tile' => seating q tile' ∨ q = p ∧ tile' = tile) (taken ++ [tileKey tile])
  refuse : taken.any (tileKey tile).same = true →
    rule.allows seating (taken.filter fun k => !k.same (tileKey tile))

/-- Entities may be placed anywhere. -/
class Open (rule : Rule) : Prop where
  admits : ∀ seating taken tile, rule.allows seating taken → rule.Admits seating taken tile

instance (tiled : Prop) : Open (free tiled) :=
  ⟨fun _ _ _ _ => ⟨fun _ _ _ => trivial, fun _ => trivial⟩⟩

instance : Open any := inferInstanceAs (Open (free False))

instance (gone : EntityId → Prop) (hunts : PartId → EntityId → Prop) : Open (without gone hunts) :=
  ⟨fun _ _ _ _ => ⟨fun _ _ _ => trivial, fun _ => trivial⟩⟩

def guest (rule : Rule) (x : PartId) : Rule where
  tiled := rule.tiled
  allows seating taken :=
    (∀ tile, seating x tile → rule.allows (fun q tile' => q ≠ x ∧ seating q tile')
      (taken.filter fun k => !k.same (tileKey tile))) ∧
    ((∀ tile, ¬ seating x tile) → rule.allows seating taken)
  loose h _ _ := ⟨fun _ _ => rule.loose h _ _, fun _ => rule.loose h _ _⟩
  leave seating taken p key := by
    rintro ⟨hgone, hrest⟩ ⟨tile, hp⟩ hkey
    by_cases hx : p = x
    · subst hx
      refine ⟨fun _ h => absurd rfl h.1, fun _ => ?_⟩
      rw [← hkey tile hp]
      exact hgone tile hp
    · refine ⟨fun tile' ⟨_, hx'⟩ => ?_, fun hnone => ?_⟩
      · have hleft := rule.leave _ _ p key (hgone tile' hx') ⟨tile, hx, hp⟩ fun tile' h =>
          hkey tile' h.2
        have hcomm : (fun q tile' => q ≠ p ∧ q ≠ x ∧ seating q tile') =
            fun q tile' => q ≠ x ∧ q ≠ p ∧ seating q tile' := by
          funext q tile'
          exact propext and_left_comm
        rw [hcomm, List.filter_comm] at hleft
        exact hleft
      · exact rule.leave _ _ p key (hrest fun tile' h => hnone tile' ⟨Ne.symm hx, h⟩) ⟨tile, hp⟩ hkey
  gone := rule.gone
  hunts := rule.hunts

end Rule

variable {w' : World} {e : EntityId}

/-! ## Coming to the area -/

lemma present_withMember (ha : w.area? = some a) (hlt : a.index < w.areas.size) (e : EntityId) :
    (w.withMember a e).present = w.present ++ [e] := by
  rw [present, withMember, ha, Option.bind_some, Array.getElem?_modify, if_pos rfl, present, ha,
    Option.bind_some, Array.getElem?_eq_getElem hlt]
  rfl

lemma AtRest.withMember (h0 : w0.AtRest rule) (ha : w0.area? = some a) (hstays : Stays w0 w)
    (hsound : w.Sound rule (w0.live ++ w.partsOf e)) (he : e.index < w.entities.size) :
    (w.withMember a e).AtRest rule := by
  have hlt : a.index < w.areas.size := hstays.areas ▸ h0.area a ha
  have hpres := present_withMember (hstays.area.trans ha) hlt e
  have hlive : (w.withMember a e).live = w0.live ++ w.partsOf e := by
    rw [live, hpres, List.flatMap_append, List.flatMap_singleton, ← h0.live_eq hstays]
    rfl
  refine ⟨hlive ▸ hsound.of_same (by rfl) fun r => by cases r <;> rfl, fun e' he' => ?_, ?_⟩
  · rw [hpres, hstays.present_eq, List.mem_append, List.mem_singleton] at he'
    rcases he' with he' | rfl
    · exact (h0.here e' he').trans_le hstays.entities_le
    · exact he
  · intro a' ha'
    have hlt' := h0.area a' (hstays.area ▸ ha')
    rw [← hstays.areas] at hlt'
    simpa [World.withMember] using hlt'

lemma Built.withMember (h : Built rule w0 e w) (h0 : w0.AtRest rule) (ha : w0.area? = some a) :
    (w.withMember a e).AtRest rule :=
  h0.withMember ha h.stays h.sound h.there

lemma Built.move (h : Built rule w0 e w) (h0 : w0.AtRest rule) {f : Entity → Entity}
    (hf : ∀ en, (f en).parts = en.parts) : Built rule w0 e (w.withEntity e f) := by
  have hps : (w.withEntity e f).partsOf e = w.partsOf e :=
    congrArg (Option.getD · []) (map_getElem?_modify (fun en _ => hf en) e.index)
  refine ⟨?_, h.stays.move e hf, h.new, by simpa [World.withEntity] using h.there, ?_⟩
  · rw [hps]
    refine h.sound.move hf fun _ p hp hg hown => ?_
    rcases List.mem_append.1 hp with hp | hp
    · obtain ⟨e', he', hown'⟩ := h0.owner_of_live h.sound.toTied h.stays hp
      cases hown.symm.trans hown'
      exact h.new.not_gt he'
    · exact h.playing p hp hg
  · rw [hps]
    exact h.playing

/-! ## In one area -/

/-- Nothing is half made or half taken down in the area that the game is in. -/
structure Settled (rule : Rule) (a : AreaId) (w : World) : Prop where
  rest : w.AtRest rule
  area : w.area? = some a

/-- Where nothing is half made or half taken down in an area, nothing is so afterwards. -/
def Settles (rule : Rule) (a : AreaId) (w w' : World) : Prop := w.Settled rule a → w'.Settled rule a

instance : IsPreorder World (Settles rule a) where
  refl _ h := h
  trans _ _ _ h h' hrest := h' (h hrest)

instance : Game.Allows Steady (Settles rule a) :=
  ⟨fun _ _ hst h => ⟨h.rest.of_steady hst, hst.stays.area.trans h.area⟩⟩

lemma Settled.of_left (h : w0.Settled rule a) (hleft : Left rule w0 w) : w.Settled rule a :=
  ⟨h.rest.of_stays hleft.1 hleft.2, hleft.2.area.trans h.area⟩

lemma AtRest.of_present (h : w.AtRest rule)
    (hsame : (w'.parts, w'.entities, w'.screen, w'.tools, w'.taken) =
      (w.parts, w.entities, w.screen, w.tools, w.taken))
    (hregs : ∀ r : Register, r.list w' = r.list w) (hpres : w'.present = w.present)
    (ha : ∀ a, w'.area? = some a → a.index < w'.areas.size) : w'.AtRest rule := by
  have hents : w'.entities = w.entities := (Prod.mk.inj (Prod.mk.inj hsame).2).1
  have hlive : w'.live = w.live := by
    rw [live, hpres, live]
    exact List.flatMap_congr fun e _ => by rw [partsOf, hents, partsOf]
  refine ⟨hlive ▸ h.toSound.of_same hsame hregs, fun e he => ?_, ha⟩
  rw [hents]
  exact h.here e (hpres ▸ he)

lemma present_modifyArea {f : Area → Area}
    (hf : ∀ ar, w.areas[a.index]? = some ar → (f ar).entities = ar.entities) :
    present { w with areas := w.areas.modify a.index f } = w.present := by
  rw [present, present]
  cases ha : w.area? with
  | none => rfl
  | some a' =>
    simp only [Option.bind_some, Array.getElem?_modify]
    split
    · rename_i heq
      rw [← heq]
      cases har : w.areas[a.index]? with
      | none => rfl
      | some ar => exact congrArg (some · |>.getD []) (hf ar har)
    · rfl

lemma Settled.entities_eq (h : w.Settled rule a) {ar : Area} (har : w.areas[a.index]? = some ar) :
    ar.entities = w.present := by
  rw [present, h.area, Option.bind_some, har]
  rfl

/-! ## Entities of the editor -/

section Placeholders

variable {icon : String} {image : Image} {q : PartId} {tile tile' : Int × Int}

lemma withPlaceholder_eq (w : World) (icon : String) (image : Image) (p : Placeholder)
    (x y : Scalar) :
    w.withPlaceholder icon image p x y = ((w.withSprite icon image).withPart (.placeholder p)).placed
      [⟨w.parts.size⟩, ⟨w.parts.size + 1⟩] x y := by
  have hrun : (Game.placeParts [⟨w.parts.size⟩, ⟨w.parts.size + 1⟩] x y).runOn
      ((w.withSprite icon image).withPart (.placeholder p)) =
        (.ok w.nextEntity, w.withPlaceholder icon image p x y) := Game.run_placePair
  rw [Game.run_placeParts] at hrun
  exact (Prod.mk.inj hrun).2.symm

def pitched (w : World) (icon : String) (image : Image) (p : Placeholder) (tile : Int × Int) :
    World :=
  w.withPlaceholder icon image p (.int (tile.1 * 32)) (.int (tile.2 * 32))

lemma AtRest.staged_pitched (h : w.AtRest rule) (hi : Image.load icon = .ok image)
    (p : Placeholder) (tile : Int × Int) : Staged rule w w.nextEntity
      [(⟨w.parts.size⟩, .image false), (⟨w.parts.size + 1⟩, .placeholder)] []
      (w.pitched icon image p tile) := by
  have hsize : (w.withSprite icon image).parts.size = w.parts.size + 1 := Array.size_push ..
  have hlook : Bench rule w [(⟨w.parts.size⟩, .image false)] [] (w.withSprite icon image) :=
    (Game.crafts_newSprite icon false).bench (Game.run_newSprite hi) (.start h)
  obtain ⟨hsound, hstays, hlast, hnob⟩ := hlook.withPart (p := .placeholder p) trivial
    (hlook.sound.toTied.takes_new List.nodup_nil nofun rfl nofun nofun)
  have hboth := hlook.add hlast hstays hsound le_rfl hnob
    (g := .placeholder) ⟨gist?_withPart_self _ _, trivial⟩
  rw [World.pitched, withPlaceholder_eq, ← hsize]
  exact hboth.stage (by simp [Gist.isLeaver]) _ _

lemma seated_pitched (w : World) (icon : String) (image : Image) (p : Placeholder)
    (tile : Int × Int) : (w.pitched icon image p tile).Seated ⟨w.parts.size + 1⟩ tile := by
  refine ⟨w.nextEntity, _, ?_, w.withPlaceholder_entity icon image p _ _, rfl, rfl⟩
  rw [ownerOf?, pitched, w.withPlaceholder_placeholder]
  rfl

lemma AtRest.pitched (h : w.AtRest rule) (hi : Image.load icon = .ok image)
    (p : Placeholder) (tile : Int × Int) : (w.pitched icon image p tile).Sound (.free rule.tiled)
      (w.live ++ (w.pitched icon image p tile).partsOf w.nextEntity) := by
  have hstg := h.staged_pitched hi p tile
  have hmine := hstg.mine
  simp only [List.forall_mem_cons] at hmine
  obtain ⟨⟨-, -, hlook⟩, ⟨-, hown, hhld⟩, -⟩ := hmine
  have hnd := hstg.nodup_append h
  have hps := hstg.parts
  simp only [List.map_cons, List.map_nil] at hnd hps
  rw [hps]
  have hfree : (w.pitched icon image p tile).Sound (.free rule.tiled) (w.live ++ []) :=
    hstg.sound.adopt _ id trivial ⟨nofun, nofun⟩
  have hnot : (⟨w.parts.size + 1⟩ : PartId) ∉ w.live ++ [] := fun hmem =>
    (List.nodup_append.1 hnd).2.2 _ (by simpa using hmem) _ (by simp) rfl
  have hboth := hfree.enter hnot hhld.gist ⟨w.nextEntity, hown, hstg.there, fun q hq => ?_⟩
    rfl (fun _ _ => ⟨tile, seated_pitched w icon image p tile⟩) trivial
  · refine hboth.enterPlain ?_ hlook.gist ⟨rfl, hlook.listed⟩ rfl nofun
    exact (List.nodup_middle.1 hnd).notMem
  · simp only [hps, List.mem_cons, List.not_mem_nil, or_false] at hq
    rcases hq with rfl | rfl
    · exact .inl ⟨_, hlook.gist⟩
    · exact .inr hhld.gist

lemma Seated.eq (h : w.Seated q tile) (h' : w.Seated q tile') : tile' = tile := by
  obtain ⟨e, en, hown, hen, hx, hy⟩ := h
  obtain ⟨e', en', hown', hen', hx', hy'⟩ := h'
  cases hown.symm.trans hown'
  cases hen.symm.trans hen'
  have hcol : tile.1 * 32 = tile'.1 * 32 := by simpa using hx.symm.trans hx'
  have hrow : tile.2 * 32 = tile'.2 * 32 := by simpa using hy.symm.trans hy'
  exact Prod.ext (by omega) (by omega)

lemma AtRest.seated_pitched_iff (h : w.AtRest rule) (htiled : rule.tiled)
    (hq : q ∈ w.live) {p : Placeholder} :
    (w.pitched icon image p tile).gist? q = some .placeholder ∧
      (w.pitched icon image p tile).Seated q tile' ↔
    w.gist? q = some .placeholder ∧ w.Seated q tile' := by
  have hp : (w.pitched icon image p tile).parts[q.index]? = w.parts[q.index]? :=
    w.getElem?_parts_withPlaceholder _ _ _ _ _ (h.lt_of_mem hq)
  have hgist : (w.pitched icon image p tile).gist? q = w.gist? q := by rw [gist?, hp, gist?]
  have hown : (w.pitched icon image p tile).ownerOf? q = w.ownerOf? q := by
    rw [ownerOf?, hp, ownerOf?]
  rw [hgist]
  refine and_congr_right fun hg => ?_
  obtain ⟨_, e, en, he, hen, -⟩ := h.seated htiled q hq hg
  have hent : (w.pitched icon image p tile).entities[e.index]? = w.entities[e.index]? :=
    w.getElem?_entities_withPlaceholder _ _ _ _ _ (lt_of_getElem? hen)
  rw [Seated, Seated, hown, he]
  simp only [Option.some.injEq, exists_and_left, exists_eq_left', hent]

lemma AtRest.seating_pitched (h : w.AtRest rule) (htiled : rule.tiled)
    (hi : Image.load icon = .ok image) (p : Placeholder) (tile : Int × Int) :
    (w.pitched icon image p tile).seating
        (w.live ++ (w.pitched icon image p tile).partsOf w.nextEntity) =
      fun q tile' => w.seating w.live q tile' ∨ q = ⟨w.parts.size + 1⟩ ∧ tile' = tile := by
  have hstg := h.staged_pitched hi p tile
  have hmine := hstg.mine
  simp only [List.forall_mem_cons] at hmine
  obtain ⟨⟨-, -, hlook⟩, ⟨-, -, hhld⟩, -⟩ := hmine
  have hseat := seated_pitched w icon image p tile
  rw [hstg.parts]
  funext q tile'
  refine propext ⟨?_, ?_⟩
  · rintro ⟨hq, hg, hq'⟩
    simp only [List.map_cons, List.map_nil, List.mem_append, List.mem_cons, List.not_mem_nil,
      or_false] at hq
    rcases hq with hq | rfl | rfl
    · exact .inl ⟨hq, (h.seated_pitched_iff htiled hq).1 ⟨hg, hq'⟩⟩
    · cases hlook.gist.symm.trans hg
    · exact .inr ⟨rfl, hseat.eq hq'⟩
  · rintro (⟨hq, hrest⟩ | ⟨rfl, rfl⟩)
    · exact ⟨List.mem_append_left _ hq, (h.seated_pitched_iff htiled hq).2 hrest⟩
    · exact ⟨by simp, hhld.gist, hseat⟩

lemma Settled.pitched (h : w.Settled rule a) (hi : Image.load icon = .ok image)
    (p : Placeholder) (hadm : rule.Admits (w.seating w.live) w.taken tile)
    (hfree : w.taken.any (tileKey tile).same = false) : Settled rule a
      (((w.pitched icon image p tile).withTaken (tileKey tile)).withMember a w.nextEntity) := by
  have hstg := h.rest.staged_pitched hi p tile
  refine ⟨h.rest.withMember h.area (hstg.stays.trans (.of_same rfl)) ?_ hstg.there,
    hstg.stays.area.trans h.area⟩
  refine (h.rest.pitched hi p tile).adopt _ id (rule.allows_of fun htiled => ?_) hstg.sound.past
  rw [h.rest.seating_pitched htiled hi]
  refine hadm.enter hfree _ fun tile' hseat => ?_
  exact Nat.not_lt_of_le (Nat.le_succ _) (h.rest.lt_of_mem hseat.1)

lemma AtRest.pitched_guest (h : w.AtRest rule) (hi : Image.load icon = .ok image)
    (p : Placeholder) (hadm : rule.Admits (w.seating w.live) w.taken tile)
    (htaken : w.taken.any (tileKey tile).same = true) :
    (w.pitched icon image p tile).Sound (rule.guest ⟨w.parts.size + 1⟩)
      (w.live ++ (w.pitched icon image p tile).partsOf w.nextEntity) := by
  have hpast := (h.staged_pitched hi p tile).sound.past
  refine (h.pitched hi p tile).adopt w.taken id
    ((rule.guest _).allows_of fun htiled => ?_) ⟨hpast.gone, hpast.hunts⟩
  rw [h.seating_pitched htiled hi]
  have hnew (tile' : Int × Int) : ¬ w.seating w.live ⟨w.parts.size + 1⟩ tile' := fun hseat =>
    Nat.not_lt_of_le (Nat.le_succ _) (h.lt_of_mem hseat.1)
  refine ⟨fun tile' hseat => ?_, fun hnone => absurd (.inr ⟨rfl, rfl⟩) (hnone tile)⟩
  obtain rfl : tile' = tile := (hseat.resolve_left (hnew tile')).2
  have hsame : (fun q tile'' => q ≠ (⟨w.parts.size + 1⟩ : PartId) ∧
      (w.seating w.live q tile'' ∨ q = ⟨w.parts.size + 1⟩ ∧ tile'' = tile')) =
      w.seating w.live := by
    funext q tile''
    refine propext ⟨fun ⟨hne, hq⟩ => hq.resolve_right fun heq => hne heq.1, fun hq => ⟨?_, .inl hq⟩⟩
    rintro rfl
    exact hnew tile'' hq
  rw [hsame]
  exact hadm.refuse htaken

end Placeholders

end World

namespace Game

open World

lemma ends_setUpPlaceholder_taken (h : w.Settled rule a) {icon : String} {image : Image}
    (hi : Image.load icon = .ok image) (p : Placeholder) {tile : Int × Int}
    (hadm : rule.Admits (w.seating w.live) w.taken tile) (htaken : w.taken.any (tileKey tile).same = true) :
    Ends (w.pitched icon image p tile) (setUpPlaceholder ⟨w.parts.size + 1⟩)
      (fun _ u => u.Settled rule a ∧ w.nextEntity.index < u.entities.size ∧
        u.partsOf w.nextEntity = []) (Settled rule a) := by
  have hstg := h.rest.staged_pitched hi p tile
  have hsound := h.rest.pitched_guest hi p hadm htaken
  have hhld := w.withPlaceholder_placeholder icon image p (.int (tile.1 * 32))
    (.int (tile.2 * 32))
  have hent := w.withPlaceholder_entity icon image p (.int (tile.1 * 32)) (.int (tile.2 * 32))
  have htaken' : (w.pitched icon image p tile).taken.any (tileKey tile).same = true := htaken
  change (w.pitched icon image p tile).parts[_]? = _ at hhld
  change (w.pitched icon image p tile).entities[_]? = _ at hent
  generalize w.pitched icon image p tile = u at hstg hsound hhld hent htaken'
  have hown : (owner ⟨w.parts.size + 1⟩).runOn u = (.ok w.nextEntity, u) :=
    run_owner hhld rfl
  have hplace : (place ⟨w.parts.size + 1⟩).runOn u =
      (.ok (.num (.int (tile.1 * 32)), .num (.int (tile.2 * 32))), u) := by
    rw [place, bind_ok hown, entityPlace, bind_ok (run_entity hent)]
    rfl
  have ha : u.area? = some a := hstg.stays.area.trans h.area
  have hu : u.AtRest rule := by
    have hleft := hstg.sound
    rw [List.append_nil] at hleft
    exact h.rest.of_stays hleft hstg.stays
  -- the entity is not in the area yet
  have hnot : w.nextEntity ∉ u.present := fun hmem =>
    (h.rest.here _ (hstg.stays.present_eq ▸ hmem)).false
  have hlive : (u.departed a w.nextEntity).live = w.live ++ [] := by
    rw [live, present_departed ha, List.erase_of_not_mem hnot, List.append_nil,
      ← h.rest.live_eq hstg.stays]
    rfl
  -- the guest has left when only what was there before is left
  have hsett {u' : World} (hfades : Fades (u.departed a w.nextEntity) u')
      (hsound' : u'.Sound (rule.guest ⟨w.parts.size + 1⟩) u'.live) : u'.Settled rule a := by
    have hshr : Shrinks u u' := (Shrinks.departed ha _).trans hfades.toShrinks
    have hlive' : u'.live = w.live := hfades.live.trans (hlive.trans (List.append_nil _))
    refine ⟨hu.of_shrinks hshr (hsound'.adopt _ id (hsound'.ruled.2 fun tile' hseat => ?_)
      ⟨hsound'.past.gone, hsound'.past.hunts⟩), hshr.area.trans ha⟩
    exact Nat.not_lt_of_le (Nat.le_succ _) (h.rest.lt_of_mem (hlive' ▸ hseat.1))
  rw [setUpPlaceholder]
  refine .step hplace (.step (a := some (tileKey tile)) rfl (.step (run_get u) ?_))
  rw [if_pos htaken']
  rw [← List.append_nil (u.partsOf w.nextEntity)] at hsound
  refine .step hown ((ends_deleteEntity hsound ha hlive hstg.there).mono (fun _ u' hu' => ?_)
    fun u' hu' => ?_)
  · obtain ⟨hsound', hfades, hnil⟩ := hu'
    refine ⟨hsett hfades hsound', ?_, hnil⟩
    exact ((Shrinks.departed ha _).trans hfades.toShrinks).entities ▸ hstg.there
  · obtain ⟨-, hsound', hfades⟩ := hu'
    exact hsett hfades hsound'

lemma ends_placePlaceholder (tile : Int × Int) (h : w.Settled rule a) (icon : String)
    (p : Placeholder) (hadm : rule.Admits (w.seating w.live) w.taken tile) :
    Ends w (placePlaceholder a icon p (.int (tile.1 * 32)) (.int (tile.2 * 32)))
      (fun _ => Settled rule a) (Settled rule a) := by
  cases hi : Image.load icon with
  | error fault =>
    have hrun : (newSprite icon false).runOn w = (.error fault, w) := by
      rw [newSprite, loadImage, hi]
      rfl
    have hplace : (placePlaceholder a icon p (.int (tile.1 * 32)) (.int (tile.2 * 32))).runOn w =
        (.error fault, w) := by
      rw [placePlaceholder, run_bind, hrun]
    exact .of_error hplace h
  | ok image =>
    by_cases htaken : w.taken.any (tileKey tile).same = true
    · refine .of_run_eq (run_placePlaceholder_setUp hi a)
        ((ends_setUpPlaceholder_taken h hi p hadm htaken).bind ?_)
      rintro _ u ⟨hu, hth, hnil⟩
      have hgone : (hasPart w.nextEntity Part.isPlaceholder).runOn u = (.ok false, u) := by
        rw [hasPart, bind_ok (run_find? (Array.getElem?_eq_getElem hth) _)]
        rw [partsOf, Array.getElem?_eq_getElem hth] at hnil
        have hnil' : u.entities[w.nextEntity.index].parts = [] := hnil
        rw [hnil']
        rfl
      exact .step hgone (.pure hu)
    · have hfree := Bool.eq_false_iff.2 htaken
      exact .of_ok (run_placePlaceholder hi (placeKey?_tile tile.1 tile.2) hfree a)
        (h.pitched hi p hadm hfree)

end Game

end TileQuest
