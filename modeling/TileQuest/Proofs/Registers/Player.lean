import TileQuest.Proofs.Registers.Fighters

/-!
# Making the player

The player comes with two labels and an inventory window on the screen, each in an entity of its
own, and gets a bar there when it is set up. It takes them down by itself, so all along its making
they have to stay where they are (`World.Headed`, `World.Upholds`).
-/

namespace TileQuest

variable {rule : Rule} {w0 w : World} {made : List (PartId × Gist)} {regs : List PartId}
variable {me : EntityId} {p look body : PartId} {hud : PartId × PartId × EntityId}

namespace World

variable {w' w'' : World} {k q c : PartId} {ids : List PartId} {f : Entity → Entity} {e : EntityId}
variable {hud? hud?' : Option (PartId × PartId × EntityId)}
variable {bar? combat? bar?' combat?' : Option PartId} {health? health?' : Option Json}

/-! ## What is on the screen stays there -/

/-- What is in an entity of its own stays there, and where it is registered. -/
structure Upholds (w w' : World) : Prop where
  parts_le : w.parts.size ≤ w'.parts.size
  entities_le : w.entities.size ≤ w'.entities.size
  overlay : ∀ q ∈ w.overlay, q.index < w.parts.size → q ∈ w'.overlay
  active : ∀ q ∈ w.active, q.index < w.parts.size → q ∈ w'.active
  owner : ∀ p e, w.ownerOf? p = some e → w'.ownerOf? p = some e
  parts : ∀ e : EntityId, e.index < w.entities.size →
    w'.partsOf e = w.partsOf e ∨ 1 < (w.partsOf e).length
  view : ∀ v items, w.gist? v = some (.view items) → w'.gist? v = some (.view items)

lemma Upholds.trans (h : Upholds w w') (h' : Upholds w' w'') : Upholds w w'' where
  parts_le := h.parts_le.trans h'.parts_le
  entities_le := h.entities_le.trans h'.entities_le
  overlay q hq hlt := h'.overlay q (h.overlay q hq hlt) (hlt.trans_le h.parts_le)
  active q hq hlt := h'.active q (h.active q hq hlt) (hlt.trans_le h.parts_le)
  owner p e hp := h'.owner p e (h.owner p e hp)
  parts e he := by
    rcases h.parts e he with hsame | hmany
    · rw [← hsame]
      exact h'.parts e (he.trans_le h.entities_le)
    · exact .inr hmany
  view v items hv := h'.view v items (h.view v items hv)

lemma Lasting.upholds (h : Lasting w w') : Upholds w w' where
  parts_le := h.parts_le
  entities_le := h.entities_le
  overlay := h.overlay
  active := h.active
  owner _ _ := h.ownerOf?_some
  parts _ he := .inl (h.partsOf_eq he)
  view _ _ := h.gist?_some

lemma Upholds.altered (hk : ∀ items, w.gist? k ≠ some (.view items))
    (f : Part → Part) : Upholds w (w.altered k f) where
  parts_le := by simp [World.altered]
  entities_le := le_rfl
  overlay _ hq _ := hq
  active _ hq _ := hq
  owner p _ hp := (ownerOf?_altered w k p f).trans hp
  parts _ _ := .inl rfl
  view v items hv := by
    refine (gist?_altered_of_ne (fun heq => ?_) f).trans hv
    exact hk items (heq ▸ hv)

lemma Upholds.placed (hids : ∀ p ∈ ids, w.ownerOf? p = none) (x y : Json) :
    Upholds w (w.placed ids x y) where
  parts_le := (size_given _ ids _).ge
  entities_le := by simp [World.placed, given]
  overlay _ hq _ := hq
  active _ hq _ := hq
  owner p e hp := by
    refine (ownerOf?_given_of_notMem _ _ fun hmem => ?_).trans hp
    rw [hids p hmem] at hp
    cases hp
  parts _ he := .inl (partsOf_placed_of_lt he x y)
  view v _ hv := (gist?_placed w ids x y v).trans hv

lemma Upholds.attached (hnob : w.ownerOf? p = none)
    (hmany : 1 < (w.partsOf me).length) : Upholds w (w.attached me p) where
  parts_le := by simp [World.attached, World.withOwner]
  entities_le := by simp [World.attached]
  overlay _ hq _ := hq
  active _ hq _ := hq
  owner q e hq := by
    refine (ownerOf?_withOwner_of_ne (fun heq => ?_) _).trans hq
    rw [heq, hnob] at hq
    cases hq
  parts e _ := by
    by_cases he : e = me
    · exact .inr (he ▸ hmany)
    · exact .inl (partsOf_attached_of_ne he p)
  view v _ hv := (gist?_attached w me p v).trans hv

lemma Upholds.move (w : World) (e : EntityId) (hf : ∀ en, (f en).parts = en.parts) :
    Upholds w (w.withEntity e f) where
  parts_le := le_rfl
  entities_le := by simp [World.withEntity]
  overlay _ hq _ := hq
  active _ hq _ := hq
  owner _ _ hp := hp
  parts e' _ := by
    have hmap : (w.entities.modify e.index f)[e'.index]?.map Entity.parts =
        w.entities[e'.index]?.map Entity.parts := map_getElem?_modify (fun en _ => hf en) e'.index
    exact .inl (congrArg (Option.getD · []) hmap)
  view _ _ hv := hv

lemma Tagged.of_upholds (h : w.Tagged q) (hup : Upholds w w') : w'.Tagged q := by
  obtain ⟨hmem, e, hown, he, hps⟩ := h
  refine ⟨hup.overlay q hmem (lt_of_ownerOf? hown), e, hup.owner q e hown,
    he.trans_le hup.entities_le, ?_⟩
  rcases hup.parts e he with hsame | hmany
  · rwa [hsame]
  · rcases hps with hnil | hone
    · rw [hnil] at hmany
      cases hmany
    · rw [hone] at hmany
      exact absurd hmany (Nat.lt_irrefl 1)

lemma Windowed.of_upholds (h : w.Windowed e) (htied : w.Tied)
    (hup : Upholds w w') : w'.Windowed e := by
  obtain ⟨he, hps⟩ := h
  refine ⟨he.trans_le hup.entities_le, ?_⟩
  rcases hup.parts e he with hsame | hmany
  · rw [hsame]
    refine hps.imp id fun ⟨v, items, hone, hv, hact, hits⟩ => ?_
    exact ⟨v, items, hone, hup.view v items hv, hup.active v hact (lt_of_gist? hv),
      fun q hq => hup.overlay q (hits q hq) (htied.lt_of_mem_kept hv hq)⟩
  · rcases hps with hnil | ⟨v, _, hone, -⟩
    · rw [hnil] at hmany
      cases hmany
    · rw [hone] at hmany
      exact absurd hmany (Nat.lt_irrefl 1)

/-- The labels and the inventory window of a player are on the screen. -/
structure Headed (w : World) (hud : PartId × PartId × EntityId) : Prop where
  place : w.Tagged hud.1
  message : w.Tagged hud.2.1
  window : w.Windowed hud.2.2

lemma Headed.of_upholds (h : w.Headed hud) (htied : w.Tied)
    (hup : Upholds w w') : w'.Headed hud :=
  ⟨h.place.of_upholds hup, h.message.of_upholds hup, h.window.of_upholds htied hup⟩

/-! ## On the bench -/

lemma AtRest.owner_of_live (h0 : w0.AtRest rule) (htied : w.Tied) (hstays : Stays w0 w)
    (hp : p ∈ w0.live) : ∃ e : EntityId, e.index < w0.entities.size ∧ w.ownerOf? p = some e := by
  obtain ⟨e, he, hmem⟩ := mem_live.1 hp
  have hlt := h0.here e he
  exact ⟨e, hlt, htied.owned e p ((hstays.parts e hlt).symm ▸ hmem)⟩

lemma Stays.move (h : Stays w0 w) (e : EntityId) (hf : ∀ en, (f en).parts = en.parts) :
    Stays w0 (w.withEntity e f) :=
  { h with
    entities_le := by simpa [World.withEntity] using h.entities_le
    parts := fun e' he' => by
      have hmap : (w.entities.modify e.index f)[e'.index]?.map Entity.parts =
          w.entities[e'.index]?.map Entity.parts := map_getElem?_modify (fun en _ => hf en) e'.index
      exact (congrArg (Option.getD · []) hmap).trans (h.parts e' he') }

lemma Bench.move (h : Bench rule w0 made [] w) (h0 : w0.AtRest rule)
    (he : w0.entities.size ≤ e.index) (hf : ∀ en, (f en).parts = en.parts) :
    Bench rule w0 made [] (w.withEntity e f) where
  sound := by
    refine h.sound.move hf fun _ p hp _ hown => ?_
    rw [List.append_nil] at hp
    obtain ⟨e', he', hown'⟩ := h0.owner_of_live h.sound.toTied h.stays hp
    cases hown.symm.trans hown'
    exact he.not_gt he'
  stays := h.stays.move e hf
  loose x hx := by
    obtain ⟨hnew, hnob, hlists⟩ := h.loose x hx
    exact ⟨hnew, hnob, .of_screen hlists.gist hlists.listed rfl⟩
  nodup := h.nodup

lemma Bench.placed (h : Bench rule w0 made regs w)
    (hids : ∀ p ∈ ids, p.index < w.parts.size ∧ w.ownerOf? p = none)
    (hlv : ∀ p ∈ ids, ∀ g, w.gist? p = some g → g.isLeaver = false)
    (hmade : ∀ x ∈ made, x.1 ∉ ids) (x y : Json) : Bench rule w0 made regs (w.placed ids x y) where
  sound := h.sound.placed hids hlv x y
  stays := h.stays.trans (.placed w ids x y)
  loose z hz := by
    obtain ⟨hnew, hnob, hlists⟩ := h.loose z hz
    exact ⟨hnew, (ownerOf?_given_of_notMem _ _ (hmade z hz)).trans hnob,
      Game.Lists.placed hlists _ x y⟩
  nodup := h.nodup

lemma Bench.reform {g g' : Gist} {f : Part → Part} (h : Bench rule w0 ((k, g) :: made) regs w)
    (h0 : w0.AtRest rule) (hr : w.Reforms regs k g g' f) :
    Bench rule w0 ((k, g') :: made) regs (w.altered k f) := by
  obtain ⟨hnew, hnob, hlists⟩ := h.loose (k, g) (.head _)
  obtain ⟨hsound, hstays, hch⟩ := h.sound.reform h0 h.stays hnew hlists.gist hr
  have hnd := List.nodup_cons.1 h.nodup
  refine ⟨hsound, hstays, fun x hx => ?_, h.nodup⟩
  rcases List.mem_cons.1 hx with rfl | hx
  · exact ⟨hnew, (ownerOf?_altered w k _ f).trans hnob, .of_screen hch.new hr.listed rfl⟩
  · obtain ⟨hnew', hnob', hlists'⟩ := h.loose x (.tail _ hx)
    have hne : x.1 ≠ k := fun heq => hnd.1 (List.mem_map.2 ⟨x, hx, heq⟩)
    exact ⟨hnew', (ownerOf?_altered w k _ f).trans hnob',
      .of_screen ((hch.gist _ hne).trans hlists'.gist) hlists'.listed rfl⟩

lemma fit_mapPlayer
    (hk : w.gist? k = some (.player hud? bar? combat? health?)) {f : Player → Player}
    (hf : ∀ pl, (Part.player pl).gist = .player hud? bar? combat? health? →
      (Part.player (f pl)).gist = .player hud?' bar?' combat?' health?')
    (hhp : ∀ x, health?' = some x → ∃ n, x = .num n) {o : Owned}
    (ho : w.parts[k.index]? = some o) :
    (o.part.mapPlayer f).Fit ∧ (o.part.mapPlayer f).gist = .player hud?' bar?' combat?' health?' := by
  obtain ⟨o', pl, ho', hpl, hrest⟩ := Game.player_of_gist hk
  cases ho.symm.trans ho'
  have hg := hf pl (by rw [Part.gist, hrest.1, hrest.2.1, hrest.2.2.1, hrest.2.2.2])
  rw [hpl]
  refine ⟨fun x hx => hhp x ?_, hg⟩
  exact (Gist.player.inj hg).2.2.2 ▸ hx

lemma Bench.setPlayer
    (h : Bench rule w0 ((k, .player hud? bar? combat? health?) :: made) [] w) (h0 : w0.AtRest rule)
    {f : Player → Player} (hf : ∀ pl, (Part.player pl).gist = .player hud? bar? combat? health? →
      (Part.player (f pl)).gist = .player hud?' bar?' combat?' health?')
    (hhp : ∀ x, health?' = some x → ∃ n, x = .num n)
    (htakes : w.Takes k (.player hud?' bar?' combat?' health?')) :
    Bench rule w0 ((k, .player hud?' bar?' combat?' health?') :: made) []
      (w.altered k (.mapPlayer f)) := by
  obtain ⟨-, -, hlists⟩ := h.loose _ (.head _)
  exact h.reform h0 ⟨List.not_mem_nil, nofun, nofun, fun o ho _ =>
    fit_mapPlayer hlists.gist hf hhp ho, htakes, hlists.listed⟩

def playerParts (p look body c : PartId) (player : Gist) : List (PartId × Gist) :=
  [(p, player), (look, .image false), (body, .body Game.feet)] ++ [(c, .fighter .restart none none)]

lemma Staged.setPlayer
    (h : Staged rule w0 me (playerParts p look body c (.player hud? bar? combat? health?)) [body] w)
    (h0 : w0.AtRest rule) {f : Player → Player}
    (hf : ∀ pl, (Part.player pl).gist = .player hud? bar? combat? health? →
      (Part.player (f pl)).gist = .player hud?' bar?' combat?' none)
    (htakes : w.Takes p (.player hud?' bar?' combat?' none)) :
    Staged rule w0 me (playerParts p look body c (.player hud?' bar?' combat?' none)) [body]
      (w.altered p (.mapPlayer f)) := by
  have hlists := (h.mine (p, .player hud? bar? combat? health?) (by simp [playerParts])).2.2
  have hnd : [p, look, body, c].Nodup := h.nodup
  exact .set [] [(look, .image false), (body, .body Game.feet), (c, .fighter .restart none none)] h h0
    ⟨by grind, nofun, nofun, fun o ho _ => fit_mapPlayer hlists.gist hf nofun ho, htakes,
      hlists.listed⟩ nofun

lemma Staged.built_player {bar : PartId}
    (h : Staged rule w0 me (playerParts p look body c (.player (some hud) (some bar) (some c) none))
      [body] w) (h0 : w0.AtRest rule) (hscreened : w.Screened hud bar) : Built rule w0 me w := by
  have hps : w.partsOf me = [p, look, body, c] := h.parts
  have hmine := h.mine
  simp only [playerParts, List.cons_append, List.nil_append, List.forall_mem_cons] at hmine
  obtain ⟨⟨-, hown, hpl⟩, ⟨-, -, hlook⟩, ⟨-, -, hb⟩, ⟨-, -, hfight⟩, -⟩ := hmine
  refine h.built h0 (by simp [playerParts]) fun x hx => ?_
  simp only [playerParts, List.cons_append, List.nil_append, List.mem_cons, List.not_mem_nil,
    or_false] at hx
  rcases hx with rfl | rfl | rfl | rfl
  · refine ⟨nofun, fun _ => ⟨⟨hpl.listed, ⟨look, body, Game.feet, c, rfl, me, hown, h.there,
      .inr fun x hx => ?_⟩, hud, bar, rfl, rfl, hscreened⟩, rfl⟩⟩
    rw [hps]
    simp only [List.mem_cons, List.not_mem_nil, or_false] at hx
    rcases hx with rfl | rfl | rfl
    · exact ⟨by simp, hlook.gist, rfl⟩
    · exact ⟨by simp, hb.gist, rfl⟩
    · exact ⟨by simp, hfight.gist, rfl⟩
  · exact ⟨nofun, fun _ => ⟨⟨rfl, hlook.listed⟩, rfl⟩⟩
  · exact ⟨nofun, fun hnot => absurd List.mem_cons_self hnot⟩
  · exact ⟨nofun, fun _ => ⟨hfight.listed, rfl⟩⟩

/-! ## Labels of a player to be -/

/-- A label in a new entity of its own, on the screen and kept by nobody. -/
structure Poised (w0 w : World) (q : PartId) : Prop where
  free : w.Free q
  tagged : w.Tagged q
  newcomer : IsNewcomers w0 w q

lemma Poised.of_steady (h : Poised w0 w q) (htied : w.Tied)
    (hst : Steady w w') : Poised w0 w' q :=
  ⟨h.free.of_steady htied hst, h.tagged.of_upholds hst.toLasting.upholds,
    h.newcomer.of_steady hst⟩

lemma Free.placed (h : w.Free q) (htied : w.Tied) (ids : List PartId) (x y : Json) :
    (w.placed ids x y).Free q := by
  have hg := gist?_placed w ids x y
  refine ⟨by simpa only [hg] using h.shown, by simpa only [hg] using h.unkept,
    fun e he => ?_⟩
  rw [partsOf_placed_of_lt (htied.tools e he).1]
  exact h.untooled e he

lemma Poised.placed (h : Poised w0 w q) (htied : w.Tied)
    (hids : ∀ p ∈ ids, w.ownerOf? p = none) (x y : Json) : Poised w0 (w.placed ids x y) q := by
  have hup : Upholds w (w.placed ids x y) := .placed hids x y
  obtain ⟨e, he, hown⟩ := h.newcomer
  exact ⟨h.free.placed htied ids x y, h.tagged.of_upholds hup, e, he, hup.owner q e hown⟩

lemma Poised.move (h : Poised w0 w q) (e : EntityId) (hf : ∀ en, (f en).parts = en.parts) :
    Poised w0 (w.withEntity e f) q := by
  have hps (e' : EntityId) :
      (w.withEntity e f).partsOf e' = w.partsOf e' :=
    congrArg (Option.getD · []) (map_getElem?_modify (fun en _ => hf en) e'.index)
  refine ⟨⟨h.free.shown, h.free.unkept, fun e' he' => ?_⟩, h.tagged.of_upholds (.move w e hf),
    h.newcomer⟩
  rw [hps]
  exact h.free.untooled e' he'

end World

namespace Game

open World

lemma Places.poised {g : Game PartId} (hg : Places .line g) {w' : World} {q : PartId}
    (hrun : g.runOn w = (.ok q, w')) (h : w.Tied) (hle : w0.entities.size ≤ w.entities.size) :
    Poised w0 w' q := by
  obtain ⟨hfree, hover⟩ := hg.free rfl (fun _ _ hlist => hlist) hrun h
  obtain ⟨-, -, e, he, hth, hown, hps⟩ := hg.made w w' q hrun
  exact ⟨hfree, ⟨hover, e, hown, hth, .inr hps⟩, e, hle.trans he, hown⟩

lemma takes_player {k : PartId} {hud?' : Option (PartId × PartId × EntityId)}
    {bar?' combat?' : Option PartId} {health?' : Option Json}
    (hk : w.gist? k = some (.player hud?' bar?' combat?' health?'))
    {hud? : Option (PartId × PartId × EntityId)} {bar? combat? : Option PartId}
    {health? : Option Json} (hdist : (Gist.player hud? bar? combat? health?).kept.Nodup)
    (hkept : ∀ q ∈ (Gist.player hud? bar? combat? health?).kept,
      q ∈ (Gist.player hud?' bar?' combat?' health?').kept ∨ w.Free q)
    (hwin : ∀ e, hud?.map (fun hud => hud.2.2) = some e →
      hud?'.map (fun hud => hud.2.2) = some e ∨
        e.index < w.entities.size ∧ ∀ k' g, w.gist? k' = some g → g.window? ≠ some e)
    (hfight : ∀ c, combat? = some c → w.gist? c = some (.fighter .restart none none)) :
    w.Takes k (.player hud? bar? combat? health?) where
  unsettled g hg := by cases hk.symm.trans hg; rfl
  distinct := hdist
  kept q hq := (hkept q hq).imp (fun hold => ⟨_, hk, hold⟩) id
  window e he := (hwin e he).imp (fun hold => ⟨_, hk, hold⟩) id
  fighter _ _ c _ heq := by cases heq; exact hfight c rfl
  player _ := .inl ⟨_, hk, rfl⟩
  leaver := nofun
  aimed := nofun

lemma ends_placeBagView (h : Bench rule w0 made [] w) :
    Ends w (newBagView playerBag >>= fun v => placeParts [v] 0 0)
      (fun e u => Bench rule w0 made [] u ∧ (∀ q, Poised w0 w q → Poised w0 u q) ∧ u.Windowed e ∧
        ∀ k g, u.gist? k = some g → g.window? ≠ some e) (Left rule w0) := by
  refine Ends.bind ((ends_newBagView h.sound playerBag).ran.mono (fun _ _ hw => hw)
    fun _ hu => ⟨by simpa using hu.1, h.stays.trans hu.2⟩) ?_
  rintro v u ⟨⟨hsound, hstays, hlast, hfree, ⟨items, hv, hits⟩, hact⟩, hrun⟩
  have hu := h.of_lasting hlast hstays hsound
  obtain ⟨hnew, hnob⟩ := fresh_newBagView playerBag w u v hrun
  have hids : ∀ p ∈ [v], p.index < u.parts.size ∧ u.ownerOf? p = none := fun p hp => by
    rw [List.mem_singleton.1 hp]
    exact ⟨lt_of_gist? hv, hnob⟩
  have hgist := gist?_placed u [v] 0 0
  refine .of_ok (run_placeParts u [v] 0 0) ⟨?_, fun q hq => ?_, ?_, fun k g hg he => ?_⟩
  · refine hu.placed hids (fun p hp g hg => ?_) (fun x hx hmem => ?_) 0 0
    · rw [List.mem_singleton.1 hp] at hg
      cases hv.symm.trans hg
      rfl
    · have hlt := lt_of_gist? (h.loose x hx).2.2.gist
      rw [List.mem_singleton.1 hmem] at hlt
      exact (hnew v (.head _)).1.not_gt hlt
  · obtain ⟨e, he, hown⟩ := hq.newcomer
    have hq' : Poised w0 u q := ⟨hfree q hq.free, hq.tagged.of_upholds hlast.upholds, e, he,
      hlast.ownerOf?_some hown⟩
    exact hq'.placed hu.sound.toTied (fun p hp => (hids p hp).2) 0 0
  · exact ⟨by simp [World.placed, given], .inr ⟨v, items, partsOf_placed u [v] 0 0,
      (hgist v).trans hv, hact, hits⟩⟩
  · rw [hgist] at hg
    exact (hu.sound.housed k g _ hg he).false

section

variable (h0 : w0.AtRest rule)
include h0

lemma ends_dressPlayer {id place message : PartId} {window : EntityId}
    (h : Bench rule w0 [(id, .player none none none none)] [] w) (hplace : Poised w0 w place)
    (hmsg : Poised w0 w message) (hne : place ≠ message) (hwin : w.Windowed window)
    (hnob : ∀ k g, w.gist? k = some g → g.window? ≠ some window) :
    Ends w (do
      moveEntity (← owner place) 10 ((← get).camera.h - 50 : Int)
      moveEntity (← owner message) 10 0
      modifyPlayer id ({ · with hud? := some { place, message, window, countdown := 0 } })
      tell id ("Entering " ++ (← homeName))
      modifyPlayer id ({ · with health? := some 100 })
      return id)
      (fun id' u => id' = id ∧ u.Headed (place, message, window) ∧
        Bench rule w0 [(id, .player (some (place, message, window)) none none (some 100))] [] u)
      (Left rule w0) := by
  let hud : PartId × PartId × EntityId := (place, message, window)
  obtain ⟨e, he, hown⟩ := hplace.newcomer
  obtain ⟨e', he', hown'⟩ := hmsg.newcomer
  -- the labels go where they belong
  let u1 : World := w.withEntity e ({ · with x := 10, y := .ofInt (w.camera.h - 50) })
  let u2 : World := u1.withEntity e' ({ · with x := 10, y := 0 })
  have h1 : Bench rule w0 [(id, .player none none none none)] [] u1 := h.move h0 he fun _ => rfl
  have h2 : Bench rule w0 [(id, .player none none none none)] [] u2 := h1.move h0 he' fun _ => rfl
  have hpoise {q : PartId} (hq : Poised w0 w q) : Poised w0 u2 q := by
    have hq1 : Poised w0 u1 q := hq.move e fun _ => rfl
    exact hq1.move e' fun _ => rfl
  have hup : Upholds w u2 := by
    have hup1 : Upholds w u1 := .move w e fun _ => rfl
    exact hup1.trans (.move u1 e' fun _ => rfl)
  have hheaded2 : u2.Headed hud :=
    ⟨(hpoise hplace).tagged, (hpoise hmsg).tagged, hwin.of_upholds h.sound.toTied hup⟩
  refine .step (run_owner_eq_ok.2 ⟨hown, rfl⟩) (.step (run_get w) (.step (u := u1) rfl ?_))
  refine .step (run_owner_eq_ok.2 ⟨hown', rfl⟩) (.step (u := u2) rfl ?_)
  -- and the player keeps them
  refine .step (run_modifyPlayer u2 id _) ?_
  have hlists2 := (h2.loose _ (.head _)).2.2
  have hkept : ∀ q ∈ [place, message], u2.Free q := by
    simp [(hpoise hplace).free, (hpoise hmsg).free]
  have h3 : Bench rule w0 [(id, .player (some hud) none none none)] [] _ :=
    h2.setPlayer h0 (f := ({ · with hud? := some { place, message, window, countdown := 0 } }))
      (fun pl hpl => by
        obtain ⟨-, hbar, hcomb, hhp⟩ := Gist.player.inj hpl
        simp [Part.gist, hbar, hcomb, hhp, hud]) nofun
      (takes_player hlists2.gist (by simpa [Gist.kept] using hne)
        (fun q hq => .inr (hkept q (by simpa [Gist.kept, hud] using hq)))
        (by rintro _ ⟨⟩; exact .inr ⟨hheaded2.window.1, hnob⟩) nofun)
  have hheaded3 := hheaded2.of_upholds h2.sound.toTied (.altered (fun items hits => by
    cases hlists2.gist.symm.trans hits) (.mapPlayer ({ · with
      hud? := some { place, message, window, countdown := 0 } })))
  -- the message, and the health to start with
  refine .look obeys_homeName h3.left fun name _ =>
    .watch (R := Steady) (obeys_tell id _) (fun u hu => (h3.of_steady hu).left) fun _ u4 _ hu4 => ?_
  have h4 := h3.of_steady hu4
  have hheaded4 := hheaded3.of_upholds h3.sound.toTied hu4.toLasting.upholds
  have hgist4 := (h4.loose _ (.head _)).2.2.gist
  have hdist : (Gist.player (some hud) none none none).kept.Nodup :=
    h4.sound.distinct id _ hgist4
  refine .step (run_modifyPlayer u4 id _) (.pure ⟨rfl, ?_, ?_⟩)
  · exact hheaded4.of_upholds h4.sound.toTied (.altered (fun items hits => by
      cases hgist4.symm.trans hits) _)
  · refine h4.setPlayer h0 (fun pl hpl => ?_) (by rintro _ ⟨⟩; exact ⟨100, rfl⟩)
      (takes_player hgist4 hdist (fun q hq => .inl hq)
        (fun _ he => .inl he) nofun)
    obtain ⟨hhud, hbar, hcomb, -⟩ := Gist.player.inj hpl
    rw [Part.gist, hhud, hbar, hcomb]

lemma ends_newPlayer (h : Bench rule w0 [] [] w) : Ends w (newPlayer 100) (fun id u => ∃ hud,
      Bench rule w0 [(id, .player (some hud) none none (some 100))] [] u ∧ u.Headed hud)
      (Left rule w0) := by
  let id : PartId := ⟨w.parts.size⟩
  rw [newPlayer]
  refine .step (a := id) (u := w.withPart (.player {})) rfl
    (.step (u := w.acting (.player {})) rfl ?_)
  have h1 : Bench rule w0 [(id, .player none none none none)] [] (w.acting (.player {})) :=
    h.act (p := .player {}) (by rintro _ ⟨⟩) rfl rfl nofun nofun fun _ _ hmem => hmem
  -- the two labels
  refine .watch (places_placeLabel _ _ _ _ _).steady (fun u hu => (h1.of_steady hu).left)
    fun place u2 hrun2 hu2 => ?_
  have h2 := h1.of_steady hu2
  have hplace2 : Poised w0 u2 place :=
    (places_placeLabel _ _ _ _ _).poised hrun2 h1.sound.toTied h1.stays.entities_le
  refine .look obeys_homeName h2.left fun name _ => ?_
  refine .watch (places_placeLabel _ _ _ _ _).steady (fun u hu => (h2.of_steady hu).left)
    fun message u3 hrun3 hu3 => ?_
  have h3 := h2.of_steady hu3
  have hmessage3 : Poised w0 u3 message :=
    (places_placeLabel _ _ _ _ _).poised hrun3 h2.sound.toTied h2.stays.entities_le
  have hne : place ≠ message := by
    rintro rfl
    obtain ⟨g, hg, -⟩ := hplace2.free.shown
    exact ((places_placeLabel _ _ _ _ _).made _ _ _ hrun3).1.not_gt (lt_of_gist? hg)
  -- the window, and then the player gets them
  rw [← bind_assoc]
  refine (ends_placeBagView h3).bind fun window u4 ⟨h4, hpoise, hwin, hnob⟩ => ?_
  have hplace4 := hpoise place (hplace2.of_steady h2.sound.toTied hu3)
  refine (ends_dressPlayer h0 h4 hplace4 (hpoise message hmessage3) hne hwin hnob).mono
    (fun id' u ⟨hid, hhead, hu⟩ => ?_) fun _ hu => hu
  subst hid
  exact ⟨_, hu, hhead⟩

lemma ends_placeBar {c : PartId}
    (h : Staged rule w0 me (playerParts p look body c (.player (some hud) none (some c) none))
      [body] w) (hhead : w.Headed hud) :
    Ends w (do
      let bar ← newBar (← Game.combat c).maxHealth 300 20
      let camera := (← get).camera
      let _ ← placeParts [bar] (camera.w - 300 : Int) (camera.h - 20 : Int)
      modifyPlayer p ({ · with bar? := some bar }))
      (fun _ w' => ∃ bar, Staged rule w0 me
        (playerParts p look body c (.player (some hud) (some bar) (some c) none)) [body] w' ∧
          w'.Screened hud bar) fun _ => False := by
  have hc := (h.mine (c, .fighter .restart none none) (by simp [playerParts])).2.2.gist
  obtain ⟨o, cb, ho, hcb, -⟩ := combat_of_gist hc
  refine .step (run_combat_eq_ok.2 ⟨⟨o, ho, hcb⟩, rfl⟩) ?_
  let x : Json := .ofInt (w.camera.w - 300)
  let y : Json := .ofInt (w.camera.h - 20)
  let bar : PartId := ⟨w.parts.size⟩
  have hplaces := (crafts_newBar cb.maxHealth 300 20).places x y
  let u0 : World := { w.withPart (.bar { amount := cb.maxHealth, max := cb.maxHealth }) with
    overlay := w.overlay ++ [bar] }
  refine .step (a := bar) (u := u0) rfl (.step (run_get _) (.step (run_placeParts _ [bar] x y) ?_))
  have hst : Steady w (u0.placed [bar] x y) := hplaces.steady.of_run (r := .ok bar) rfl
  have hbar : Poised w (u0.placed [bar] x y) bar :=
    hplaces.poised rfl h.sound.toTied le_rfl
  generalize u0.placed [bar] x y = u at hst hbar
  have h1 := h.of_steady hst
  have hheaded1 := hhead.of_upholds h.sound.toTied hst.toLasting.upholds
  have hg : u.gist? p = some (.player (some hud) none (some c) none) :=
    (h1.mine (p, _) (by simp [playerParts])).2.2.gist
  have hkept : bar ∉ (Gist.player (some hud) none (some c) none).kept :=
    hbar.free.unkept p _ hg
  have hdist : (Gist.player (some hud) (some bar) (some c) none).kept.Nodup := by
    have hold : (Gist.player (some hud) none (some c) none).kept.Nodup :=
      h1.sound.distinct p _ hg
    simp only [Gist.kept, Option.elim_some, Option.toList_some, Option.toList_none] at hold hkept ⊢
    grind
  have hup : Upholds u (u.altered p (.mapPlayer ({ · with bar? := some bar }))) :=
    .altered (fun items hits => by cases hg.symm.trans hits) _
  have hheaded2 := hheaded1.of_upholds h1.sound.toTied hup
  refine .of_ok (run_modifyPlayer u p _) ⟨bar, ?_, hheaded2.place, hheaded2.message,
    hheaded2.window, hbar.tagged.of_upholds hup⟩
  refine h1.setPlayer h0 (fun pl hpl => ?_) (takes_player hg hdist (fun q hq => ?_)
    (fun _ he => .inl he) (by rintro _ ⟨⟩; exact (h1.mine (c, _) (by simp [playerParts])).2.2.gist))
  · obtain ⟨hhud, -, hcomb, hhp⟩ := Gist.player.inj hpl
    rw [Part.gist, hhud, hcomb, hhp]
  · simp only [Gist.kept, Option.elim_some, Option.toList_some, List.mem_append,
      List.mem_singleton] at hq
    rcases hq with hq | rfl
    · exact .inl (List.mem_append_left _ hq)
    · exact .inr hbar.free

lemma ends_setUp_player
    (h : Staged rule w0 me [(p, .player (some hud) none none (some 100)), (look, .image false),
      (body, .body feet)] [body] w) (hhead : w.Headed hud) :
    Ends w (setUp p) (fun _ w' => ∃ c bar, Staged rule w0 me
      (playerParts p look body c (.player (some hud) (some bar) (some c) none)) [body] w' ∧
        w'.Screened hud bar) fun _ => False := by
  obtain ⟨-, hown, hlists⟩ := h.mine (p, .player (some hud) none none (some 100)) (by simp)
  obtain ⟨o, pl, ho, hpl, -, -, -, hhp⟩ := player_of_gist hlists.gist
  let c : PartId := ⟨w.parts.size⟩
  let fighter : Part := .combat { health := 100, maxHealth := 100, onDeath := .restart }
  have hacting : Lasting w (w.acting fighter) :=
    (Lasting.withPart w fighter).trans (Steady.acting w fighter).toLasting
  rw [setUp]
  refine .step (run_part ho) ?_
  simp only [hpl, setUpPlayer]
  rw [hhp]
  refine .step (run_orAbsent_some _ w) (.step (run_newCombat w _ _) ?_)
  refine .step (run_owner_eq_ok.2 ⟨hacting.ownerOf?_some hown, rfl⟩)
    (.step (run_attach _ me _) ?_)
  have h1 : Staged rule w0 me (playerParts p look body c (.player (some hud) none none (some 100)))
      [body] ((w.acting fighter).attached me c) :=
    h.join h0.toTied (p := fighter) ⟨⟨⟨100, rfl⟩, ⟨100, rfl⟩, _, rfl⟩, .inl rfl⟩ rfl (by simp)
      ⟨(p, .player (some hud) none none (some 100)), by simp, rfl⟩
  have hheaded1 : ((w.acting fighter).attached me c).Headed hud := by
    refine hhead.of_upholds h.sound.toTied (hacting.upholds.trans (.attached ?_ ?_))
    · simp [c, acting, World.withPart, ownerOf?]
    · rw [hacting.partsOf_eq h.there, h.parts]
      simp
  -- the player knows its ability to fight
  have hgist1 : ((w.acting fighter).attached me c).gist? p =
      some (.player (some hud) none none (some 100)) :=
    (h1.mine (p, _) (by simp [playerParts])).2.2.gist
  refine .step (run_modifyPlayer _ p _) ?_
  refine (ends_placeBar h0 (c := c) (h1.setPlayer h0 (fun pl hpl => ?_) (takes_player hgist1
    (h1.sound.distinct p _ hgist1 :) (fun _ hq => .inl hq) (fun _ he => .inl he)
    (by rintro _ ⟨⟩; exact (h1.mine (c, _) (by simp [playerParts])).2.2.gist)))
    (hheaded1.of_upholds h1.sound.toTied (.altered (fun items hits => ?_) _))).mono
    (fun _ _ hw => ⟨c, hw⟩) fun _ hw => hw
  · obtain ⟨hhud, hbar, -, -⟩ := Gist.player.inj hpl
    rw [Part.gist, hhud, hbar]
  · cases hgist1.symm.trans hits

lemma builds_makePlayer : Builds rule w0 [] [] makePlayer := by
  refine ⟨fun w hw => ?_⟩
  rw [makePlayer]
  refine (ends_newPlayer h0 hw).bind fun p u ⟨hud, hu, hhead⟩ => ?_
  -- the look of the player, and its body
  have hlook := crafts_newAnimation (.str "player_sheet2.png") 32 64 (.arr [Cell.of 0 0]) 10 false
  refine .watch hlook.steady (fun u' hu' => (hu.of_steady hu').left) fun look u1 hrun1 hu1 => ?_
  have h1 := hlook.bench hrun1 hu
  let body : PartId := ⟨u1.parts.size⟩
  let u2 : World := Register.bodies.put (u1.withPart (.body feet)) (u1.bodies ++ [body])
  have h2 : Bench rule w0 [(body, .body feet), (look, .image false),
      (p, .player (some hud) none none (some 100))] [body] u2 :=
    h1.enroll (p := .body feet) (show feet.IsSmall by decide) (r := .bodies) rfl
  have hlast : Lasting u u2 :=
    hu1.toLasting.trans ((Lasting.withPart u1 (.body feet)).trans (.put _ .bodies _))
  refine .step (a := body) (u := u2) rfl ?_
  -- they are put together, and the player is set up
  have hstg : Staged rule w0 ⟨u2.entities.size⟩ [(p, .player (some hud) none none (some 100)),
      (look, .image false), (body, .body feet)] [body] (u2.placed [p, look, body] 0 0) :=
    h2.stage (by simp [Gist.isLeaver]) 0 0
  have hhead' : (u2.placed [p, look, body] 0 0).Headed hud := by
    refine hhead.of_upholds hu.sound.toTied (hlast.upholds.trans (.placed (fun q hq => ?_) 0 0))
    have hloose := h2.loose
    simp only [List.forall_mem_cons] at hloose
    simp only [List.mem_cons, List.not_mem_nil, or_false] at hq
    rcases hq with rfl | rfl | rfl
    · exact hloose.2.2.1.2.1
    · exact hloose.2.1.2.1
    · exact hloose.1.2.1
  rw [spawn]
  simp only [List.forM, bind_assoc, pure_bind]
  refine .step (run_placeParts u2 _ 0 0) ?_
  refine .bind ((ends_setUp_player h0 hstg hhead').mono (fun _ _ h => h)
    fun _ h => False.elim h) ?_
  rintro _ u3 ⟨c, bar, h3, hscreened⟩
  have hlook3 := (h3.mine (look, .image false) (by simp [playerParts])).2.2
  have hbody3 := (h3.mine (body, .body feet) (by simp [playerParts])).2.2
  refine .step (run_setUp hlook3.gist (.inl ⟨_, rfl⟩)) ?_
  refine .step (run_setUp hbody3.gist (.inr ⟨.bodies, rfl⟩)) (.pure ?_)
  exact h3.built_player h0 hscreened

end

end Game

end TileQuest
