import TileQuest.Proofs.Maps.Loading
import TileQuest.Proofs.Widgets

/-!
# How parts hang together

A player keeps labels, a bar and an inventory window on the screen, a dialogue keeps its box there,
and an inventory window what it shows. Whoever keeps something takes it down by itself, and that
works only if nobody else took it down before. `World.Tied` says that everything that is kept has
one keeper, and what else has to hold for every part of a world to be taken down in its turn.
-/

namespace TileQuest

variable {ids : List PartId} {e e' : EntityId} {g : Gist} {q k : PartId} {o : Owned}

/-! ## Keeping things on the screen -/

namespace Gist

/-- What a part keeps on the screen, to take it down by itself. -/
def kept : Gist → List PartId
  | view items => items
  | talk shown => shown
  | player hud? bar? _ _ => (hud?.elim [] fun hud => [hud.1, hud.2.1]) ++ bar?.toList
  | _ => []

def window? : Gist → Option EntityId
  | player hud? _ _ _ => hud?.map fun hud => hud.2.2
  | _ => none

/-- A part of this sort is on the screen, and nothing else happens when it is taken down. -/
def isShown : Gist → Bool
  | image isOverlay => isOverlay
  | inputBox => true
  | line => true
  | _ => false

/-- A part of this sort may belong to a tool of the editor. -/
def isWidget : Gist → Bool
  | line => true
  | field => true
  | list => true
  | other => true
  | _ => false

def isPlayer : Gist → Bool
  | player .. => true
  | _ => false

/-- The ability to fight of somebody who leaves the area in death. -/
def isLeaver : Gist → Bool
  | fighter .leave _ _ => true
  | _ => false

/-- The player or an enemy. -/
def isHost : Gist → Bool
  | player .. => true
  | enemy .. => true
  | _ => false

/-- A part of this sort stays what it is. The others get what they keep, whom they are after or
their weapon only later. -/
def isSettled : Gist → Bool
  | view _ => false
  | talk _ => false
  | fighter .leave weapon? sound? => weapon?.isSome && sound?.isSome
  | player .. => false
  | enemy .. => false
  | _ => true

lemma isSettled_of_isShown (h : g.isShown = true) : g.isSettled = true := by
  cases g <;> first | rfl | cases h

lemma isHost_of_isShown (h : g.isShown = true) : g.isHost = false := by
  cases g <;> first | rfl | cases h

lemma isSettled_of_isWidget (h : g.isWidget = true) : g.isSettled = true := by
  cases g <;> first | rfl | cases h

lemma kept_of_isPlain (h : g.isPlain = true) : g.kept = [] := by
  cases g with
  | view items => exact List.isEmpty_iff.1 h
  | talk | player => cases h
  | _ => rfl

lemma window?_of_isPlain (h : g.isPlain = true) : g.window? = none := by
  cases g <;> first | rfl | cases h

lemma isLeaver_of_isPlain (h : g.isPlain = true) : g.isLeaver = false := by
  cases g <;> first | rfl | cases h

lemma isPlayer_of_isPlain (h : g.isPlain = true) : g.isPlayer = false := by
  cases g <;> first | rfl | cases h

end Gist

namespace World

variable {p : PartId}

def HasLeaver (w : World) (e : EntityId) : Prop :=
  ∃ q ∈ w.partsOf e, ∃ g, w.gist? q = some g ∧ g.isLeaver = true

def tools (w : World) : List EntityId := w.editor.toolEntities?.getD []

/-- How the parts and entities of a world hang together: nothing was put out of order, everything
on the screen has one keeper, the ability to fight of a player is one that starts the play anew, and
enemies are after somebody of whom that is known. -/
structure Tied (w : World) : Prop where
  able : ∀ (i : Nat) (o : Owned), w.parts[i]? = some o → o.Able
  owned : ∀ e, ∀ p ∈ w.partsOf e, w.ownerOf? p = some e
  shown : ∀ k g, w.gist? k = some g → ∀ q ∈ g.kept, ∃ g', w.gist? q = some g' ∧ g'.isShown = true
  distinct : ∀ k g, w.gist? k = some g → g.kept.Nodup
  keeper : ∀ k k' g g' q, w.gist? k = some g → w.gist? k' = some g' → q ∈ g.kept → q ∈ g'.kept →
    k = k'
  window : ∀ k k' g g' e, w.gist? k = some g → w.gist? k' = some g' → g.window? = some e →
    g'.window? = some e → k = k'
  housed : ∀ k g e, w.gist? k = some g → g.window? = some e → e.index < w.entities.size
  fighter : ∀ k hud? bar? c health?, w.gist? k = some (.player hud? bar? (some c) health?) →
    w.gist? c = some (.fighter .restart none none)
  player : ∀ e, ∀ p ∈ w.partsOf e, ∀ g, w.gist? p = some g → g.isPlayer = true → ¬ w.HasLeaver e
  aimed : ∀ k combat? e health?, w.gist? k = some (.enemy combat? (some e) health?) →
    e.index < w.entities.size ∧ ¬ w.HasLeaver e
  tools : ∀ e ∈ w.tools, e.index < w.entities.size ∧ ∀ p ∈ w.partsOf e,
    (∃ g, w.gist? p = some g ∧ g.isWidget = true) ∧ ∀ k g, w.gist? k = some g → p ∉ g.kept

variable {w w' : World}

lemma Tied.lt_of_mem_partsOf (h : w.Tied) (hp : p ∈ w.partsOf e) :
    p.index < w.parts.size := lt_of_ownerOf? (h.owned e p hp)

lemma lt_of_mem_partsOf (hp : p ∈ w.partsOf e) : e.index < w.entities.size := by
  rcases Nat.lt_or_ge e.index w.entities.size with hlt | hle
  · exact hlt
  · rw [partsOf, Array.getElem?_eq_none hle] at hp
    cases hp

lemma Tied.eq_of_mem_partsOf (h : w.Tied) (hp : p ∈ w.partsOf e)
    (hp' : p ∈ w.partsOf e') : e = e' :=
  Option.some.inj ((h.owned e p hp).symm.trans (h.owned e' p hp'))

/-! ## Steps that disturb nothing -/

lemma Steady.tools_eq (h : Steady w w') : w'.tools = w.tools := by
  obtain ⟨-, -, -, -, -, -, -, -, htools⟩ := frame_eq_iff.1 h.frame
  rw [World.tools, htools, World.tools]

lemma Steady.gist?_of_not_plain (h : Steady w w')
    (hg : w'.gist? p = some g) (hplain : g.isPlain = false) : w.gist? p = some g := by
  rcases Nat.lt_or_ge p.index w.parts.size with hlt | hle
  · rwa [h.gist?_eq hlt] at hg
  · obtain ⟨o, ho, rfl⟩ := gist?_eq_some.1 hg
    rw [h.plain p.index o hle ho] at hplain
    cases hplain

lemma Steady.gist?_of_mem_kept (h : Steady w w')
    (hg : w'.gist? k = some g) (hq : q ∈ g.kept) : w.gist? k = some g := by
  refine h.gist?_of_not_plain hg (Bool.eq_false_iff.2 fun hplain => ?_)
  rw [Gist.kept_of_isPlain hplain] at hq
  cases hq

lemma Steady.gist?_of_window? (h : Steady w w')
    (hg : w'.gist? k = some g) (he : g.window? = some e) : w.gist? k = some g := by
  refine h.gist?_of_not_plain hg (Bool.eq_false_iff.2 fun hplain => ?_)
  rw [Gist.window?_of_isPlain hplain] at he
  cases he

lemma Steady.plain_of_mem_partsOf (h : Steady w w')
    (he : w.entities.size ≤ e.index) (hp : p ∈ w'.partsOf e) (hg : w'.gist? p = some g) :
    g.isPlain = true := by
  rw [partsOf] at hp
  rcases hen : w'.entities[e.index]? with _ | en
  · rw [hen] at hp
    cases hp
  · rw [hen] at hp
    obtain ⟨hnew, -⟩ := h.newEntity e.index en he hen p hp
    obtain ⟨o, ho, rfl⟩ := gist?_eq_some.1 hg
    exact h.plain p.index o hnew ho

lemma Steady.not_hasLeaver (h : Steady w w') (htied : w.Tied)
    (he : ¬ w.HasLeaver e) : ¬ w'.HasLeaver e := by
  rintro ⟨q, hq, g, hg, hlv⟩
  rcases Nat.lt_or_ge e.index w.entities.size with hlt | hle
  · rw [h.partsOf_eq hlt] at hq
    rw [h.gist?_eq (htied.lt_of_mem_partsOf hq)] at hg
    exact he ⟨q, hq, g, hg, hlv⟩
  · rw [Gist.isLeaver_of_isPlain (h.plain_of_mem_partsOf hle hq hg)] at hlv
    cases hlv

lemma Tied.of_steady (htied : w.Tied) (h : Steady w w') : w'.Tied where
  able i o' ho' := h.able i o' ho' fun o ho => htied.able i o ho
  owned e p hp := by
    rcases Nat.lt_or_ge e.index w.entities.size with hlt | hle
    · rw [h.partsOf_eq hlt] at hp
      exact h.ownerOf?_some (htied.owned e p hp)
    · rw [partsOf] at hp
      rcases hen : w'.entities[e.index]? with _ | en
      · rw [hen] at hp
        cases hp
      · rw [hen] at hp
        exact (h.newEntity e.index en hle hen p hp).2
  shown k g hg q hq := by
    obtain ⟨g', hg', hshn⟩ := htied.shown k g (h.gist?_of_mem_kept hg hq) q hq
    exact ⟨g', h.gist?_some hg', hshn⟩
  distinct k g hg := by
    rcases hplain : g.isPlain with _ | _
    · exact htied.distinct k g (h.gist?_of_not_plain hg hplain)
    · rw [Gist.kept_of_isPlain hplain]
      exact List.nodup_nil
  keeper k k' g g' q hg hg' hq hq' :=
    htied.keeper k k' g g' q (h.gist?_of_mem_kept hg hq) (h.gist?_of_mem_kept hg' hq') hq hq'
  window k k' g g' e hg hg' he he' :=
    htied.window k k' g g' e (h.gist?_of_window? hg he) (h.gist?_of_window? hg' he') he he'
  housed k g e hg he :=
    (htied.housed k g e (h.gist?_of_window? hg he) he).trans_le h.entities_le
  fighter k hud? bar? c health? hg :=
    h.gist?_some (htied.fighter k hud? bar? c health? (h.gist?_of_not_plain hg rfl))
  player e p hp g hg hpl := by
    have hplain : g.isPlain = false := Bool.eq_false_iff.2 fun hplain => by
      rw [Gist.isPlayer_of_isPlain hplain] at hpl
      cases hpl
    rcases Nat.lt_or_ge e.index w.entities.size with hlt | hle
    · rw [h.partsOf_eq hlt] at hp
      exact h.not_hasLeaver htied (htied.player e p hp g (h.gist?_of_not_plain hg hplain) hpl)
    · rw [h.plain_of_mem_partsOf hle hp hg] at hplain
      cases hplain
  aimed k combat? e health? hg := by
    obtain ⟨he, hlv⟩ := htied.aimed k combat? e health? (h.gist?_of_not_plain hg rfl)
    exact ⟨he.trans_le h.entities_le, h.not_hasLeaver htied hlv⟩
  tools e he := by
    rw [h.tools_eq] at he
    obtain ⟨hlt, hps⟩ := htied.tools e he
    refine ⟨hlt.trans_le h.entities_le, fun p hp => ?_⟩
    rw [h.partsOf_eq hlt] at hp
    obtain ⟨⟨g, hg, hwid⟩, hfree⟩ := hps p hp
    exact ⟨⟨g, h.gist?_some hg, hwid⟩,
      fun k g' hg' hmem => hfree k g' (h.gist?_of_mem_kept hg' hmem) hmem⟩

/-! ## Steps that leave the parts alone -/

lemma gist?_of_parts (h : w'.parts = w.parts) (p : PartId) : w'.gist? p = w.gist? p := by
  rw [gist?, h, gist?]

lemma ownerOf?_of_parts (h : w'.parts = w.parts) (p : PartId) : w'.ownerOf? p = w.ownerOf? p := by
  rw [ownerOf?, h, ownerOf?]

/-- Every entity keeps its parts or loses all of them. -/
structure Thins (w w' : World) : Prop where
  parts : w'.parts = w.parts
  entities_le : w.entities.size ≤ w'.entities.size
  entity : ∀ e, w'.partsOf e = w.partsOf e ∨ w'.partsOf e = []

lemma Thins.mem (h : Thins w w') (hp : p ∈ w'.partsOf e) : p ∈ w.partsOf e := by
  rcases h.entity e with hsame | hnil
  · rwa [hsame] at hp
  · rw [hnil] at hp
    cases hp

lemma Thins.not_hasLeaver (h : Thins w w') (he : ¬ w.HasLeaver e) : ¬ w'.HasLeaver e := by
  rintro ⟨q, hq, g, hg, hlv⟩
  rw [gist?_of_parts h.parts] at hg
  exact he ⟨q, h.mem hq, g, hg, hlv⟩

lemma Tied.of_thins (htied : w.Tied) (h : Thins w w')
    (htools : ∀ e ∈ w'.tools, e ∈ w.tools ∨ e.index < w.entities.size ∧ ∀ p ∈ w.partsOf e,
      (∃ g, w.gist? p = some g ∧ g.isWidget = true) ∧ ∀ k g, w.gist? k = some g → p ∉ g.kept) :
    w'.Tied := by
  have hgist (p : PartId) : w'.gist? p = w.gist? p := gist?_of_parts h.parts p
  exact
    { able := fun i o ho => htied.able i o (h.parts ▸ ho)
      owned := fun e p hp => (ownerOf?_of_parts h.parts p).trans (htied.owned e p (h.mem hp))
      shown := by simpa only [hgist] using htied.shown
      distinct := by simpa only [hgist] using htied.distinct
      keeper := by simpa only [hgist] using htied.keeper
      window := by simpa only [hgist] using htied.window
      housed := fun k g e hg he =>
        (htied.housed k g e (hgist k ▸ hg) he).trans_le h.entities_le
      fighter := by simpa only [hgist] using htied.fighter
      player := fun e p hp g hg hpl =>
        h.not_hasLeaver (htied.player e p (h.mem hp) g (hgist p ▸ hg) hpl)
      aimed := fun k combat? e health? hg => by
        obtain ⟨he, hlv⟩ := htied.aimed k combat? e health? (hgist k ▸ hg)
        exact ⟨he.trans_le h.entities_le, h.not_hasLeaver hlv⟩
      tools := fun e he => by
        obtain ⟨hlt, hps⟩ := (htools e he).elim (htied.tools e) id
        refine ⟨hlt.trans_le h.entities_le, fun p hp => ?_⟩
        simpa only [hgist] using hps p (h.mem hp) }

lemma Thins.of_same (hps : w'.parts = w.parts) (hents : w'.entities = w.entities) :
    Thins w w' where
  parts := hps
  entities_le := Nat.le_of_eq (by rw [hents])
  entity e := .inl (by rw [partsOf, hents, partsOf])

lemma Tied.of_same (h : w.Tied)
    (hsame : (w'.parts, w'.entities, w'.tools) = (w.parts, w.entities, w.tools)) : w'.Tied := by
  simp only [Prod.mk.injEq] at hsame
  obtain ⟨hps, hents, htools⟩ := hsame
  exact h.of_thins (.of_same hps hents) fun e he => .inl (htools ▸ he)

lemma Thins.modifyEntity {f : Entity → Entity}
    (hf : ∀ en, (f en).parts = en.parts ∨ (f en).parts = []) :
    Thins w { w with entities := w.entities.modify e.index f } where
  parts := rfl
  entities_le := by simp
  entity e' := by
    rw [partsOf, Array.getElem?_modify]
    split
    · rename_i he
      rcases hen : w.entities[e'.index]? with _ | en
      · exact .inl (by simp [partsOf, hen])
      · rcases hf en with hsame | hnil
        · exact .inl (by simp [partsOf, hen, hsame])
        · exact .inr (by simp [hnil])
    · exact .inl rfl

/-! ## Parts that change -/

/-- A part on the screen that nobody keeps and that belongs to no tool. -/
structure Free (w : World) (q : PartId) : Prop where
  shown : ∃ g, w.gist? q = some g ∧ g.isShown = true
  unkept : ∀ k g, w.gist? k = some g → q ∉ g.kept
  untooled : ∀ e ∈ w.tools, q ∉ w.partsOf e

lemma Tied.lt_of_mem_kept (h : w.Tied) (hg : w.gist? k = some g)
    (hq : q ∈ g.kept) : q.index < w.parts.size := by
  obtain ⟨g', hg', -⟩ := h.shown k g hg q hq
  exact lt_of_gist? hg'

lemma Tied.free_of_new (h : w.Tied) (hst : Steady w w')
    (hq : w.parts.size ≤ q.index) (hg : w'.gist? q = some g) (hshn : g.isShown = true) :
    w'.Free q where
  shown := ⟨g, hg, hshn⟩
  unkept k g' hg' hmem :=
    hq.not_gt (h.lt_of_mem_kept (hst.gist?_of_mem_kept hg' hmem) hmem)
  untooled e he hmem := by
    rw [hst.tools_eq] at he
    rw [hst.partsOf_eq (h.tools e he).1] at hmem
    exact hq.not_gt (h.lt_of_mem_partsOf hmem)

lemma Free.of_steady (hq : w.Free q) (h : w.Tied) (hst : Steady w w') : w'.Free q where
  shown := by
    obtain ⟨g, hg, hshn⟩ := hq.shown
    exact ⟨g, hst.gist?_some hg, hshn⟩
  unkept k g hg hmem := hq.unkept k g (hst.gist?_of_mem_kept hg hmem) hmem
  untooled e he hmem := by
    rw [hst.tools_eq] at he
    rw [hst.partsOf_eq (h.tools e he).1] at hmem
    exact hq.untooled e he hmem

/-- A part may become one of a gist, or a new one of that gist may be made: it keeps what it kept
before or what is free, nobody else keeps its window, and it is none that stays what it is. -/
structure Takes (w : World) (k : PartId) (g' : Gist) : Prop where
  unsettled : ∀ g, w.gist? k = some g → g.isSettled = false
  distinct : g'.kept.Nodup
  kept : ∀ q ∈ g'.kept, (∃ g, w.gist? k = some g ∧ q ∈ g.kept) ∨ w.Free q
  window : ∀ e, g'.window? = some e → (∃ g, w.gist? k = some g ∧ g.window? = some e) ∨
    e.index < w.entities.size ∧ ∀ k' g, w.gist? k' = some g → g.window? ≠ some e
  fighter : ∀ hud? bar? c health?, g' = .player hud? bar? (some c) health? →
    w.gist? c = some (.fighter .restart none none)
  player : g'.isPlayer = true →
    (∃ g, w.gist? k = some g ∧ g.isPlayer = true) ∨ ∀ e, k ∉ w.partsOf e
  leaver : g'.isLeaver = true →
    (∃ g, w.gist? k = some g ∧ g.isLeaver = true) ∨ ∀ e, k ∉ w.partsOf e
  aimed : ∀ combat? e health?, g' = .enemy combat? (some e) health? →
    e.index < w.entities.size ∧ ¬ w.HasLeaver e

structure Changes (w w' : World) (k : PartId) (g' : Gist) : Prop where
  new : w'.gist? k = some g'
  gist : ∀ p, p ≠ k → w'.gist? p = w.gist? p
  owner : ∀ p e, w.ownerOf? p = some e → w'.ownerOf? p = some e
  able : ∀ (i : Nat) (o' : Owned), w'.parts[i]? = some o' → o'.Able
  same : (w'.entities, w'.tools) = (w.entities, w.tools)

section Change

variable {g' : Gist}

lemma Changes.partsOf_eq (h : Changes w w' k g') (e : EntityId) : w'.partsOf e = w.partsOf e := by
  rw [partsOf, (Prod.mk.inj h.same).1, partsOf]

lemma Changes.tools_eq (h : Changes w w' k g') : w'.tools = w.tools := (Prod.mk.inj h.same).2

lemma Changes.cases (h : Changes w w' k g') {p : PartId} (hg : w'.gist? p = some g) :
    p = k ∧ g = g' ∨ p ≠ k ∧ w.gist? p = some g := by
  by_cases hp : p = k
  · subst hp
    exact .inl ⟨rfl, Option.some.inj (hg.symm.trans h.new)⟩
  · exact .inr ⟨hp, (h.gist p hp).symm.trans hg⟩

lemma Changes.kept (h : Changes w w' k g') (htakes : w.Takes k g') {p q : PartId} {g : Gist}
    (hg : w'.gist? p = some g) (hq : q ∈ g.kept) :
    (∃ g, w.gist? p = some g ∧ q ∈ g.kept) ∨ p = k ∧ w.Free q := by
  rcases h.cases hg with ⟨rfl, rfl⟩ | ⟨-, hg⟩
  · rcases htakes.kept q hq with hold | hfree
    · exact .inl hold
    · exact .inr ⟨rfl, hfree⟩
  · exact .inl ⟨g, hg, hq⟩

lemma Changes.hasLeaver (h : Changes w w' k g') (htakes : w.Takes k g')
    (he : w'.HasLeaver e) : w.HasLeaver e := by
  obtain ⟨q, hq, g, hg, hlv⟩ := he
  rw [h.partsOf_eq] at hq
  rcases h.cases hg with ⟨rfl, rfl⟩ | ⟨-, hg⟩
  · rcases htakes.leaver hlv with ⟨g, hg, hlv⟩ | hnone
    · exact ⟨q, hq, g, hg, hlv⟩
    · exact absurd hq (hnone e)
  · exact ⟨q, hq, g, hg, hlv⟩

lemma Takes.ne (htakes : w.Takes k g') (hg : w.gist? q = some g)
    (hsett : g.isSettled = true) : q ≠ k := by
  rintro rfl
  rw [htakes.unsettled g hg] at hsett
  cases hsett

lemma Tied.change (h : w.Tied) (htakes : w.Takes k g') (hch : Changes w w' k g') :
    w'.Tied where
  able := hch.able
  owned e p hp := hch.owner p e (h.owned e p (hch.partsOf_eq e ▸ hp))
  shown p g hg q hq := by
    have hshn : ∃ g, w.gist? q = some g ∧ g.isShown = true := by
      rcases hch.kept htakes hg hq with ⟨g, hg, hq⟩ | ⟨-, hfree⟩
      · exact h.shown p g hg q hq
      · exact hfree.shown
    obtain ⟨g, hg, hshn⟩ := hshn
    exact ⟨g, (hch.gist q (htakes.ne hg (Gist.isSettled_of_isShown hshn))).trans hg, hshn⟩
  distinct p g hg := by
    rcases hch.cases hg with ⟨-, rfl⟩ | ⟨-, hg⟩
    · exact htakes.distinct
    · exact h.distinct p g hg
  keeper p p' g1 g2 q hg1 hg2 hq1 hq2 := by
    rcases hch.kept htakes hg1 hq1 with ⟨g, hg, hq⟩ | ⟨rfl, hfree⟩
    · rcases hch.kept htakes hg2 hq2 with ⟨g', hg', hq'⟩ | ⟨-, hfree⟩
      · exact h.keeper p p' g g' q hg hg' hq hq'
      · exact absurd hq (hfree.unkept p g hg)
    · rcases hch.kept htakes hg2 hq2 with ⟨g', hg', hq'⟩ | ⟨rfl, -⟩
      · exact absurd hq' (hfree.unkept p' g' hg')
      · rfl
  window p p' g1 g2 e hg1 hg2 he1 he2 := by
    have hold {p : PartId} {g : Gist} (hg : w'.gist? p = some g) (he : g.window? = some e) :
        (∃ g, w.gist? p = some g ∧ g.window? = some e) ∨
          p = k ∧ ∀ k' g, w.gist? k' = some g → g.window? ≠ some e := by
      rcases hch.cases hg with ⟨rfl, rfl⟩ | ⟨-, hg⟩
      · exact (htakes.window e he).imp id fun hnone => ⟨rfl, hnone.2⟩
      · exact .inl ⟨g, hg, he⟩
    rcases hold hg1 he1 with ⟨g, hg, he⟩ | ⟨rfl, hnone⟩
    · rcases hold hg2 he2 with ⟨g', hg', he'⟩ | ⟨-, hnone⟩
      · exact h.window p p' g g' e hg hg' he he'
      · exact absurd he (hnone p g hg)
    · rcases hold hg2 he2 with ⟨g', hg', he'⟩ | ⟨rfl, -⟩
      · exact absurd he' (hnone p' g' hg')
      · rfl
  housed p g e hg he := by
    rw [(Prod.mk.inj hch.same).1]
    rcases hch.cases hg with ⟨rfl, rfl⟩ | ⟨-, hg⟩
    · rcases htakes.window e he with ⟨g, hg, he⟩ | ⟨hlt, -⟩
      · exact h.housed p g e hg he
      · exact hlt
    · exact h.housed p g e hg he
  fighter p hud? bar? c health? hg := by
    have hc : w.gist? c = some (.fighter .restart none none) := by
      rcases hch.cases hg with ⟨-, hg⟩ | ⟨-, hg⟩
      · exact htakes.fighter hud? bar? c health? hg.symm
      · exact h.fighter p hud? bar? c health? hg
    exact (hch.gist c (htakes.ne hc rfl)).trans hc
  player e p hp g hg hpl hlv := by
    rw [hch.partsOf_eq] at hp
    have hpl : ∃ g, w.gist? p = some g ∧ g.isPlayer = true := by
      rcases hch.cases hg with ⟨rfl, rfl⟩ | ⟨-, hg⟩
      · exact (htakes.player hpl).resolve_right fun hnone => hnone e hp
      · exact ⟨g, hg, hpl⟩
    obtain ⟨g, hg, hpl⟩ := hpl
    exact h.player e p hp g hg hpl (hch.hasLeaver htakes hlv)
  aimed p combat? e health? hg := by
    have hold : e.index < w.entities.size ∧ ¬ w.HasLeaver e := by
      rcases hch.cases hg with ⟨-, hg⟩ | ⟨-, hg⟩
      · exact htakes.aimed combat? e health? hg.symm
      · exact h.aimed p combat? e health? hg
    rw [(Prod.mk.inj hch.same).1]
    exact ⟨hold.1, fun hlv => hold.2 (hch.hasLeaver htakes hlv)⟩
  tools e he := by
    rw [hch.tools_eq] at he
    obtain ⟨hlt, hps⟩ := h.tools e he
    rw [(Prod.mk.inj hch.same).1]
    refine ⟨hlt, fun p hp => ?_⟩
    rw [hch.partsOf_eq] at hp
    obtain ⟨⟨g, hg, hwid⟩, hfree⟩ := hps p hp
    have hne : p ≠ k := htakes.ne hg (Gist.isSettled_of_isWidget hwid)
    refine ⟨⟨g, (hch.gist p hne).trans hg, hwid⟩, fun p' g' hg' hmem => ?_⟩
    rcases hch.kept htakes hg' hmem with ⟨g, hg, hmem⟩ | ⟨-, hfree'⟩
    · exact hfree p' g hg hmem
    · exact hfree'.untooled e he hp

end Change

lemma Tied.takes_new (h : w.Tied) (hdist : g.kept.Nodup)
    (hkept : ∀ q ∈ g.kept, w.Free q) (hwin : g.window? = none)
    (hfight : ∀ hud? bar? c health?, g ≠ .player hud? bar? (some c) health?)
    (haimed : ∀ combat? e health?, g ≠ .enemy combat? (some e) health?) :
    w.Takes ⟨w.parts.size⟩ g := by
  have hnone : w.gist? ⟨w.parts.size⟩ = none := by simp [gist?]
  have hnob (e : EntityId) : ⟨w.parts.size⟩ ∉ w.partsOf e := fun hmem =>
    (h.lt_of_mem_partsOf hmem).false
  exact
    { unsettled := fun g hg => by
        rw [hnone] at hg
        cases hg
      distinct := hdist
      kept := fun q hq => .inr (hkept q hq)
      window := fun e he => by
        rw [hwin] at he
        cases he
      fighter := fun hud? bar? c health? hg => absurd hg (hfight hud? bar? c health?)
      player := fun _ => .inr hnob
      leaver := fun _ => .inr hnob
      aimed := fun combat? e health? hg => absurd hg (haimed combat? e health?) }

lemma gist?_withPart_self (w : World) (p : Part) :
    (w.withPart p).gist? ⟨w.parts.size⟩ = some p.gist := by
  simp [gist?, withPart]

lemma getElem?_withPart_of_ne (p : Part) {i : Nat} (hi : i ≠ w.parts.size) :
    (w.withPart p).parts[i]? = w.parts[i]? := by
  rw [withPart, Array.getElem?_push, if_neg hi]

lemma changes_withPart (h : w.Tied) {p : Part} (hfit : p.Fit) :
    Changes w (w.withPart p) ⟨w.parts.size⟩ p.gist where
  new := gist?_withPart_self w p
  gist q hq := by
    have hne : q.index ≠ w.parts.size := fun heq => hq (PartId.eq_of_index heq)
    rw [gist?, getElem?_withPart_of_ne p hne, gist?]
  owner q e hq := by
    have hne : q.index ≠ w.parts.size := (lt_of_ownerOf? hq).ne
    rwa [ownerOf?, getElem?_withPart_of_ne p hne]
  able i o' ho' := by
    rw [withPart, Array.getElem?_push] at ho'
    split at ho'
    · cases ho'
      exact ⟨rfl, hfit⟩
    · exact h.able i o' ho'
  same := rfl

def altered (w : World) (k : PartId) (f : Part → Part) : World :=
  { w with parts := w.parts.modify k.index fun o => { o with part := f o.part } }

lemma getElem?_altered_self (ho : w.parts[k.index]? = some o)
    (f : Part → Part) : (w.altered k f).parts[k.index]? = some { o with part := f o.part } := by
  rw [altered, Array.getElem?_modify, if_pos rfl, ho]
  rfl

lemma gist?_altered_self (ho : w.parts[k.index]? = some o)
    (f : Part → Part) : (w.altered k f).gist? k = some (f o.part).gist := by
  rw [gist?, getElem?_altered_self ho]
  rfl

lemma getElem?_altered_of_ne {p : PartId} (hp : p ≠ k) (f : Part → Part) :
    (w.altered k f).parts[p.index]? = w.parts[p.index]? := by
  have hne : k.index ≠ p.index := fun heq => hp (PartId.eq_of_index heq).symm
  rw [altered, Array.getElem?_modify, if_neg hne]

lemma gist?_altered_of_ne {p : PartId} (hp : p ≠ k) (f : Part → Part) :
    (w.altered k f).gist? p = w.gist? p := by
  rw [gist?, getElem?_altered_of_ne hp, gist?]

lemma ownerOf?_altered (w : World) (k p : PartId) (f : Part → Part) :
    (w.altered k f).ownerOf? p = w.ownerOf? p :=
  congrArg Option.join (map_getElem?_modify (fun _ _ => by rfl) p.index)

lemma changes_altered (h : w.Tied) (ho : w.parts[k.index]? = some o)
    {f : Part → Part} (hfit : (f o.part).Fit) : Changes w (w.altered k f) k (f o.part).gist where
  new := gist?_altered_self ho f
  gist p hp := gist?_altered_of_ne hp f
  owner p e hp := (ownerOf?_altered w k p f).trans hp
  able i o' ho' := by
    rw [altered, Array.getElem?_modify] at ho'
    split at ho'
    · rename_i hi
      subst hi
      rw [ho] at ho'
      cases ho'
      exact ⟨(h.able k.index o ho).lost, hfit⟩
    · exact h.able i o' ho'
  same := rfl

/-! ## Entities that are made and grow -/

lemma partsOf_placed_of_lt (he : e.index < w.entities.size)
    (x y : Json) : (w.placed ids x y).partsOf e = w.partsOf e := by
  rw [partsOf, placed]
  exact congrArg (Option.getD · []) (congrArg (Option.map _) (getElem?_push_of_lt he))

lemma partsOf_of_le (he : w.entities.size ≤ e.index) : w.partsOf e = [] := by
  rw [partsOf, Array.getElem?_eq_none he]
  rfl

lemma partsOf_placed_cases (w : World) (ids : List PartId) (x y : Json) (e : EntityId) :
    e = ⟨w.entities.size⟩ ∧ (w.placed ids x y).partsOf e = ids ∨
      (w.placed ids x y).partsOf e = w.partsOf e := by
  rcases Nat.lt_trichotomy e.index w.entities.size with hlt | heq | hgt
  · exact .inr (partsOf_placed_of_lt hlt x y)
  · have he : e = ⟨w.entities.size⟩ := EntityId.eq_of_index heq
    subst he
    exact .inl ⟨rfl, partsOf_placed w ids x y⟩
  · refine .inr ?_
    have hsize : (w.placed ids x y).entities.size = w.entities.size + 1 := by simp [placed, given]
    rw [partsOf_of_le hgt.le, partsOf_of_le (hsize ▸ hgt)]

lemma Tied.placed (h : w.Tied) (hids : ∀ p ∈ ids, p.index < w.parts.size ∧ w.ownerOf? p = none)
    (hlv : ∀ p ∈ ids, ∀ g, w.gist? p = some g → g.isLeaver = false) (x y : Json) :
    (w.placed ids x y).Tied := by
  have hgist (p : PartId) : (w.placed ids x y).gist? p = w.gist? p := gist?_given _ ids _ p
  have hless {e : EntityId} (he : ¬ w.HasLeaver e) : ¬ (w.placed ids x y).HasLeaver e := by
    rintro ⟨q, hq, g, hg, hg'⟩
    rw [hgist] at hg
    rcases partsOf_placed_cases w ids x y e with ⟨-, hps⟩ | hps
    · rw [hlv q (hps ▸ hq) g hg] at hg'
      cases hg'
    · exact he ⟨q, hps ▸ hq, g, hg, hg'⟩
  have hnob {p : PartId} {e : EntityId} (hp : p ∈ w.partsOf e) : p ∉ ids := fun hmem => by
    have hown := h.owned e p hp
    rw [(hids p hmem).2] at hown
    cases hown
  have hsize : w.entities.size < (w.placed ids x y).entities.size := by simp [World.placed, given]
  exact
    { able := fun i o' ho' => by
        rw [getElem?_placed] at ho'
        obtain ⟨o, ho, rfl⟩ := Option.map_eq_some_iff.1 ho'
        split
        · exact ⟨(h.able i o ho).lost, (h.able i o ho).fit⟩
        · exact h.able i o ho
      owned := fun e p hp => by
        rcases partsOf_placed_cases w ids x y e with ⟨rfl, hps⟩ | hps
        · rw [hps] at hp
          exact ownerOf?_given _ _ hp (hids p hp).1
        · rw [hps] at hp
          exact (ownerOf?_given_of_notMem _ _ (hnob hp)).trans (h.owned e p hp)
      shown := by simpa only [hgist] using h.shown
      distinct := by simpa only [hgist] using h.distinct
      keeper := by simpa only [hgist] using h.keeper
      window := by simpa only [hgist] using h.window
      housed := fun k g e hg he => (h.housed k g e (hgist k ▸ hg) he).trans hsize
      fighter := by simpa only [hgist] using h.fighter
      player := fun e p hp g hg hpl => by
        rw [hgist] at hg
        rcases partsOf_placed_cases w ids x y e with ⟨rfl, hps⟩ | hps
        · refine hless ?_
          rintro ⟨q, hq, _⟩
          have hnil : w.partsOf ⟨w.entities.size⟩ = [] := partsOf_of_le le_rfl
          rw [hnil] at hq
          cases hq
        · exact hless (h.player e p (hps ▸ hp) g hg hpl)
      aimed := fun k combat? e health? hg => by
        obtain ⟨he, hnot⟩ := h.aimed k combat? e health? (hgist k ▸ hg)
        exact ⟨he.trans hsize, hless hnot⟩
      tools := fun e he => by
        obtain ⟨hlt, hps⟩ := h.tools e he
        refine ⟨hlt.trans hsize, fun p hp => ?_⟩
        rw [partsOf_placed_of_lt hlt] at hp
        simpa only [hgist] using hps p hp }

lemma gist?_attached (w : World) (e : EntityId) (p q : PartId) :
    (w.attached e p).gist? q = w.gist? q :=
  map_getElem?_modify (fun _ _ => by rfl) q.index

lemma partsOf_attached_self (he : e.index < w.entities.size) (p : PartId) :
    (w.attached e p).partsOf e = w.partsOf e ++ [p] := by
  rw [partsOf, attached, Array.getElem?_modify, if_pos rfl, partsOf, Array.getElem?_eq_getElem he]
  rfl

lemma partsOf_attached_of_ne (he : e' ≠ e) (p : PartId) :
    (w.attached e p).partsOf e' = w.partsOf e' := by
  have hne : e.index ≠ e'.index := fun heq => he (EntityId.eq_of_index heq).symm
  rw [partsOf, attached, Array.getElem?_modify, if_neg hne, partsOf]

lemma mem_partsOf_attached {p : PartId}
    (hq : q ∈ (w.attached e p).partsOf e') : q ∈ w.partsOf e' ∨ e' = e ∧ q = p := by
  by_cases he : e' = e
  · subst he
    rcases Nat.lt_or_ge e'.index w.entities.size with hlt | hle
    · rw [partsOf_attached_self hlt] at hq
      rcases List.mem_append.1 hq with hq | hq
      · exact .inl hq
      · exact .inr ⟨rfl, List.mem_singleton.1 hq⟩
    · have hsize : (w.attached e' p).entities.size = w.entities.size := by simp [attached]
      rw [partsOf_of_le (hsize ▸ hle)] at hq
      cases hq
  · rw [partsOf_attached_of_ne he] at hq
    exact .inl hq

lemma Tied.attached (h : w.Tied) {p : PartId} (hp : p.index < w.parts.size)
    (hnob : w.ownerOf? p = none) (hg : w.gist? p = some g) (hpl : g.isPlayer = false)
    (hlv : g.isLeaver = true → (∀ q ∈ w.partsOf e, ∀ g, w.gist? q = some g → g.isPlayer = false) ∧
      ∀ k combat? health?, w.gist? k ≠ some (.enemy combat? (some e) health?))
    (htools : e ∉ w.tools) : (w.attached e p).Tied := by
  have hgist (q : PartId) : (w.attached e p).gist? q = w.gist? q := gist?_attached w e p q
  have hsize : (w.attached e p).entities.size = w.entities.size := by simp [World.attached]
  have hhas {e' : EntityId} (he' : (w.attached e p).HasLeaver e') :
      w.HasLeaver e' ∨ e' = e ∧ g.isLeaver = true := by
    obtain ⟨q, hq, g', hg', hlv'⟩ := he'
    rw [hgist] at hg'
    rcases mem_partsOf_attached hq with hq | ⟨rfl, rfl⟩
    · exact .inl ⟨q, hq, g', hg', hlv'⟩
    · cases hg.symm.trans hg'
      exact .inr ⟨rfl, hlv'⟩
  exact
    { able := fun i o' ho' => by
        obtain ⟨o, ho, rfl | rfl⟩ := exists_of_getElem?_modify ho'
        · exact h.able i o' ho
        · exact ⟨(h.able i o ho).lost, (h.able i o ho).fit⟩
      owned := fun e' q hq => by
        rcases mem_partsOf_attached hq with hq | ⟨rfl, rfl⟩
        · have hown := h.owned e' q hq
          have hne : q ≠ p := fun heq => by
            rw [heq, hnob] at hown
            cases hown
          exact (ownerOf?_withOwner_of_ne hne _).trans hown
        · exact ownerOf?_withOwner_self hp _
      shown := by simpa only [hgist] using h.shown
      distinct := by simpa only [hgist] using h.distinct
      keeper := by simpa only [hgist] using h.keeper
      window := by simpa only [hgist] using h.window
      housed := by simpa only [hgist, hsize] using h.housed
      fighter := by simpa only [hgist] using h.fighter
      player := fun e' q hq g' hg' hpl' hlv' => by
        rw [hgist] at hg'
        have hmem : q ∈ w.partsOf e' := by
          rcases mem_partsOf_attached hq with hq | ⟨rfl, rfl⟩
          · exact hq
          · cases hg.symm.trans hg'
            rw [hpl] at hpl'
            cases hpl'
        rcases hhas hlv' with hhas | ⟨rfl, hmine⟩
        · exact h.player e' q hmem g' hg' hpl' hhas
        · rw [(hlv hmine).1 q hmem g' hg'] at hpl'
          cases hpl'
      aimed := fun k combat? e' health? hk => by
        rw [hgist] at hk
        obtain ⟨he', hnot⟩ := h.aimed k combat? e' health? hk
        refine ⟨hsize ▸ he', fun hlv' => ?_⟩
        rcases hhas hlv' with hhas | ⟨rfl, hmine⟩
        · exact hnot hhas
        · exact (hlv hmine).2 k combat? health? hk
      tools := fun e' he' => by
        obtain ⟨hlt, hps⟩ := h.tools e' he'
        refine ⟨hsize ▸ hlt, fun q hq => ?_⟩
        have hne : e' ≠ e := fun heq => htools (heq ▸ he')
        rw [partsOf_attached_of_ne hne] at hq
        simpa only [hgist] using hps q hq }

end World

end TileQuest
