import Mathlib.Data.List.Find
import TileQuest.Area.Loading
import TileQuest.Proofs.Bodies.Lifecycle

/-!
# Every body is the body of its owner

Whoever moves looks only at the first body among its parts. That is enough when no registered body
belongs to an entity that has another body before it (`World.OwnBodies`). Here is why the entities
of an area are like that: what is loaded since everything was cleared away is made by factories,
and a factory gives an entity one body at most.
-/

namespace TileQuest

variable {hitbox : Rect} {R : World → World → Prop} {w : World} {n : Nat}

namespace World

variable {w' : World} {p : PartId} {e : EntityId}

/-- What is registered as a body is one, and its owner has no other body before it. -/
structure OwnBodies (w : World) : Prop where
  isBody : ∀ b ∈ w.bodies, w.partIs Part.isBody b = true
  first : ∀ b ∈ w.bodies, ∀ e b', w.ownerOf? b = some e → w.firstBody? e = some b' → b' = b

/-- Every registered body that belongs to an entity belongs to one made since there were `n`, which
has it as its first body and has all its parts. -/
structure Raised (n : Nat) (w : World) : Prop extends OwnBodies w where
  le : n ≤ w.entities.size
  whole : ∀ e, n ≤ e.index → w.IsWhole e
  owner : ∀ b ∈ w.bodies, ∀ e, w.ownerOf? b = some e → n ≤ e.index ∧ e.index < w.entities.size

lemma lt_of_partIs {test : Part → Bool} (h : w.partIs test p = true) :
    p.index < w.parts.size := by
  rcases Nat.lt_or_ge p.index w.parts.size with hlt | hle
  · exact hlt
  · rw [partIs_of_size_le hle] at h
    cases h

lemma Tame.ownerOf?_eq (h : Tame w w') (hp : p.index < w.parts.size) :
    w'.ownerOf? p = w.ownerOf? p :=
  congrArg Option.join (h.owner p.index hp)

lemma OwnBodies.of_tame (hw : OwnBodies w) (h : Tame w w') : OwnBodies w' where
  isBody b hb := (h.isBody b).trans (hw.isBody b (h.bodies.subset hb))
  first b hb e b' he hfst := by
    have hold := h.bodies.subset hb
    rw [h.ownerOf?_eq (lt_of_partIs (hw.isBody b hold))] at he
    exact hw.first b hold e b' he (h.firstBody e b' hfst)

lemma Raised.of_tame (hw : Raised n w) (h : Tame w w') : Raised n w' :=
  { hw.toOwnBodies.of_tame h with
    le := hw.le.trans h.entities_le
    whole := fun e he => h.whole e (hw.whole e he)
    owner := fun b hb e he => by
      have hold := h.bodies.subset hb
      rw [h.ownerOf?_eq (lt_of_partIs (hw.isBody b hold))] at he
      obtain ⟨hn, hsize⟩ := hw.owner b hold e he
      exact ⟨hn, hsize.trans_le h.entities_le⟩ }

lemma Raised.of_bodies_nil (h : w.bodies = []) : Raised w.entities.size w where
  isBody b hb := by simp [h] at hb
  first b hb := by simp [h] at hb
  le := le_rfl
  whole e he en hen := by
    rw [Array.getElem?_eq_none he] at hen
    cases hen
  owner b hb := by simp [h] at hb

def withBody (w : World) (hitbox : Rect) : World :=
  { w with
    parts := w.parts.push { part := .body hitbox }
    bodies := w.bodies ++ [⟨w.parts.size⟩] }

lemma Drafts.withBody (w : World) (hitbox : Rect) : Drafts w (w.withBody hitbox) :=
  (Drafted.enroll (r := .bodies) (.make w (.body hitbox)) (by simp)).drafts

lemma partIs_withBody (hp : p.index < w.parts.size) :
    (w.withBody hitbox).partIs Part.isBody p = w.partIs Part.isBody p :=
  partIs_push (o := { part := .body hitbox }) Part.isBody hp.ne

lemma isBody_withBody (hitbox : Rect) :
    (w.withBody hitbox).partIs Part.isBody ⟨w.parts.size⟩ = true := by
  simp [withBody, partIs, Part.isBody]

lemma Raised.withBody (hw : Raised n w) (hitbox : Rect) : Raised n (w.withBody hitbox) := by
  have hmem {b : PartId} (hb : b ∈ (w.withBody hitbox).bodies) :
      b ∈ w.bodies ∨ b = ⟨w.parts.size⟩ := by
    simpa [World.withBody] using hb
  have hnob : (w.withBody hitbox).ownerOf? ⟨w.parts.size⟩ = none := by
    simp [World.withBody, ownerOf?]
  have hown {b : PartId} (hb : b ∈ w.bodies) :
      (w.withBody hitbox).ownerOf? b = w.ownerOf? b := by
    rw [ownerOf?, World.withBody, getElem?_push_of_lt (lt_of_partIs (hw.isBody b hb)), ownerOf?]
  -- an entity that has all its parts does not have the new one
  have hfst {e : EntityId} (he : n ≤ e.index) :
      (w.withBody hitbox).firstBody? e = w.firstBody? e := by
    rw [firstBody?, firstBody?]
    change w.entities[e.index]?.bind _ = _
    rcases hen : w.entities[e.index]? with _ | en
    · rfl
    · exact List.find?_congr fun p hp => partIs_withBody (hw.whole e he en hen p hp)
  refine ⟨⟨fun b hb => ?_, fun b hb e b' he hb' => ?_⟩, hw.le, fun e he => ?_, fun b hb e he => ?_⟩
  · rcases hmem hb with hb | rfl
    · rw [partIs_withBody (lt_of_partIs (hw.isBody b hb)), hw.isBody b hb]
    · exact isBody_withBody hitbox
  · rcases hmem hb with hb | rfl
    · rw [hown hb] at he
      rw [hfst (hw.owner b hb e he).1] at hb'
      exact hw.first b hb e b' he hb'
    · rw [hnob] at he
      cases he
  · exact (hw.whole e he).of_kept rfl (by simp [World.withBody])
  · rcases hmem hb with hb | rfl
    · rw [hown hb] at he
      exact hw.owner b hb e he
    · rw [hnob] at he
      cases he

lemma Raised.push_entity (hw : Raised n w) {en : Entity}
    (hth : ∀ p ∈ en.parts, p.index < w.parts.size) :
    Raised n { w with entities := w.entities.push en } where
  isBody := hw.isBody
  first b hb e b' he hb' := by
    have hsize := (hw.owner b hb e he).2
    refine hw.first b hb e b' he ?_
    rwa [firstBody?, getElem?_push_of_lt hsize] at hb'
  le := by simpa using Nat.le_succ_of_le hw.le
  whole e he en' hen' p hp := by
    rw [Array.getElem?_push] at hen'
    split at hen'
    · cases hen'
      exact hth p hp
    · exact hw.whole e he en' hen' p hp
  owner b hb e he := by
    obtain ⟨hn, hsize⟩ := hw.owner b hb e he
    exact ⟨hn, by simpa using Nat.lt_succ_of_lt hsize⟩

lemma eq_of_ownerOf?_withOwner {e' : EntityId}
    (h : (w.withOwner p (some e)).ownerOf? p = some e') : e' = e := by
  rw [ownerOf?, World.withOwner, Array.getElem?_modify, if_pos rfl] at h
  rcases hp : w.parts[p.index]? with _ | o
  · simp [hp] at h
  · simpa [hp] using h.symm

lemma Raised.withOwner (hw : Raised n w) (hn : n ≤ e.index) (hsize : e.index < w.entities.size)
    (hfst : w.partIs Part.isBody p = true → ∀ b', w.firstBody? e = some b' → b' = p) :
    Raised n (w.withOwner p (some e)) where
  isBody b hb := (partIs_withOwner w p (some e) b).trans (hw.isBody b hb)
  first b hb e' b' he' hb' := by
    have hold : w.firstBody? e' = some b' :=
      firstBody?_of_same hb' rfl (partIs_withOwner w p (some e))
    by_cases hbp : b = p
    · subst hbp
      rw [eq_of_ownerOf?_withOwner he'] at hold
      exact hfst (hw.isBody b hb) b' hold
    · rw [ownerOf?_withOwner_of_ne hbp] at he'
      exact hw.first b hb e' b' he' hold
  le := hw.le
  whole e he := (hw.whole e he).of_kept rfl (by simp [World.withOwner])
  owner b hb e' he' := by
    by_cases hbp : b = p
    · subst hbp
      rw [eq_of_ownerOf?_withOwner he']
      exact ⟨hn, hsize⟩
    · rw [ownerOf?_withOwner_of_ne hbp] at he'
      exact hw.owner b hb e' he'

/-- No area and no ground is lost, and the registered bodies stay those of entities raised since a
time. -/
structure Grows (w w' : World) : Prop where
  loads_le : w.loads ≤ w'.loads
  raised : ∀ n, Raised n w → Raised n w'

instance : IsPreorder World Grows where
  refl _ := ⟨le_rfl, fun _ h => h⟩
  trans _ _ _ h h' := ⟨h.loads_le.trans h'.loads_le, fun n hn => h'.raised n (h.raised n hn)⟩

instance : Game.Allows Tame Grows :=
  ⟨fun _ _ h => ⟨h.loads_le, fun _ hn => hn.of_tame h⟩⟩

end World

namespace Game

open World

variable {w0 : World} {ids : List PartId}

/-! ## Entities with one body at most -/

lemma raised_placeParts (hw : Raised n w) (hth : ∀ p ∈ ids, p.index < w.parts.size)
    (hone : ∀ b ∈ ids, ∀ b' ∈ ids, w.partIs Part.isBody b = true →
      w.partIs Part.isBody b' = true → b' = b) (x y : Json) :
    Raised n ((placeParts ids x y).runOn w).2 := by
  have hn := hw.le
  -- what holds of the new entity while its parts are given to it one after the other
  have howners : ∀ qs : List PartId, (∀ q ∈ qs, q ∈ ids) → ∀ u : World, Raised n u →
      u.entities = w.entities.push { x, y, parts := ids } →
      (∀ p, u.partIs Part.isBody p = w.partIs Part.isBody p) →
      Raised n ((qs.forM fun p => setOwner p (some ⟨w.entities.size⟩)).runOn u).2 := by
    intro qs
    induction qs with
    | nil => exact fun _ u hu _ _ => hu
    | cons q qs ih =>
      intro hqs u hu hents hbody
      refine ih (fun q' hq' => hqs q' (.tail _ hq')) (u.withOwner q _) ?_ hents
        fun p => (partIs_withOwner u q _ p).trans (hbody p)
      refine hu.withOwner hn (by simp [hents]) fun hq b' hb' => ?_
      obtain ⟨en, hen, hfind⟩ := firstBody?_eq_some.1 hb'
      rw [hents] at hen
      simp only [Array.getElem?_push_size, Option.some.injEq] at hen
      subst hen
      rw [hbody] at hq
      refine hone q (hqs q (.head _)) b' (List.mem_of_find?_eq_some hfind) hq ?_
      rw [← hbody]
      exact List.find?_some hfind
  rw [placeParts, run_get_bind, run_modify_bind, snd_run_bind_pure]
  exact howners ids (fun _ h => h) _ (hw.push_entity hth) rfl fun _ => rfl

/-- Since an earlier world things only grew, and of some parts it is known that they are there and
are no bodies, or are bodies. -/
structure Made (w0 : World) (plain bodies : List PartId) (w : World) : Prop where
  grows : Orderly Grows w0 w
  plain : ∀ p ∈ plain, p.index < w.parts.size ∧ w.partIs Part.isBody p = false
  bodies : ∀ b ∈ bodies, w.partIs Part.isBody b = true

/-- With the parts made so far, the step only lets things grow. -/
def Makes {α : Type} (w0 : World) (plain bodies : List PartId) (g : Game α) : Prop :=
  ∀ w, Made w0 plain bodies w → Orderly Grows w0 (g.runOn w).2

section Makes

variable {α β : Type} {plain bodies : List PartId}

lemma Made.of_tame {w' : World} (h : Made w0 plain bodies w) (htame : Orderly Tame w w') :
    Made w0 plain bodies w' where
  grows := IsTrans.trans w0 w w' h.grows (Allows.allows w w' htame)
  plain p hp :=
    ⟨(h.plain p hp).1.trans_le htame.holds.parts_le,
      (htame.holds.isBody p).trans (h.plain p hp).2⟩
  bodies b hb := (htame.holds.isBody b).trans (h.bodies b hb)

lemma Obeys.of_makes {g : Game α} (h : ∀ w0, Makes w0 [] [] g) : Obeys (Orderly Grows) g :=
  fun w => h w w ⟨Std.Refl.refl w, nofun, nofun⟩

lemma Makes.bind {g : Game α} {f : α → Game β} (hg : Makes w0 plain bodies g)
    (hf : ∀ a, Obeys (Orderly Grows) (f a)) : Makes w0 plain bodies (g >>= f) := by
  intro w h
  exact snd_run_bind (hg w h) (fun _ hu => hu) fun a u _ hu => IsTrans.trans w0 u _ hu (hf a u)

lemma Makes.tame {g : Game α} {f : α → Game β} (hg : Obeys (Orderly Tame) g)
    (hf : ∀ a, Makes w0 plain bodies (f a)) : Makes w0 plain bodies (g >>= f) := by
  intro w h
  exact snd_run_bind (h.of_tame (hg w)) (fun _ hu => hu.grows) fun a u _ hu => hf a u hu

lemma Makes.part {g : Game PartId} {f : PartId → Game β} (hg : Obeys (Orderly Tame) g) (hfr : Fresh g)
    (hf : ∀ id, Makes w0 (id :: plain) bodies (f id)) : Makes w0 plain bodies (g >>= f) := by
  intro w h
  refine snd_run_bind (hg w) (fun u htame => (h.of_tame htame).grows) fun id u hrun htame => ?_
  obtain ⟨hbef, hth⟩ := (hfr w u id hrun).1 id (.head _)
  have hu := h.of_tame htame
  refine hf id u ⟨hu.grows, fun p hp => ?_, hu.bodies⟩
  rcases List.mem_cons.1 hp with rfl | hp
  · exact ⟨hth, htame.holds.not_isBody hbef⟩
  · exact hu.plain p hp

lemma Makes.body {f : PartId → Game β} (hf : ∀ id, Makes w0 plain (id :: bodies) (f id)) :
    Makes w0 plain bodies (newBody hitbox >>= f) := by
  intro w h
  have hrun : (newBody hitbox).runOn w = (.ok ⟨w.parts.size⟩, w.withBody hitbox) := rfl
  rw [bind_ok hrun]
  refine hf _ _ ⟨?_, fun p hp => ?_, fun b hb => ?_⟩
  · exact ⟨⟨h.grows.holds.loads_le, fun n hn => (h.grows.holds.raised n hn).withBody hitbox⟩,
      h.grows.drafts.trans (.withBody w hitbox)⟩
  · obtain ⟨hth, hbody⟩ := h.plain p hp
    exact ⟨by simpa [withBody] using Nat.lt_succ_of_lt hth, (partIs_withBody hth).trans hbody⟩
  · rcases List.mem_cons.1 hb with rfl | hb
    · exact isBody_withBody hitbox
    · have hbody := h.bodies b hb
      exact (partIs_withBody (lt_of_partIs hbody)).trans hbody

lemma Makes.spawn (hids : ∀ p ∈ ids, p ∈ plain ∨ p ∈ bodies)
    (hone : ∀ b ∈ bodies, ∀ b' ∈ bodies, b' = b) (x y : Json) :
    Makes w0 plain bodies (spawn ids x y) := by
  have hsetUp (e : EntityId) : Obeys (Orderly Grows) (do ids.forM setUp; return e) :=
    (Obeys.forM obeys_setUp ids).bind fun _ => .pure _
  refine Makes.bind (fun w h => ?_) hsetUp
  have hth (p : PartId) (hp : p ∈ ids) : p.index < w.parts.size := by
    rcases hids p hp with hp | hp
    · exact (h.plain p hp).1
    · exact lt_of_partIs (h.bodies p hp)
  have hbods (b : PartId) (hb : b ∈ ids) (hbody : w.partIs Part.isBody b = true) :
      b ∈ bodies := by
    rcases hids b hb with hb | hb
    · rw [(h.plain b hb).2] at hbody
      cases hbody
    · exact hb
  refine ⟨⟨h.grows.holds.loads_le.trans (idle_placeParts ids x y w).loads_le,
    fun n hn => ?_⟩, h.grows.drafts.trans (drafts_placeParts ids x y w)⟩
  exact raised_placeParts (h.grows.holds.raised n hn) hth
    (fun b hb b' hb' hbody hbody' => hone b (hbods b hb hbody) b' (hbods b' hb' hbody')) x y

end Makes

/-! ## The factories -/

lemma obeys_moveEntity [Allows (Orderly Tame) R] (e : EntityId) (x y : Json) :
    Obeys R (moveEntity e x y) := obeys_modifyEntity e fun _ => rfl

section Messages

variable [IsPreorder World R] [Allows (Orderly Steady) R]

lemma obeys_showMessage (id : PartId) (text : Json) : Obeys R (showMessage id text) :=
  (obeys_player id).bind fun _ => (Obeys.orAbsent _).bind fun _ => (obeys_setText _ text).bind fun _ =>
    obeys_modifyPlayer_of_gist id fun p => by
      rw [Part.gist, Part.gist]
      cases p.hud? <;> rfl

lemma obeys_tell (id : PartId) (text : String) : Obeys R (tell id text) := obeys_showMessage id _

lemma obeys_randomBetween (low high : Int) : Obeys R (randomBetween low high) :=
  obeys_nextRandom.bind fun _ => .pure _

end Messages

lemma obeys_homeName [IsPreorder World R] : Obeys R homeName :=
  .bind .get fun _ => .orAbsent _

section Parts

variable [IsPreorder World R] [Allows (Orderly Still) R]

lemma obeys_newUsable (name : Json) (form : UsableForm) : Obeys R (newUsable name form) :=
  Drafting.allow (R := Shed) (.bind (.make (obeys_newPart_shed rfl) rfl) fun _ id =>
    .enroll (obeys_enlistUsable id) (fun _ => rfl) (by decide) fun _ => .pure)

lemma fresh_newUsable (name : Json) (form : UsableForm) : Fresh (newUsable name form) :=
  (fresh_newPart _).gives fun id => .bind (obeys_enlistUsable id) fun _ => .pure id

lemma obeys_newTrigger (hitbox : Rect) (form : TriggerForm) : Obeys R (newTrigger hitbox form) :=
  Drafting.allow (R := Still) (.bind (.make (obeys_newPart_shed rfl) rfl) fun _ id =>
    .enroll (obeys_enlistTrigger id) (fun _ => rfl) (by decide) fun _ => .pure)

lemma fresh_newTrigger (hitbox : Rect) (form : TriggerForm) : Fresh (newTrigger hitbox form) :=
  (fresh_newPart _).gives fun id => .bind (obeys_enlistTrigger id) fun _ => .pure id

lemma obeys_newTree (name stump : String) : Obeys R (newTree name stump) :=
  (obeys_newUsable _ _).bind fun _ => (obeys_loadSound _ _).bind fun _ => .pure _

lemma fresh_newTree (name stump : String) : Fresh (newTree name stump) :=
  (fresh_newUsable _ _).gives fun id => .bind (obeys_loadSound _ _) fun _ => .pure id

lemma obeys_newRock (name : String) : Obeys R (newRock name) :=
  (obeys_newUsable _ _).bind fun _ => (obeys_loadSound _ _).bind fun _ => .pure _

lemma fresh_newRock (name : String) : Fresh (newRock name) :=
  (fresh_newUsable _ _).gives fun id => .bind (obeys_loadSound _ _) fun _ => .pure id

lemma obeys_newTeleporter (file column row : Json) : Obeys R (newTeleporter file column row) :=
  (obeys_newTrigger _ _).bind fun _ => (obeys_print _).bind fun _ => .pure _

lemma fresh_newTeleporter (file column row : Json) : Fresh (newTeleporter file column row) :=
  (fresh_newTrigger _ _).gives fun id => .bind (obeys_print _) fun _ => .pure id

lemma obeys_newEnemy (health : Json) (weapon : Int) : Obeys R (newEnemy health weapon) :=
  .lifts fun _ => Drafting.allow (R := Still)
    (.bind (.make (obeys_newPart_shed rfl) rfl) fun _ id => .activate (by decide) <|
      .step (obeys_randomBetween _ _) fun _ => .step (obeys_modifyEnemy id _) fun _ => .pure)

lemma fresh_newEnemy (health : Json) (weapon : Int) : Fresh (newEnemy health weapon) :=
  .bind (.lift _) fun _ => (fresh_newPart _).gives fun id => .bind (obeys_activate id) fun _ =>
    .bind (obeys_randomBetween _ _) fun _ => .bind (obeys_modifyEnemy id _) fun _ => .pure id

end Parts

lemma obeys_newPlayer (health : Json) : Obeys (Orderly Tame) (newPlayer health) := by
  have hwin : Obeys (Orderly Tame) (newBagView playerBag >>= fun view => placeParts [view] 0 0) :=
    (obeys_newBagView playerBag).bind_fresh (fresh_newBagView playerBag) fun _ _ => tame_placeParts _ _
  suffices hmade : Drafting Tame [] (newPlayer health) from hmade.obeys
  refine .bind (.make (obeys_newPart_shed rfl) rfl) fun _ id =>
    .activate (by decide) <| .step (obeys_placeLabel _ _ _ _ _) fun place =>
    .step obeys_homeName fun _ => .step (obeys_placeLabel _ _ _ _ _) fun message => ?_
  rw [← bind_assoc]
  exact .step hwin fun _ => .step (obeys_owner place) fun _ => .step .get fun _ =>
    .step (obeys_moveEntity _ _ _) fun _ => .step (obeys_owner message) fun _ =>
    .step (obeys_moveEntity _ _ _) fun _ => .step (obeys_modifyPlayer id _) fun _ =>
    .step obeys_homeName fun _ => .step (obeys_tell id _) fun _ =>
    .step (obeys_modifyPlayer id _) fun _ => .pure

lemma fresh_newPlayer (health : Json) : Fresh (newPlayer health) :=
  (fresh_newPart _).gives fun id => .bind (obeys_activate id) fun _ =>
    .bind (obeys_placeLabel _ _ _ _ _) fun place => .bind obeys_homeName fun _ =>
    .bind (obeys_placeLabel _ _ _ _ _) fun message =>
    .bind_placeNew (obeys_newBagView playerBag) (fresh_newBagView playerBag) fun _ =>
    .bind (obeys_owner place) fun _ => .bind .get fun _ => .bind (obeys_moveEntity _ _ _) fun _ =>
    .bind (obeys_owner message) fun _ => .bind (obeys_moveEntity _ _ _) fun _ =>
    .bind (obeys_modifyPlayer id _) fun _ =>
    .bind obeys_homeName fun _ => .bind (obeys_tell id _) fun _ =>
    .bind (obeys_modifyPlayer id _) fun _ => .pure id

lemma grows_makePlayer : Obeys (Orderly Grows) makePlayer :=
  .of_makes fun _ => .part (obeys_newPlayer _) (fresh_newPlayer _) fun _ =>
    .part (obeys_newAnimation _ _ _ _ _ _) (fresh_newAnimation _ _ _ _ _ _) fun _ =>
      .body fun _ => .spawn (by simp) (by simp) _ _

lemma grows_makeTree : Obeys (Orderly Grows) makeTree :=
  .of_makes fun _ => .part (obeys_newSprite _ _) (fresh_newSprite _ _) fun _ => .body fun _ =>
    .part (obeys_newTree _ _) (fresh_newTree _ _) fun _ => .spawn (by simp) (by simp) _ _

lemma grows_makeRock : Obeys (Orderly Grows) makeRock :=
  .of_makes fun _ => .part (obeys_newSprite _ _) (fresh_newSprite _ _) fun _ => .body fun _ =>
    .part (obeys_newRock _) (fresh_newRock _) fun _ => .spawn (by simp) (by simp) _ _

lemma grows_makeTeleporter (icon : String) (args : Json) :
    Obeys (Orderly Grows) (makeTeleporter icon args) :=
  .of_makes fun _ => .tame (.lift _) fun _ => .tame (.lift _) fun _ => .tame (.lift _) fun _ =>
    .part (obeys_newTeleporter _ _ _) (fresh_newTeleporter _ _ _) fun _ =>
      .part (obeys_newSprite _ _) (fresh_newSprite _ _) fun _ => .spawn (by simp) (by simp) _ _

lemma grows_makeDropped (args : Json) : Obeys (Orderly Grows) (makeDropped args) :=
  .of_makes fun _ => .tame (.lift _) fun _ => .tame (.lift _) fun _ => .tame (.lift _) fun _ =>
    .tame (.lift _) fun _ => .tame (.lift _) fun _ =>
      .part (obeys_newTrigger _ _) (fresh_newTrigger _ _) fun _ =>
        .part (obeys_newSprite _ _) (fresh_newSprite _ _) fun _ => .spawn (by simp) (by simp) _ _

lemma grows_makeCharacter (args : Json) : Obeys (Orderly Grows) (makeCharacter args) :=
  .of_makes fun _ => .tame (.lift _) fun _ => .tame (.lift _) fun _ =>
    .part (obeys_newSprite _ _) (fresh_newSprite _ _) fun _ => .tame (.lift _) fun _ =>
      .tame (.lift _) fun _ => .part (obeys_newUsable _ _) (fresh_newUsable _ _) fun _ =>
        .spawn (by simp) (by simp) _ _

lemma grows_makeEnemy (args : Json) : Obeys (Orderly Grows) (makeEnemy args) :=
  .of_makes fun _ => .tame (.lift _) fun _ => .tame (.lift _) fun _ =>
    .part (obeys_newSprite _ _) (fresh_newSprite _ _) fun _ =>
      .part (obeys_newEnemy _ _) (fresh_newEnemy _ _) fun _ =>
        .body fun _ => .spawn (by simp) (by simp) _ _

lemma grows_makeEntity (factory : Int) (args : Json) : Obeys (Orderly Grows) (makeEntity factory args) := by
  rw [makeEntity]
  split
  · exact grows_makePlayer
  · exact grows_makeTree
  · exact grows_makeRock
  · exact grows_makeTeleporter _ args
  · exact grows_makeTeleporter _ args
  · exact grows_makeTeleporter _ args
  · exact grows_makeTeleporter _ args
  · exact grows_makeDropped args
  · exact grows_makeCharacter args
  · exact grows_makeEnemy args
  · exact .throw _

lemma obeys_moveToTile [IsPreorder World R] [Allows (Orderly Tame) R]
    (e : EntityId) (column row : Json) : Obeys R (moveToTile e column row) :=
  .lifts fun _ => (obeys_modifyEntity e fun _ => by rfl).bind fun _ => .lifts fun _ =>
    obeys_modifyEntity e fun _ => rfl

lemma grows_placePlaceholder (a : AreaId) (icon : String) (p : Placeholder) (x y : Scalar) :
    Obeys (Orderly Grows) (placePlaceholder a icon p x y) :=
  .of_makes fun _ => .part (obeys_newSprite icon false) (fresh_newSprite icon false) fun _ =>
    .part (obeys_newPart_shed rfl) (fresh_newPart _) fun _ =>
      Makes.bind (.spawn (by simp) (by simp) _ _) fun e => (obeys_hasPart e _).bind fun _ =>
        .ite (obeys_modifyArea a fun _ => by rfl) (.pure _)

lemma grows_loadRecord (a : AreaId) (line : String) : Obeys (Orderly Grows) (loadRecord a line) :=
  .lifts fun _ => (obeys_area a).bind fun _ => .ite
    (.lifts fun _ => .lifts fun _ => grows_placePlaceholder a _ _ _ _)
    (.lifts fun _ => Obeys.bind
        ((grows_makeEntity _ _).bind fun e => (obeys_moveToTile e _ _).bind fun _ => .pure _)
        fun _ => obeys_modifyArea a fun _ => by rfl)

lemma grows_loadRecords (a : AreaId) (lines : List String) : Obeys (Orderly Grows) (loadRecords a lines) :=
  .forM (fun line => .tryCatch (grows_loadRecord a line) fun _ => obeys_note _) lines

end Game

end TileQuest
