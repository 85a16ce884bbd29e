import TileQuest.Play.Usables
import TileQuest.Proofs.Talk.Words

/-!
# Steps that do not look at where conversations are kept

Almost all that happens in the world has nothing to do with where conversations are kept. To say so,
the places where they are kept are taken out of the world: `World.backed` puts them in, and a step is
blind (`Game.Blind`) if it does the same whatever is put in, and leaves all conversations alone.
-/

namespace TileQuest

/-- The part, its conversation being kept somewhere else. -/
def Part.backed (b : Backend) : Part → Part
  | .dialogue d => .dialogue { d with agent? := d.agent?.map ({ · with backend := b }) }
  | p => p

lemma Part.backed_of_ne {p : Part} (hp : ∀ d, p ≠ .dialogue d) (b : Backend) :
    p.backed b = p := by
  cases p with
  | dialogue d => exact absurd rfl (hp d)
  | _ => rfl

/-- What is said of a part, its conversation being kept somewhere else. -/
def Owned.backed (b : Backend) (o : Owned) : Owned := { o with part := o.part.backed b }

lemma Owned.backed_backed (b b' : Backend) (o : Owned) :
    (o.backed b).backed b' = o.backed b' := by
  obtain ⟨p, owner?, unreadable?, lost⟩ := o
  cases p with
  | dialogue d => simp only [backed, Part.backed, Option.map_map, Function.comp_def]
  | _ => rfl

lemma Owned.modify_map_backed {b : Backend} {f g : Owned → Owned}
    (h : ∀ o, f (Owned.backed b o) = (g o).backed b) (parts : Array Owned) (i : Nat) :
    (parts.map (Owned.backed b)).modify i f = (parts.modify i g).map (Owned.backed b) := by
  refine Array.ext_getElem? fun j => ?_
  simp only [Array.getElem?_modify, Array.getElem?_map]
  split
  · rw [Option.map_map, Option.map_map]
    congr 1
    funext o
    exact h o
  · rfl

/-- Where conversations are kept, and what was written down before. -/
structure Backing where
  backend : Backend
  chats : ChatStore
  disk : Disk
  log : List Notice

/-- The name can be that of a file: no slash, no null character, and short enough. -/
def IsFileName (name : String) : Prop :=
  '/' ∉ name.toList ∧ '\x00' ∉ name.toList ∧ (name ++ ".pkl").utf8ByteSize ≤ Disk.maxNameSize

instance (name : String) : Decidable (IsFileName name) := inferInstanceAs (Decidable (_ ∧ _ ∧ _))

namespace World

variable {v u z : World} {c : Backing} {id : PartId}

/-- The world, its conversations being kept somewhere else. -/
def backed (v : World) (c : Backing) : World :=
  { v with
    parts := v.parts.map (Owned.backed c.backend)
    chats := c.chats, disk := c.disk, log := v.log ++ c.log }

lemma getElem?_backed (v : World) (c : Backing) (i : Nat) :
    (v.backed c).parts[i]? = v.parts[i]?.map (Owned.backed c.backend) :=
  Array.getElem?_map

/-- All dialogues were there before, with the same character and the same conversation, or are new,
with a character whose name can be that of a file, and no conversation. -/
def Deaf (v u : World) : Prop :=
  ∀ i d', u.talk? i = some d' →
    (∃ d, v.talk? i = some d ∧ d'.npcName = d.npcName ∧ d'.agent? = d.agent?) ∨
      d'.agent? = none ∧ ∃ name, d'.npcName = .str name ∧ IsFileName name

lemma Deaf.refl (v : World) : Deaf v v := fun _ d hd => .inl ⟨d, hd, rfl, rfl⟩

lemma Deaf.trans (h : Deaf v u) (h' : Deaf u z) : Deaf v z := by
  intro i d'' hd''
  obtain ⟨d', hd', hn, ha⟩ | hnew := h' i d'' hd''
  · obtain ⟨d, hd, hn', ha'⟩ | ⟨hnone, hn'⟩ := h i d' hd'
    · exact .inl ⟨d, hd, hn.trans hn', ha.trans ha'⟩
    · exact .inr ⟨ha.trans hnone, by rwa [hn]⟩
  · exact .inr hnew

lemma Deaf.of_parts (h : u.parts = v.parts) : Deaf v u := by
  intro i d hd
  exact .inl ⟨d, (talk?_of_part (by rw [h])).trans hd, rfl, rfl⟩

end World

namespace Game

open World

variable {α β γ : Type} {id : PartId}

/-- A step does the same wherever conversations are kept, and leaves them alone. -/
structure Blind (g : Game α) : Prop where
  commutes : ∀ (c : Backing) (v : World), g.runOn (v.backed c) = ((g.runOn v).1, (g.runOn v).2.backed c)
  deaf : ∀ v : World, Deaf v (g.runOn v).2

namespace Blind

lemma pure (a : α) : Blind (pure a : Game α) := ⟨fun _ _ => rfl, Deaf.refl⟩

lemma throw (fault : Fault) : Blind (throw fault : Game α) := ⟨fun _ _ => rfl, Deaf.refl⟩

lemma lift (x : Except Fault α) : Blind (liftM x : Game α) := ⟨fun _ _ => rfl, Deaf.refl⟩

lemma bind {g : Game α} {f : α → Game β} (hg : Blind g) (hf : ∀ a, Blind (f a)) :
    Blind (g >>= f) where
  commutes c v := by
    rw [run_bind, run_bind, hg.commutes c v]
    obtain ⟨r, u⟩ := g.runOn v
    cases r with
    | ok a => exact (hf a).commutes c u
    | error fault => rfl
  deaf v := by
    have hdeaf := hg.deaf v
    rw [run_bind]
    generalize g.runOn v = run at hdeaf
    obtain ⟨r, u⟩ := run
    cases r with
    | ok a => exact hdeaf.trans ((hf a).deaf u)
    | error fault => exact hdeaf

lemma lifts {x : Except Fault α} {f : α → Game β} (hf : ∀ a, Blind (f a)) :
    Blind (liftM x >>= f) :=
  (Blind.lift x).bind hf

lemma ite {p : Prop} [Decidable p] {g g' : Game α} (hg : Blind g) (hg' : Blind g') :
    Blind (if p then g else g') := by
  split
  · exact hg
  · exact hg'

lemma tryCatch {g : Game α} {k : Fault → Game α} (hg : Blind g) (hk : ∀ fault, Blind (k fault)) :
    Blind (tryCatch g k) where
  commutes c v := by
    rw [run_tryCatch, run_tryCatch, hg.commutes c v]
    obtain ⟨r, u⟩ := g.runOn v
    cases r with
    | ok a => rfl
    | error fault => exact (hk fault).commutes c u
  deaf v := by
    have hdeaf := hg.deaf v
    rw [run_tryCatch]
    generalize g.runOn v = run at hdeaf
    obtain ⟨r, u⟩ := run
    cases r with
    | ok a => exact hdeaf
    | error fault => exact hdeaf.trans ((hk fault).deaf u)

lemma forM {k : γ → Game PUnit} (hk : ∀ a, Blind (k a)) (as : List γ) : Blind (as.forM k) := by
  induction as with
  | nil => exact .pure _
  | cons a as ih => exact (hk a).bind fun _ => ih

lemma get_bind {f : World → Game α} (hsame : ∀ c v, f (backed v c) = f v) (hf : ∀ v, Blind (f v)) :
    Blind (get >>= f) where
  commutes c v := by
    rw [run_get_bind, run_get_bind, hsame]
    exact (hf v).commutes c v
  deaf v := by
    rw [run_get_bind]
    exact (hf v).deaf v

lemma change {f : World → World}
    (hsame : ∀ c v, (f (backed v c), (f v).parts) = (backed (f v) c, v.parts)) :
    Blind (modify f : Game Unit) where
  commutes c v := by
    rw [run_modify, run_modify, (Prod.mk.inj (hsame c v)).1]
  deaf v := .of_parts (Prod.mk.inj (hsame ⟨.server, v.chats, v.disk, v.log⟩ v)).2

lemma modifyOwned {f : Owned → Owned} (hsame : ∀ b o, f (Owned.backed b o) = (f o).backed b)
    (hdeaf : ∀ o d', (f o).part = .dialogue d' →
      ∃ d, o.part = .dialogue d ∧ d'.npcName = d.npcName ∧ d'.agent? = d.agent?) (i : Nat) :
    Blind (modify fun w => { w with parts := w.parts.modify i f } : Game Unit) where
  commutes c v := by
    rw [run_modify, run_modify, backed, backed]
    dsimp only
    rw [Owned.modify_map_backed (hsame c.backend)]
  deaf v j d' hd' := by
    obtain ⟨o', ho', hp'⟩ := talk?_eq_some.1 hd'
    rw [run_modify, Array.getElem?_modify] at ho'
    split at ho'
    · obtain ⟨o, ho, rfl⟩ := Option.map_eq_some_iff.1 ho'
      obtain ⟨d, hp, hn, ha⟩ := hdeaf o d' hp'
      exact .inl ⟨d, talk?_eq_some.2 ⟨o, ho, hp⟩, hn, ha⟩
    · exact .inl ⟨d', talk?_eq_some.2 ⟨o', ho', hp'⟩, rfl, rfl⟩

end Blind

/-! ## Looking at parts -/

lemma blind_owned_bind {f : Owned → Game α} (hsame : ∀ b o, f (Owned.backed b o) = f o)
    (hf : ∀ o, Blind (f o)) (id : PartId) : Blind (owned id >>= f) where
  commutes c v := by
    cases ho : v.parts[id.index]? with
    | none =>
      have hbck : (v.backed c).parts[id.index]? = none := by rw [getElem?_backed, ho]; rfl
      have hrun {w : World} (h : w.parts[id.index]? = none) :
          (owned id >>= f).runOn w = (.error .absent, w) := by
        rw [owned, bind_assoc, run_get_bind, h]
        rfl
      rw [hrun ho, hrun hbck]
    | some o =>
      have hbck : (v.backed c).parts[id.index]? = some (o.backed c.backend) := by
        rw [getElem?_backed, ho]
        rfl
      rw [bind_ok (run_owned ho), bind_ok (run_owned hbck), hsame]
      exact (hf o).commutes c v
  deaf v := by
    cases ho : v.parts[id.index]? with
    | none =>
      have hrun : (owned id >>= f).runOn v = (.error .absent, v) := by
        rw [owned, bind_assoc, run_get_bind, ho]
        rfl
      rw [hrun]
      exact .refl v
    | some o =>
      rw [bind_ok (run_owned ho)]
      exact (hf o).deaf v

lemma blind_part_bind {f : Part → Game α} (hsame : ∀ b p, f (Part.backed b p) = f p)
    (hf : ∀ p, Blind (f p)) (id : PartId) : Blind (part id >>= f) := by
  rw [part, bind_assoc]
  exact blind_owned_bind (fun b o => hsame b o.part) (fun o => hf o.part) id

lemma blind_dialogue_bind {f : Dialogue → Game α}
    (hsame : ∀ (d : Dialogue) agent?, f { d with agent? } = f d) (hf : ∀ d, Blind (f d))
    (id : PartId) : Blind (dialogue id >>= f) := by
  rw [dialogue, bind_assoc]
  refine blind_part_bind (fun b p => ?_) (fun p => ?_) id
  · cases p with
    | dialogue d => exact hsame d _
    | _ => rfl
  · cases p with
    | dialogue d => exact hf d
    | _ => exact .throw _

lemma blind_hasLost (id : PartId) (f : Faculty) : Blind (hasLost id f) :=
  blind_owned_bind (fun _ _ => rfl) (fun _ => .pure _) id

lemma blind_requires (id : PartId) (f : Faculty) : Blind (requires id f) :=
  (blind_hasLost id f).bind fun _ => .ite (.throw _) (.pure _)

lemma Blind.orAbsent (a? : Option α) : Blind (orAbsent a?) := by
  cases a? with
  | none => exact .throw _
  | some a => exact .pure a

lemma blind_owner (id : PartId) : Blind (owner id) :=
  blind_owned_bind (fun _ _ => rfl) (fun _ => .orAbsent _) id

lemma blind_label (id : PartId) : Blind (label id) :=
  blind_part_bind (fun _ p => by cases p <;> rfl) (fun _ => .orAbsent _) id

lemma blind_bagView (id : PartId) : Blind (bagView id) :=
  blind_part_bind (fun _ p => by cases p <;> rfl)
    (fun p => by cases p <;> first | exact .pure _ | exact .throw _) id

/-! ## Changing parts -/

lemma blind_modifyPart {f : Part → Part} (hsame : ∀ b p, f (Part.backed b p) = (f p).backed b)
    (hdeaf : ∀ p d', f p = .dialogue d' →
      ∃ d, p = .dialogue d ∧ d'.npcName = d.npcName ∧ d'.agent? = d.agent?) (id : PartId) :
    Blind (modifyPart id f) :=
  .modifyOwned (fun b o => congrArg (fun p => { o with part := p }) (hsame b o.part))
    (fun o => hdeaf o.part) id.index

lemma blind_modifyDialogue {f : Dialogue → Dialogue}
    (hsame : ∀ (d : Dialogue) agent?, (f { d with agent? }, (f d).npcName, (f d).agent?) =
      ({ f d with agent? }, d.npcName, d.agent?)) (id : PartId) :
    Blind (modifyDialogue id f) := by
  simp only [Prod.mk.injEq] at hsame
  refine blind_modifyPart (fun b p => ?_) (fun p d' h => ?_) id
  · cases p with
    | dialogue d =>
      refine congrArg Part.dialogue ((hsame d _).1.trans ?_)
      rw [(hsame d none).2.2]
    | _ => rfl
  · cases p with
    | dialogue d =>
      cases h
      exact ⟨d, rfl, (hsame d none).2⟩
    | _ => cases h

lemma blind_modifyOwned {f : Owned → Owned}
    (hsame : ∀ b o, f (Owned.backed b o) = (f o).backed b) (hp : ∀ o, (f o).part = o.part)
    (i : Nat) : Blind (modify fun w => { w with parts := w.parts.modify i f } : Game Unit) :=
  .modifyOwned hsame (fun o d' h => ⟨d', (hp o).symm.trans h, rfl, rfl⟩) i

lemma blind_setOwner (id : PartId) (owner? : Option EntityId) : Blind (setOwner id owner?) :=
  blind_modifyOwned (fun _ _ => by rfl) (fun _ => by rfl) id.index

lemma blind_regain (id : PartId) (f : Faculty) : Blind (regain id f) :=
  blind_modifyOwned (fun _ _ => by rfl) (fun _ => by rfl) id.index

lemma blind_modifyOther {f : Part → Part} (hf : ∀ p d, f p = .dialogue d ↔ p = .dialogue d)
    (id : PartId) : Blind (modifyPart id f) := by
  refine blind_modifyPart (fun b p => ?_) (fun p d h => ⟨d, (hf p d).1 h, rfl, rfl⟩) id
  by_cases hp : ∃ d, p = .dialogue d
  · obtain ⟨d, rfl⟩ := hp
    rw [(hf _ d).2 rfl]
    exact (hf _ _).2 rfl
  · have hne (d : Dialogue) : p ≠ .dialogue d := fun h => hp ⟨d, h⟩
    have hfne (d : Dialogue) : f p ≠ .dialogue d := fun h => hne d ((hf p d).1 h)
    rw [Part.backed_of_ne hne, Part.backed_of_ne hfne]

lemma blind_modifyLabel (id : PartId) (f : Label → Label) : Blind (modifyLabel id f) :=
  blind_modifyOther (fun p _ => by cases p <;> simp) id

lemma blind_modifyCombat (id : PartId) (f : Combat → Combat) : Blind (modifyCombat id f) :=
  blind_modifyOther (fun p _ => by cases p <;> simp) id

lemma blind_modifyPlayer (id : PartId) (f : Player → Player) : Blind (modifyPlayer id f) :=
  blind_modifyOther (fun p _ => by cases p <;> simp) id

lemma blind_setPart {p : Part} (hp : ∀ d, p ≠ .dialogue d) (id : PartId) : Blind (setPart id p) :=
  blind_modifyPart (fun b _ => (Part.backed_of_ne hp b).symm) (fun _ d' h => absurd h (hp d')) id

lemma blind_newPart {p : Part} (hsame : ∀ b, p.backed b = p) (hnew : ∀ d, p = .dialogue d →
      d.agent? = none ∧ ∃ name, d.npcName = .str name ∧ IsFileName name) : Blind (newPart p) where
  commutes c v := by
    have hps : (v.parts.map (Owned.backed c.backend)).push { part := p } =
        (v.parts.push { part := p }).map (Owned.backed c.backend) := by
      rw [Array.map_push, Owned.backed, hsame]
    have hsize : (v.backed c).parts.size = v.parts.size := Array.size_map
    rw [newPart, run_get_bind, run_get_bind, run_modify_bind, run_modify_bind, run_pure,
      run_pure, hsize, backed, backed]
    dsimp only
    rw [hps]
  deaf v i d' hd' := by
    rw [newPart, run_get_bind, run_modify_bind, run_pure] at hd'
    obtain ⟨o, ho, hp⟩ := talk?_eq_some.1 hd'
    rw [Array.getElem?_push] at ho
    split at ho
    · cases ho
      exact .inr (hnew d' hp)
    · exact .inl ⟨d', talk?_eq_some.2 ⟨o, ho, hp⟩, rfl, rfl⟩

lemma blind_newPlain {p : Part} (hp : ∀ d, p ≠ .dialogue d) : Blind (newPart p) :=
  blind_newPart (Part.backed_of_ne hp) fun d h => absurd h (hp d)

end Game

end TileQuest
