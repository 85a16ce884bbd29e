import TileQuest.Proofs.Chat.Blindness
import TileQuest.Proofs.Chat.Shelf

/-!
# What becomes of conversations

A dialogue has its own side of a conversation once its character has come to it
(`World.side?`): a copy of what was kept at that time, to which what the player says is added. With
every message the whole copy is kept.
-/

namespace TileQuest

variable {a : Agent} {id : PartId} {v u : World} {d : Dialogue}

/-- The conversations that are kept, by name. -/
abbrev Shelf := String → History

variable {s : Shelf}

lemma Agent.exists_hear (a : Agent) (said : Json) :
    ∃ more : History, more.length ≤ 1 ∧ (a.hear said .null).messages = a.messages ++ more := by
  by_cases hsaid : said.firstSaid.isTruthy
  · refine ⟨[{ role := .human, text := said.firstSaid }], le_rfl, ?_⟩
    rw [hear, messages, if_pos hsaid, if_neg (by decide), Option.getD_some, add]
  · refine ⟨[], Nat.zero_le 1, ?_⟩
    rw [hear, messages, if_neg hsaid, if_neg (by decide), Option.getD_some, List.append_nil]

namespace World

variable {i : PartId} {b : Agent}

def side? (v : World) (i : PartId) : Option Agent := (v.talk? i).bind (·.agent?)

lemma side?_eq_some : v.side? i = some a ↔ ∃ d, v.talk? i = some d ∧ d.agent? = some a :=
  Option.bind_eq_some_iff

def Named (v : World) : Prop :=
  ∀ i d, v.talk? i = some d → (∃ name, d.npcName = .str name ∧ IsFileName name) ∧
    ∀ a, d.agent? = some a → IsFileName a.name

lemma Deaf.side? (h : Deaf v u) (ha : u.side? i = some a) : v.side? i = some a := by
  obtain ⟨d', hd', hagent'⟩ := side?_eq_some.1 ha
  obtain ⟨d, hd, -, hagent⟩ | ⟨hnone, -⟩ := h i d' hd'
  · exact side?_eq_some.2 ⟨d, hd, hagent ▸ hagent'⟩
  · rw [hnone] at hagent'
    cases hagent'

lemma Named.of_deaf (hv : v.Named) (h : Deaf v u) : u.Named := by
  intro i d' hd'
  obtain ⟨d, hd, hn, hagent⟩ | ⟨hnone, name, hn, hf⟩ := h i d' hd'
  · rw [hn, hagent]
    exact hv i d hd
  · exact ⟨⟨name, hn, hf⟩, fun a ha => by rw [hnone] at ha; cases ha⟩

lemma Named.side? (hv : v.Named) (ha : v.side? i = some a) : IsFileName a.name := by
  obtain ⟨d, hd, hagent⟩ := side?_eq_some.1 ha
  exact (hv i d hd).2 a hagent

/-- The world in which a character has come to its conversation, with a side of its own. -/
def withSide (v : World) (id : PartId) (a : Agent) : World :=
  v.withTalk id ({ · with agent? := some a })

lemma side?_withSide (h : (v.withSide id a).side? i = some b) :
    i ≠ id ∧ v.side? i = some b ∨ i = id ∧ b = a := by
  obtain ⟨d', hd', ha⟩ := side?_eq_some.1 h
  obtain ⟨o', ho', hpart'⟩ := talk?_eq_some.1 hd'
  by_cases hi : i = id
  · subst hi
    rw [withSide, withTalk, altered, Array.getElem?_modify, if_pos rfl] at ho'
    obtain ⟨o, ho, rfl⟩ := Option.map_eq_some_iff.1 ho'
    refine .inr ⟨rfl, ?_⟩
    cases hp : o.part with
    | dialogue d =>
      rw [hp] at hpart'
      cases hpart'
      exact (Option.some.inj ha).symm
    | _ =>
      rw [hp] at hpart'
      cases hpart'
  · rw [withSide, withTalk, getElem?_altered_of_ne hi] at ho'
    exact .inl ⟨hi, side?_eq_some.2 ⟨d', talk?_eq_some.2 ⟨o', ho', hpart'⟩, ha⟩⟩

lemma Named.withSide (hv : v.Named) (ha : IsFileName a.name) (id : PartId) :
    (v.withSide id a).Named := by
  intro i d' hd'
  obtain ⟨o', ho', hpart'⟩ := talk?_eq_some.1 hd'
  by_cases hi : i = id
  · subst hi
    rw [World.withSide, withTalk, altered, Array.getElem?_modify, if_pos rfl] at ho'
    obtain ⟨o, ho, rfl⟩ := Option.map_eq_some_iff.1 ho'
    cases hp : o.part with
    | dialogue d =>
      rw [hp] at hpart'
      cases hpart'
      exact ⟨(hv i d (talk?_eq_some.2 ⟨o, ho, hp⟩)).1, fun b hb => by cases hb; exact ha⟩
    | _ =>
      rw [hp] at hpart'
      cases hpart'
  · rw [World.withSide, withTalk, getElem?_altered_of_ne hi] at ho'
    exact hv i d' (talk?_eq_some.2 ⟨o', ho', hpart'⟩)

lemma talk?_backed (v : World) (c : Backing) (i : PartId) : (v.backed c).talk? i =
    (v.talk? i).map fun d =>
      { d with agent? := d.agent?.map ({ · with backend := c.backend }) } := by
  rw [talk?, talk?, getElem?_backed]
  cases v.parts[i.index]? with
  | none => rfl
  | some o =>
    rw [Option.map_some, Option.map_some, Option.map_some, Owned.backed]
    cases o.part <;> rfl

lemma altered_backed {f g : Part → Part} {c : Backing}
    (h : ∀ p, f (Part.backed c.backend p) = (g p).backed c.backend) (id : PartId) :
    (v.backed c).altered id f = (v.altered id g).backed c := by
  have hps : (v.parts.map (Owned.backed c.backend)).modify id.index
        (fun o => { o with part := f o.part }) =
      (v.parts.modify id.index fun o => { o with part := g o.part }).map
        (Owned.backed c.backend) :=
    Owned.modify_map_backed (fun o => congrArg (fun p => { o with part := p }) (h o.part)) _ _
  rw [altered, altered, backed, backed]
  dsimp only
  rw [hps]

end World

variable {s' : Shelf} {c : Backing}

/-! ## Sides of conversations, and what is kept -/

open World

/-- Conversations are kept, and where some character has come to one already, their place is
open. -/
structure Backing.Serves (v : World) (s : Shelf) (c : Backing) : Prop where
  ready : c.Ready s
  holds : ∀ i a, v.side? i = some a → c.Holds s

lemma Backing.Holds.serves (h : c.Holds s) (v : World) : c.Serves v s := ⟨h.ready, fun _ _ _ => h⟩

lemma Backing.Serves.congr (h : c.Serves v s)
    (hsame : ∀ name, IsFileName name → s name = s' name) : c.Serves v s' := by
  obtain ⟨disk, hholds, hfold⟩ := h.ready
  exact ⟨⟨disk, hholds.congr hsame, hfold⟩, fun i a ha => (h.holds i a ha).congr hsame⟩

/-- What a frame of a dialogue does to the sides of conversations and to what is kept. -/
inductive Exchange (id : PartId) (v : World) (s : Shelf) : World → Shelf → Prop where
  /-- Nothing is said. The character of the dialogue may come to its conversation. -/
  | kept {v' : World} (sides : ∀ i a, v'.side? i = some a →
      v.side? i = some a ∨ i = id ∧ v.side? id = none ∧ a.messages = s a.name) :
    Exchange id v s v' s
  /-- The character hears something. Its side of the conversation, or what was kept if it has only
  just come to it, is kept with one message more at most. -/
  | heard {v' : World} (a : Agent) (more : History) (few : more.length ≤ 1)
      (copy : v.side? id = some a ∨ v.side? id = none ∧ a.messages = s a.name)
      (sides : ∀ i b, v'.side? i = some b → i ≠ id ∧ v.side? i = some b ∨
        i = id ∧ b.name = a.name ∧ b.messages = a.messages ++ more) :
    Exchange id v s v' (Function.update s a.name (a.messages ++ more))

lemma Exchange.of_side {v' : World} (h : Exchange id u s v' s')
    (hsame : ∀ i, u.side? i = v.side? i) : Exchange id v s v' s' := by
  cases h with
  | kept sides => exact .kept fun i a ha => by simpa only [hsame] using sides i a ha
  | heard a more few copy sides =>
    exact .heard a more few (by simpa only [hsame] using copy) fun i b hb => by
      simpa only [hsame] using sides i b hb

/-- A character hears something, whose side of the conversation is known. -/
inductive Hearing (id : PartId) (a : Agent) (v : World) (s : Shelf) : World → Shelf → Prop where
  | nothing {v' : World} (sides : ∀ i b, v'.side? i = some b → v.side? i = some b) :
    Hearing id a v s v' s
  | message {v' : World} (more : History) (few : more.length ≤ 1)
      (sides : ∀ i b, v'.side? i = some b → i ≠ id ∧ v.side? i = some b ∨
        i = id ∧ b.name = a.name ∧ b.messages = a.messages ++ more) :
    Hearing id a v s v' (Function.update s a.name (a.messages ++ more))

lemma Hearing.of_deaf {z : World} {t : Shelf}
    (h : Hearing id a u s z t) (hdeaf : Deaf v u) : Hearing id a v s z t := by
  cases h with
  | nothing sides => exact .nothing fun i b hb => hdeaf.side? (sides i b hb)
  | message more few sides =>
    exact .message more few fun i b hb => (sides i b hb).imp_left fun h => ⟨h.1, hdeaf.side? h.2⟩

/-- What meeting a character does: it hears one message more at most than what was kept. -/
def Meeting (name : String) (v : World) (s : Shelf) (v' : World) (s' : Shelf) : Prop :=
  (∀ i a, v'.side? i = some a → v.side? i = some a) ∧
    (s' = s ∨ ∃ more : History, more.length ≤ 1 ∧ s' = Function.update s name (s name ++ more))

namespace Game

variable {α β : Type}

lemma run_dialogue_of_none {w : World} (h : w.talk? id = none) :
    (dialogue id).runOn w = (.error .absent, w) := by
  cases ho : w.parts[id.index]? with
  | none =>
    have hpart : (part id).runOn w = (.error .absent, w) := by
      rw [part, owned, bind_assoc, run_get_bind, ho]
      rfl
    rw [dialogue, run_bind, hpart]
  | some o =>
    rw [dialogue, bind_ok (run_part ho)]
    cases hp : o.part with
    | dialogue d =>
      rw [talk?_eq_some.2 ⟨o, ho, hp⟩] at h
      cases h
    | _ => rfl

/-- What a step does to conversations, wherever they are kept, as long as they are kept (`K`). The
step may know in which place that is. -/
def Does (K : World → Shelf → Backing → Prop) (P : World → Shelf → World → Shelf → Prop)
    (g : Backend → Game α) : Prop :=
  ∀ v s, v.Named → ∃ r v' s', v'.Named ∧ P v s v' s' ∧ ∀ c, K v s c →
    ∃ c', K v' s' c' ∧ c'.backend = c.backend ∧ (g c.backend).runOn (v.backed c) = (r, v'.backed c')

/-- What lasts through blind steps. -/
class Lasting (K : World → Shelf → Backing → Prop) (P : World → Shelf → World → Shelf → Prop) :
    Prop where
  keeps : ∀ {v u s c}, Deaf v u → K v s c → K u s c
  refl : ∀ v s, P v s v s
  trans : ∀ {v s u t z}, P v s u t → Deaf u z → P v s z t

instance (id : PartId) : Lasting Backing.Serves (Exchange id) where
  keeps hdeaf h := ⟨h.ready, fun i a ha => h.holds i a (hdeaf.side? ha)⟩
  refl _ _ := .kept fun _ _ ha => .inl ha
  trans h hdeaf := by
    cases h with
    | kept sides => exact .kept fun i a ha => sides i a (hdeaf.side? ha)
    | heard a more few copy sides =>
      exact .heard a more few copy fun i b hb => sides i b (hdeaf.side? hb)

instance (name : String) : Lasting Backing.Serves (Meeting name) where
  keeps hdeaf h := ⟨h.ready, fun i a ha => h.holds i a (hdeaf.side? ha)⟩
  refl _ _ := ⟨fun _ _ ha => ha, .inl rfl⟩
  trans h hdeaf := ⟨fun i a ha => h.1 i a (hdeaf.side? ha), h.2⟩

instance (id : PartId) (a : Agent) : Lasting (fun _ s c => c.Holds s) (Hearing id a) where
  keeps _ h := h
  refl _ _ := .nothing fun _ _ ha => ha
  trans h hdeaf := by
    cases h with
    | nothing sides => exact .nothing fun i b hb => sides i b (hdeaf.side? hb)
    | message more few sides => exact .message more few fun i b hb => sides i b (hdeaf.side? hb)

namespace Does

variable {K : World → Shelf → Backing → Prop} {P : World → Shelf → World → Shelf → Prop}

lemma blind [Lasting K P] {g : Game α} (hg : Blind g) : Does K P fun _ => g := by
  intro v s hv
  have hdeaf := hg.deaf v
  exact ⟨_, _, s, hv.of_deaf hdeaf, Lasting.trans K (Lasting.refl K v s) hdeaf, fun c hc =>
    ⟨c, Lasting.keeps P hdeaf hc, rfl, hg.commutes c v⟩⟩

lemma bind_blind [Lasting K P] {g : Backend → Game α} {f : α → Game β} (hg : Does K P g)
    (hf : ∀ a, Blind (f a)) : Does K P fun b => g b >>= f := by
  intro v s hv
  obtain ⟨r, u, t, hu, hP, hrun⟩ := hg v s hv
  cases r with
  | error fault =>
    refine ⟨.error fault, u, t, hu, hP, fun c hc => ?_⟩
    obtain ⟨c', hc', hback, hc⟩ := hrun c hc
    exact ⟨c', hc', hback, by rw [run_bind, hc]⟩
  | ok a =>
    have hdeaf := (hf a).deaf u
    refine ⟨((f a).runOn u).1, ((f a).runOn u).2, t, hu.of_deaf hdeaf, Lasting.trans K hP hdeaf,
      fun c hc => ?_⟩
    obtain ⟨c', hc', hback, hc⟩ := hrun c hc
    exact ⟨c', Lasting.keeps P hdeaf hc', hback, (bind_ok hc).trans ((hf a).commutes c' u)⟩

lemma tryCatch_blind [Lasting K P] {g : Backend → Game α} {k : Fault → Game α}
    (hg : Does K P g) (hk : ∀ fault, Blind (k fault)) : Does K P fun b => tryCatch (g b) k := by
  intro v s hv
  obtain ⟨r, u, t, hu, hP, hrun⟩ := hg v s hv
  cases r with
  | ok a =>
    refine ⟨.ok a, u, t, hu, hP, fun c hc => ?_⟩
    obtain ⟨c', hc', hback, hc⟩ := hrun c hc
    exact ⟨c', hc', hback, by rw [run_tryCatch, hc]⟩
  | error fault =>
    have hdeaf := (hk fault).deaf u
    refine ⟨((k fault).runOn u).1, ((k fault).runOn u).2, t, hu.of_deaf hdeaf,
      Lasting.trans K hP hdeaf, fun c hc => ?_⟩
    obtain ⟨c', hc', hback, hc⟩ := hrun c hc
    refine ⟨c', Lasting.keeps P hdeaf hc', hback, ?_⟩
    rw [run_tryCatch, hc]
    exact (hk fault).commutes c' u

lemma lift_bind [Lasting K P] {f : α → Game β} (x : Except Fault α)
    (hf : ∀ a, Does K P fun _ => f a) : Does K P fun _ => liftM x >>= f := by
  cases x with
  | error fault =>
    exact fun v s hv => ⟨.error fault, v, s, hv, Lasting.refl K v s, fun c hc => ⟨c, hc, rfl, rfl⟩⟩
  | ok a => exact hf a

lemma get_bind {f : World → Game α} (hsame : ∀ c v, f (backed v c) = f v)
    (hf : ∀ v, Does K P fun _ => f v) : Does K P fun _ => get >>= f := by
  intro v s hv
  obtain ⟨r, v', s', hv', hP, hrun⟩ := hf v v s hv
  refine ⟨r, v', s', hv', hP, fun c hc => ?_⟩
  rw [run_get_bind, hsame]
  exact hrun c hc

lemma dialogue_bind [Lasting K P] {f : Dialogue → Game α}
    (hsame : ∀ (d : Dialogue) agent?, f { d with agent? } = f d) (hf : ∀ d, Does K P fun _ => f d)
    (id : PartId) : Does K P fun _ => dialogue id >>= f := by
  intro v s hv
  cases hd : v.talk? id with
  | none =>
    refine ⟨.error .absent, v, s, hv, Lasting.refl K v s, fun c hc => ⟨c, hc, rfl, ?_⟩⟩
    have hbck : (v.backed c).talk? id = none := by rw [talk?_backed, hd]; rfl
    rw [run_bind, run_dialogue_of_none hbck]
  | some d =>
    obtain ⟨r, v', s', hv', hP, hrun⟩ := hf d v s hv
    refine ⟨r, v', s', hv', hP, fun c hc => ?_⟩
    have hbck := talk?_backed v c id
    rw [hd] at hbck
    rw [bind_ok (run_dialogue hbck), hsame]
    exact hrun c hc

lemma ite {p : Prop} [Decidable p] {g g' : Backend → Game α} (hg : Does K P g)
    (hg' : Does K P g') : Does K P fun b => if p then g b else g' b := by
  by_cases hp : p
  · simpa only [if_pos hp] using hg
  · simpa only [if_neg hp] using hg'

lemma blind_bind {g : Game α} {f : Backend → α → Game β} (hg : Blind g)
    (hf : ∀ x, Does (fun _ s c => c.Holds s) (Hearing id a) fun b => f b x) :
    Does (fun _ s c => c.Holds s) (Hearing id a) fun b => g >>= f b := by
  intro v s hv
  have hdeaf := hg.deaf v
  have hcomm := fun c => hg.commutes c v
  generalize g.runOn v = run at hdeaf hcomm
  obtain ⟨r, u⟩ := run
  cases r with
  | error fault =>
    refine ⟨.error fault, u, s, hv.of_deaf hdeaf, .nothing fun _ _ => hdeaf.side?, fun c hc =>
      ⟨c, hc, rfl, ?_⟩⟩
    rw [run_bind, hcomm c]
  | ok x =>
    obtain ⟨r, v', s', hv', hhearing, hrun⟩ := hf x u s (hv.of_deaf hdeaf)
    refine ⟨r, v', s', hv', hhearing.of_deaf hdeaf, fun c hc => ?_⟩
    obtain ⟨c', hc', hback, hc⟩ := hrun c hc
    exact ⟨c', hc', hback, (bind_ok (hcomm c)).trans hc⟩

end Does

/-! ## A character comes to a conversation, and hears something -/

lemma run_setSide (v : World) (id : PartId) (a : Agent) (c : Backing) :
    (modifyDialogue id
        ({ · with agent? := some { a with backend := c.backend } })).runOn (v.backed c) =
      (.ok (), (v.withSide id a).backed c) := by
  rw [run_modifyDialogue, withSide, withTalk, withTalk]
  refine congrArg (Except.ok (), ·) (altered_backed (fun p => ?_) id)
  cases p <;> rfl

lemma exists_dialogueAgent_backed (hv : v.Named) (hd : v.talk? id = some d) (s : Shelf) :
    ∃ (a : Agent) (v' : World), IsFileName a.name ∧ v'.Named ∧
      (v.side? id = some a ∨ v.side? id = none ∧ a.messages = s a.name) ∧
      (∀ i b, v'.side? i = some b → i ≠ id ∧ v.side? i = some b ∨ i = id ∧ b = a) ∧
      ∀ c, Backing.Serves v s c → ∃ c', c'.Holds s ∧ c'.backend = c.backend ∧
        (dialogueAgent id).runOn (v.backed c) =
          (.ok { a with backend := c.backend }, v'.backed c') := by
  have hbck (c : Backing) := talk?_backed v c id
  rw [hd] at hbck
  have hside : v.side? id = d.agent? := by rw [side?, hd]; rfl
  cases ha : d.agent? with
  | some a =>
    refine ⟨a, v, (hv id d hd).2 a ha, hv, .inl (hside.trans ha), fun i b hb => ?_,
      fun c hc => ⟨c, hc.holds id a (hside.trans ha), rfl, ?_⟩⟩
    · by_cases hi : i = id
      · subst hi
        exact .inr ⟨rfl, Option.some.inj (hb.symm.trans (hside.trans ha))⟩
      · exact .inl ⟨hi, hb⟩
    · rw [dialogueAgent, bind_ok (run_dialogue (hbck c))]
      dsimp only
      rw [ha]
      rfl
  | none =>
    obtain ⟨⟨name, hn, hf⟩, -⟩ := hv id d hd
    let a : Agent := { name, backend := .server, history? := some (s name) }
    refine ⟨a, v.hushed.withSide id a, hf, Named.withSide (v := v.hushed) hv hf id,
      .inr ⟨hside.trans ha, rfl⟩, fun i b hb => side?_withSide hb, fun c hc => ?_⟩
    obtain ⟨c', hholds, hback, hnew⟩ := exists_newAgent_backed hc.ready hf v
    refine ⟨c', hholds, hback, ?_⟩
    rw [dialogueAgent, bind_ok (run_dialogue (hbck c))]
    dsimp only
    rw [ha, hn, Option.map_none]
    dsimp only
    rw [bind_ok hnew, ← hback]
    exact bind_ok (run_setSide v.hushed id a c')

lemma does_remember (ha : IsFileName a.name) (said : Json) :
    Does (fun _ s c => c.Holds s) (Hearing id a)
      fun b => remember id { a with backend := b } said := by
  intro v s hv
  obtain ⟨more, hfew, hmsgs⟩ := a.exists_hear said
  let heard : Agent := a.hear said .null
  refine ⟨.ok (), (v.withSide id heard).hushed, Function.update s a.name (a.messages ++ more),
    Named.withSide (a := heard) hv ha id, .message more hfew fun i b hb => ?_, fun c hc => ?_⟩
  · rcases side?_withSide (v := v) hb with hoth | ⟨rfl, rfl⟩
    · exact .inl hoth
    · exact .inr ⟨rfl, rfl, hmsgs⟩
  · obtain ⟨c', hc', hback, hsave⟩ :=
      exists_saveChat_backed hc ha (a.messages ++ more) (v.withSide id heard)
    refine ⟨c', hc', hback, ?_⟩
    rw [← hmsgs] at hsave
    exact (bind_ok (run_setSide v id heard c)).trans hsave

lemma does_takeReply (ha : IsFileName a.name) (said : Json) (reply? : Option Reply) :
    Does (fun _ s c => c.Holds s) (Hearing id a)
      fun b => takeReply id { a with backend := b } said reply? := by
  cases reply? with
  | none => exact .blind ((blind_addLine id _).bind fun _ => blind_print _)
  | some reply =>
    obtain ⟨response, isSell, tools⟩ := reply
    cases response with
    | nil => exact .blind (blind_addLine id _)
    | cons line rest =>
      exact .blind_bind (blind_addLine id line) fun _ =>
        (does_remember ha said).bind_blind fun _ => blind_print _

lemma does_answer (id : PartId) (said : Json) :
    Does Backing.Serves (Exchange id) fun _ => answer id said := by
  refine .tryCatch_blind ?_ fun fault => (blind_note _).bind fun _ => blind_addLine id _
  intro v s hv
  cases hd : v.talk? id with
  | none =>
    refine ⟨.error .absent, v, s, hv, Lasting.refl Backing.Serves v s, fun c hc => ⟨c, hc, rfl, ?_⟩⟩
    have hbck : (v.backed c).talk? id = none := by rw [talk?_backed, hd]; rfl
    rw [dialogueAgent, bind_assoc, run_bind, run_dialogue_of_none hbck]
  | some d =>
    obtain ⟨a, u, ha, hu, hcopy, hsides, hagent⟩ := exists_dialogueAgent_backed hv hd s
    have hrest : Does (fun _ s c => c.Holds s) (Hearing id a) fun b => (do
        let reply? ← structuredReply (← ask said a.messages 2 1)
        actOnReply id said reply?
        takeReply id { a with backend := b } said reply?) :=
      .blind_bind (blind_ask _ _ _ _) fun _ => .blind_bind (blind_structuredReply _) fun reply? =>
        .blind_bind (blind_actOnReply id said reply?) fun _ => does_takeReply ha said reply?
    obtain ⟨r, v', s', hv', hhearing, hrun⟩ := hrest u s hu
    refine ⟨r, v', s', hv', ?_, fun c hc => ?_⟩
    · cases hhearing with
      | nothing sides =>
        refine .kept fun i b hb => ?_
        rcases hsides i b (sides i b hb) with ⟨-, hside⟩ | ⟨rfl, rfl⟩
        · exact .inl hside
        · rcases hcopy with hside | hnew
          · exact .inl hside
          · exact .inr ⟨rfl, hnew⟩
      | message more few sides =>
        refine .heard a more few hcopy fun i b hb => ?_
        rcases sides i b hb with ⟨hi, hside⟩ | hsame
        · rcases hsides i b hside with hoth | ⟨heq, -⟩
          · exact .inl hoth
          · exact absurd heq hi
        · exact .inr hsame
    · obtain ⟨c1, hholds, hback, hcomes⟩ := hagent c hc
      obtain ⟨c', hc', hback', hc⟩ := hrun c1 hholds
      refine ⟨c', hc'.serves v', hback'.trans hback, ?_⟩
      rw [bind_ok hcomes, ← hback]
      exact hc

lemma does_send (id : PartId) (typed : String) :
    Does Backing.Serves (Exchange id) fun _ => send id typed := by
  have hemp : Blind (modifyDialogue id ({ · with typed := "" })) :=
    blind_modifyDialogue (fun _ _ => by rfl) id
  have hstill : Blind (modifyDialogue id ({ · with isWaiting := false })) :=
    blind_modifyDialogue (fun _ _ => by rfl) id
  exact (does_answer id _).bind_blind fun _ => hemp.bind fun _ =>
    (blind_setTyping id false).bind fun _ => hstill.bind fun _ => blind_nextLine id

lemma does_handleTyping (id : PartId) :
    Does Backing.Serves (Exchange id) fun _ => handleTyping id := by
  refine .get_bind (fun _ _ => rfl) fun w => .dialogue_bind (fun _ _ => rfl) (fun d => ?_) id
  refine .ite (.blind (blind_setTyped id _)) (.ite (.ite (does_send id _) (.blind (.pure _)))
    (.ite ?_ (.blind (.pure _))))
  cases typedChar? w.input with
  | none => exact .blind (.pure _)
  | some c => exact .blind (blind_setTyped id _)

lemma does_updateDialogue (id : PartId) :
    Does Backing.Serves (Exchange id) fun _ => updateDialogue id := by
  refine .get_bind (fun _ _ => rfl) fun w => .dialogue_bind (fun _ _ => rfl) (fun d => ?_) id
  have hclose (keys : Bool) : Blind (if keys then closeDialogue id else pure PUnit.unit) :=
    .ite (blind_closeDialogue id) (.pure _)
  cases d.style with
  | typed =>
    have hrest : Blind (do
        if !(← dialogue id).isWaiting && goesOn w.input then nextLine id
        if w.input.isFresh .escape then closeDialogue id) :=
      blind_dialogue_bind (fun _ _ => rfl) (fun d =>
        .ite ((blind_nextLine id).bind fun _ => hclose _) (hclose _)) id
    exact .dialogue_bind (fun _ _ => rfl) (fun d =>
      .ite ((does_handleTyping id).bind_blind fun _ => hrest) (.blind hrest)) id
  | stepped => exact .blind (.ite ((blind_nextLine id).bind fun _ => hclose _) (hclose _))

lemma does_castScript {name : String} (hn : IsFileName name) :
    Does Backing.Serves (Meeting name) fun _ => castScript (.str name) := by
  intro v s hv
  have hkey : (Json.str name).toKey = .ok name := rfl
  cases hls : lookup v.castLines name with
  | error fault =>
    refine ⟨.error fault, v, s, hv, Lasting.refl Backing.Serves v s, fun c hc => ⟨c, hc, rfl, ?_⟩⟩
    have hbck : lookup (v.backed c).castLines name = .error fault := hls
    rw [castScript, run_lift_bind hkey, run_get_bind, run_bind, run_lift, hbck]
  | ok lines =>
    let a : Agent := { name, backend := .server, history? := some (s name) }
    obtain ⟨more, hfew, hmsgs⟩ := a.exists_hear (.arr lines)
    refine ⟨.ok (.cast name), v.hushed, Function.update s name (s name ++ more), hv,
      ⟨fun _ _ ha => ha, .inr ⟨more, hfew, rfl⟩⟩, fun c hc => ?_⟩
    obtain ⟨c1, hholds, hback, hnew⟩ := exists_newAgent_backed hc.ready hn v
    obtain ⟨c', hholds', hback', hsave⟩ :=
      exists_saveChat_backed hholds hn (s name ++ more) v.hushed
    refine ⟨c', hholds'.serves _, hback'.trans hback, ?_⟩
    have hbck : lookup (v.backed c).castLines name = .ok lines := hls
    have hkeep : (keepChat (Agent.hear { name, backend := c.backend, history? := some (s name) }
        (.arr lines) .null)).runOn (v.hushed.backed c1) = (.ok (), v.hushed.backed c') := by
      rw [← hback]
      rw [show s name ++ more = (a.hear (.arr lines) .null).messages from hmsgs.symm] at hsave
      exact hsave
    rw [castScript, run_lift_bind hkey, run_get_bind, run_lift_bind hbck,
      bind_ok hnew, run_tryCatch, bind_ok hkeep]
    rfl

end Game

end TileQuest
