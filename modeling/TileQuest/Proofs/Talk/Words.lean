import TileQuest.Play.Dialogue
import TileQuest.Proofs.Registers.Teardown

/-!
# The words in the box of a dialogue

A dialogue speaks through labels: one for the speaker, one for what is said, one with advice, and
in the typed style one for the answer. A label whose font is there can be made to say any string
(`World.Speaks`), and then nothing else is different (`World.Told`): the other parts are what they
were, apart from their words and the state of the dialogue itself.
-/

namespace TileQuest

variable {w u v : World} {id q i : PartId} {d d' : Dialogue} {line : Json}

def Part.unworded : Part → Part
  | label l => label { l with text := .null, image := default }
  | textField l field => textField { l with text := .null, image := default } field
  | p => p

def Dialogue.labels (d : Dialogue) : List PartId :=
  [d.speaker, d.content, d.helper] ++ d.inputLabel?.toList

/-- What stays the same as long as a dialogue is there: how it is held, with whom, and its box. -/
def Dialogue.fixed (d : Dialogue) :
    DialogueStyle × Json × PartId × PartId × PartId × PartId × Option PartId × Option PartId :=
  (d.style, d.npcName, d.background, d.speaker, d.content, d.helper, d.inputBox?, d.inputLabel?)

namespace World

def talk? (w : World) (id : PartId) : Option Dialogue :=
  match w.parts[id.index]?.map Owned.part with
  | some (.dialogue d) => some d
  | _ => none

lemma talk?_eq_some :
    w.talk? id = some d ↔ ∃ o, w.parts[id.index]? = some o ∧ o.part = .dialogue d := by
  constructor
  · intro h
    rw [talk?] at h
    split at h
    · rename_i hp
      obtain ⟨o, ho, hd⟩ := Option.map_eq_some_iff.1 hp
      cases h
      exact ⟨o, ho, hd⟩
    · cases h
  · rintro ⟨o, ho, hd⟩
    rw [talk?, ho, Option.map_some, hd]

lemma talk?_of_part (h : u.parts[id.index]? = w.parts[id.index]?) : u.talk? id = w.talk? id := by
  rw [talk?, h, talk?]

/-- What a label says. -/
def words? (w : World) (q : PartId) : Option Json :=
  (w.parts[q.index]?.bind fun o => o.part.label?).map (·.text)

lemma words?_of_part (h : u.parts[q.index]? = w.parts[q.index]?) : u.words? q = w.words? q := by
  rw [words?, h, words?]

/-- A label that can be made to say something else. -/
def Speaks (w : World) (q : PartId) : Prop :=
  ∃ o l, w.parts[q.index]? = some o ∧ o.lost = [] ∧ o.part = .label l ∧
    ∃ n : Int, l.size? = some (.ofInt n)

lemma Speaks.ne_of_talk (h : w.Speaks q) (hd : w.talk? id = some d) : q ≠ id := by
  rintro rfl
  obtain ⟨o, l, ho, -, hl, -⟩ := h
  obtain ⟨o', ho', hd⟩ := talk?_eq_some.1 hd
  cases ho.symm.trans ho'
  cases hl.symm.trans hd

/-! ## Nothing but words -/

def unpainted (w : World) : World := { w with parts := #[], drawing := [] }

/-- Words changed, some parts are able again to do what they had lost, something was painted, and
one dialogue may be in another state. -/
structure Told (id : PartId) (w u : World) : Prop where
  same : u.unpainted = w.unpainted
  part : ∀ i ≠ id, u.parts[i.index]?.map (fun o => (o.part.unworded, o.owner?)) =
    w.parts[i.index]?.map fun o => (o.part.unworded, o.owner?)
  lost : ∀ (i : Nat) (o' : Owned), u.parts[i]? = some o' → ∃ o, w.parts[i]? = some o ∧ o'.lost ⊆ o.lost

instance (id : PartId) : IsPreorder World (Told id) where
  refl w := ⟨rfl, fun _ _ => rfl, fun _ o ho => ⟨o, ho, List.Subset.refl _⟩⟩
  trans w u v h h' :=
    { same := h'.same.trans h.same
      part := fun i hi => (h'.part i hi).trans (h.part i hi)
      lost := fun i o'' ho'' => by
        obtain ⟨o', ho', hlost'⟩ := h'.lost i o'' ho''
        obtain ⟨o, ho, hlost⟩ := h.lost i o' ho'
        exact ⟨o, ho, fun _ hf => hlost (hlost' hf)⟩ }

lemma Told.refl (id : PartId) (w : World) : Told id w w := Std.Refl.refl w

lemma told_painted (id : PartId) (w : World) (drawing : List Draw) :
    Told id w { w with drawing } :=
  ⟨rfl, fun _ _ => rfl, fun _ o ho => ⟨o, ho, List.Subset.refl _⟩⟩

lemma Told.trans (h : Told id w u) (h' : Told id u v) : Told id w v := IsTrans.trans w u v h h'

lemma Told.field_eq {α : Type} (h : Told id w u) (f : World → α)
    (hf : ∀ x : World, f x.unpainted = f x) : f u = f w := by
  rw [← hf u, h.same, hf w]

lemma Told.exists_part (h : Told id w u) (hi : i ≠ id) {o : Owned} (ho : w.parts[i.index]? = some o) :
    ∃ o', u.parts[i.index]? = some o' ∧ o'.part.unworded = o.part.unworded ∧ o'.lost ⊆ o.lost := by
  have hp := h.part i hi
  rw [ho, Option.map_some] at hp
  obtain ⟨o', ho', heq⟩ := Option.map_eq_some_iff.1 hp
  obtain ⟨o0, ho0, hlost⟩ := h.lost i.index o' ho'
  cases ho.symm.trans ho0
  exact ⟨o', ho', congrArg Prod.fst heq, hlost⟩

lemma Told.part_eq (h : Told id w u) (hi : i ≠ id) {o : Owned}
    (ho : w.parts[i.index]? = some o) (hplain : o.part.label? = none) :
    ∃ o', u.parts[i.index]? = some o' ∧ o'.part = o.part ∧ o'.lost ⊆ o.lost := by
  obtain ⟨o', ho', hunw, hlost⟩ := h.exists_part hi ho
  refine ⟨o', ho', ?_, hlost⟩
  cases hp : o.part with
  | label | textField => rw [hp] at hplain; cases hplain
  | _ =>
    rw [hp] at hunw
    cases hp' : o'.part <;> rw [hp'] at hunw <;> cases hunw <;> rfl

lemma Told.talk?_eq (h : Told id w u) (hi : i ≠ id) (hd : w.talk? i = some d) :
    u.talk? i = some d := by
  obtain ⟨o, ho, hp⟩ := talk?_eq_some.1 hd
  obtain ⟨o', ho', hpart, -⟩ := h.part_eq hi ho (by rw [hp]; rfl)
  exact talk?_eq_some.2 ⟨o', ho', hpart.trans hp⟩

lemma Speaks.of_told (h : w.Speaks q) (hq : q ≠ id) (htold : Told id w u) : u.Speaks q := by
  obtain ⟨o, l, ho, hlost, hl, n, hn⟩ := h
  obtain ⟨o', ho', hunw, hlost'⟩ := htold.exists_part hq ho
  rw [hl] at hunw
  cases hp : o'.part with
  | label l' =>
    rw [hp] at hunw
    simp only [Part.unworded, Part.label.injEq, Label.mk.injEq] at hunw
    have hsize : l'.size? = l.size? := hunw.1
    exact ⟨o', l', ho', List.subset_nil.1 (hlost ▸ hlost'), hp, n, hsize.trans hn⟩
  | _ =>
    rw [hp] at hunw
    cases hunw

def withTalk (w : World) (id : PartId) (f : Dialogue → Dialogue) : World :=
  w.altered id fun p => match p with
    | .dialogue d => .dialogue (f d)
    | p => p

lemma talk?_withTalk_self (hd : w.talk? id = some d) (f : Dialogue → Dialogue) :
    (w.withTalk id f).talk? id = some (f d) := by
  obtain ⟨o, ho, hp⟩ := talk?_eq_some.1 hd
  refine talk?_eq_some.2 ⟨_, getElem?_altered_self ho _, ?_⟩
  rw [hp]

lemma told_of_part {o o' : Owned} (hsame : u.unpainted = w.unpainted)
    (ho : w.parts[q.index]? = some o) (ho' : u.parts[q.index]? = some o')
    (hp : (o'.part.unworded, o'.owner?) = (o.part.unworded, o.owner?)) (hlost : o'.lost ⊆ o.lost)
    (hoth : ∀ i ≠ q, u.parts[i.index]? = w.parts[i.index]?) : Told id w u where
  same := hsame
  part i _ := by
    by_cases hi : i = q
    · rw [hi, ho', ho, Option.map_some, Option.map_some, hp]
    · rw [hoth i hi]
  lost i o1 ho1 := by
    by_cases hi : i = q.index
    · subst hi
      cases ho'.symm.trans ho1
      exact ⟨o, ho, hlost⟩
    · exact ⟨o1, (hoth ⟨i⟩ fun heq => hi (congrArg PartId.index heq)).symm.trans ho1,
        List.Subset.refl _⟩

lemma told_withTalk (w : World) (id : PartId) (f : Dialogue → Dialogue) :
    Told id w (w.withTalk id f) where
  same := rfl
  part i hi := by rw [withTalk, getElem?_altered_of_ne hi]
  lost i o' ho' := by
    rw [withTalk, altered, Array.getElem?_modify] at ho'
    split at ho'
    · obtain ⟨o, ho, rfl⟩ := Option.map_eq_some_iff.1 ho'
      exact ⟨o, ho, List.Subset.refl _⟩
    · exact ⟨o', ho', List.Subset.refl _⟩

end World

namespace Game

open World

lemma run_dialogue (h : w.talk? id = some d) : (dialogue id).runOn w = (.ok d, w) :=
  run_dialogue_eq_ok.2 ⟨talk?_eq_some.1 h, rfl⟩

@[simp] lemma run_modifyDialogue (id : PartId) (f : Dialogue → Dialogue) (w : World) :
    (modifyDialogue id f).runOn w = (.ok (), w.withTalk id f) := rfl

/-- A frame of a dialogue, with some keys pressed. A dialogue that is closed does nothing. -/
def pressKeys (id : PartId) (input : Input) : Game Unit := do
  modify ({ · with input })
  if id ∈ (← get).active then updateDialogue id

/-! ## A label says something else -/

lemma render_ofInt (text : String) (n : Int) : ∃ image, Image.render text (.int n) = .ok image :=
  ⟨_, rfl⟩

lemma exists_setText (h : w.Speaks q) (id : PartId) (s : String) :
    ∃ u, (setText q (.str s)).runOn w = (.ok (), u) ∧ u.words? q = some (.str s) ∧
      (∀ i ≠ q, u.parts[i.index]? = w.parts[i.index]?) ∧ Told id w u := by
  obtain ⟨o, l, ho, hlost, hl, n, hn⟩ := h
  obtain ⟨image, himg⟩ := render_ofInt s n
  let worded (f : Label → Label) : Part → Part := fun p => match p with
    | .label l => .label (f l)
    | .textField l t => .textField (f l) t
    | p => p
  let named := w.altered q (worded ({ · with text := .str s }))
  let drawn := named.altered q (worded ({ · with image }))
  let last : World := { drawn with parts := drawn.parts.modify q.index fun o =>
    { o with lost := o.lost.filter (· ≠ .shadow) } }
  have hnamed : named.parts[q.index]? =
      some { o with part := .label { l with text := .str s } } := by
    rw [getElem?_altered_self ho, hl]
  have hdrawn : drawn.parts[q.index]? =
      some { o with part := .label { l with text := .str s, image } } :=
    getElem?_altered_self hnamed _
  have hlast : last.parts[q.index]? =
      some { o with part := .label { l with text := .str s, image }, lost := [] } := by
    rw [Array.getElem?_modify, if_pos rfl, hdrawn, Option.map_some, hlost]
    rfl
  have hoth (i : PartId) (hi : i ≠ q) : last.parts[i.index]? = w.parts[i.index]? := by
    have hne : q.index ≠ i.index := fun heq => hi (PartId.eq_of_index heq).symm
    rw [Array.getElem?_modify, if_neg hne]
    exact (getElem?_altered_of_ne hi _).trans (getElem?_altered_of_ne hi _)
  have hrun : (setText q (.str s)).runOn w = (.ok (), last) := by
    have hlabel : (label q).runOn named = (.ok { l with text := .str s }, named) := by
      rw [label, bind_ok (run_part hnamed)]
      rfl
    have hrend : (renderText (.str s) l.size?).runOn named = (.ok image, named) := by
      rw [renderText, hn]
      exact congrArg (·, named) himg
    have hword : (modifyLabel q ({ · with text := .str s })).runOn w = (.ok (), named) := rfl
    rw [setText, bind_ok (run_requires ho hlost _), bind_ok hword, bind_ok hlabel, bind_ok hrend]
    rfl
  refine ⟨last, hrun, ?_, hoth,
    told_of_part rfl ho hlast (by rw [hl]; rfl) (List.nil_subset _) hoth⟩
  rw [words?, hlast]
  rfl

lemma exists_setText_of_not_str (h : w.Speaks q) (id : PartId) (hline : line.str? = none) :
    ∃ u, (setText q line).runOn w = (.error .wrongSort, u) ∧
      (∀ i ≠ q, u.parts[i.index]? = w.parts[i.index]?) ∧ Told id w u := by
  obtain ⟨o, l, ho, hlost, hl, n, hn⟩ := h
  let named := w.altered q fun p => match p with
    | .label l => .label { l with text := line }
    | .textField l t => .textField { l with text := line } t
    | p => p
  have hnamed : named.parts[q.index]? = some { o with part := .label { l with text := line } } := by
    rw [getElem?_altered_self ho, hl]
  have hoth (i : PartId) (hi : i ≠ q) : named.parts[i.index]? = w.parts[i.index]? :=
    getElem?_altered_of_ne hi _
  have hlabel : (label q).runOn named = (.ok { l with text := line }, named) := by
    rw [label, bind_ok (run_part hnamed)]
    rfl
  have hrend : (renderText line l.size?).runOn named = (.error .wrongSort, named) := by
    rw [renderText, hn]
    cases line with
    | str s => cases hline
    | _ => rfl
  have hword : (modifyLabel q ({ · with text := line })).runOn w = (.ok (), named) := rfl
  refine ⟨named, ?_, hoth, told_of_part rfl ho hnamed (by rw [hl]; rfl) (List.Subset.refl _) hoth⟩
  rw [setText, bind_ok (run_requires ho hlost _), bind_ok hword, bind_ok hlabel, run_bind, hrend]

end Game

/-! ## A dialogue that can speak -/

namespace World

/-- The labels of the dialogue can speak, and the character has a name. -/
structure Voiced (w : World) (id : PartId) (d : Dialogue) : Prop where
  talk : w.talk? id = some d
  name : ∃ s, d.npcName = .str s
  distinct : d.shown.Nodup
  speaks : ∀ q ∈ d.labels, w.Speaks q
  typing : d.style = .typed → ∃ q, d.inputLabel? = some q

lemma Voiced.of_told (h : w.Voiced id d) (htold : Told id w u) (hd : u.talk? id = some d')
    (hfix : d'.fixed = d.fixed) : u.Voiced id d' := by
  simp only [Dialogue.fixed, Prod.mk.injEq] at hfix
  obtain ⟨hs, hn, hbg, hspk, hcont, hhelp, hbox, hl⟩ := hfix
  have hshn : d'.shown = d.shown := by
    simp only [Dialogue.shown, hbg, hspk, hcont, hhelp, hbox, hl]
  have hlabels : d'.labels = d.labels := by
    simp only [Dialogue.labels, hspk, hcont, hhelp, hl]
  exact
    { talk := hd
      name := hn ▸ h.name
      distinct := hshn ▸ h.distinct
      speaks := fun q hq =>
        have hspeaks := h.speaks q (hlabels ▸ hq)
        hspeaks.of_told (hspeaks.ne_of_talk h.talk) htold
      typing := fun htyped => hl ▸ h.typing (hs ▸ htyped) }

lemma Voiced.withTalk (h : w.Voiced id d) {f : Dialogue → Dialogue}
    (hf : (f d).fixed = d.fixed) : (w.withTalk id f).Voiced id (f d) :=
  h.of_told (told_withTalk w id f) (talk?_withTalk_self h.talk f) hf

lemma words?_withTalk (hd : w.talk? id = some d) (f : Dialogue → Dialogue) (q : PartId) :
    (w.withTalk id f).words? q = w.words? q := by
  by_cases hq : q = id
  · subst hq
    obtain ⟨o, ho, hp⟩ := talk?_eq_some.1 hd
    rw [words?, World.withTalk, getElem?_altered_self ho, words?, ho, Option.bind_some,
      Option.bind_some, hp]
    rfl
  · exact words?_of_part (getElem?_altered_of_ne hq _)

/-- The speaker, the content and the helper are three labels, and none of them is for typing. -/
lemma Voiced.apart (h : w.Voiced id d) :
    (d.speaker ≠ d.content ∧ d.speaker ≠ d.helper ∧ d.speaker ∉ d.inputLabel?) ∧
      (d.content ≠ d.helper ∧ d.content ∉ d.inputLabel?) ∧ d.helper ∉ d.inputLabel? := by
  have hnd := h.distinct
  simp only [Dialogue.shown, List.cons_append, List.nodup_cons, List.mem_cons, List.mem_append,
    Option.mem_toList, not_or] at hnd
  obtain ⟨-, ⟨hcont, hhelp, hspk⟩, ⟨hhelp', hcont'⟩, hhelp'', -⟩ := hnd
  exact ⟨⟨hcont, hhelp, hspk.2⟩, ⟨hhelp', hcont'.2⟩, hhelp''.2⟩

end World

/-- The dialogue waits for an answer, if it takes any. -/
def Dialogue.asking (d : Dialogue) : Dialogue :=
  if d.style = .typed then { d with isWaiting := true, isTyping := true, typed := "" } else d

def Dialogue.telling (d : Dialogue) : Dialogue :=
  if d.style = .typed then { d with isWaiting := false, isTyping := false } else d

lemma Dialogue.fixed_asking (d : Dialogue) : d.asking.fixed = d.fixed := by
  rw [asking]
  split <;> rfl

lemma Dialogue.fixed_telling (d : Dialogue) : d.telling.fixed = d.fixed := by
  rw [telling]
  split <;> rfl

lemma DialogueStyle.eq_stepped {style : DialogueStyle} (h : style ≠ .typed) : style = .stepped := by
  cases style with
  | typed => exact absurd rfl h
  | stepped => rfl

namespace Game

open World

lemma exists_tell (h : w.Voiced id d) (hq : q ∈ d.labels) (s : String) :
    ∃ u, (setText q (.str s)).runOn w = (.ok (), u) ∧ u.Voiced id d ∧ Told id w u ∧
      u.words? q = some (.str s) ∧ ∀ i ≠ q, u.words? i = w.words? i := by
  have hspk := h.speaks q hq
  obtain ⟨u, hrun, hwds, hoth, htold⟩ := exists_setText hspk id s
  have htalk : u.talk? id = some d :=
    (talk?_of_part (hoth id (hspk.ne_of_talk h.talk).symm)).trans h.talk
  exact ⟨u, hrun, h.of_told htold htalk rfl, htold, hwds, fun i hi => words?_of_part (hoth i hi)⟩

lemma exists_setTyping (h : w.Voiced id d) (htyped : d.style = .typed) (isTyping : Bool) :
    ∃ u, (setTyping id isTyping).runOn w = (.ok (), u) ∧ u.Voiced id { d with isTyping } ∧
      Told id w u ∧ (∀ i ∉ d.inputLabel?, u.words? i = w.words? i) ∧
      ∀ i ∈ d.inputLabel?, u.words? i = some (.str (if isTyping then typingHint else "")) := by
  obtain ⟨label, hl⟩ := h.typing htyped
  let set := w.withTalk id ({ · with isTyping })
  have hset : set.Voiced id { d with isTyping } := h.withTalk rfl
  let color : Color := if isTyping then [50, 50, 50, 180] else [0, 0, 0, 0]
  let painted : World := { set with drawing := [.fill "surface" color].reverse ++ set.drawing }
  have hpaint : Told id set painted := told_painted id set _
  have hpainted : painted.Voiced id { d with isTyping } := hset.of_told hpaint hset.talk rfl
  have hmem : label ∈ ({ d with isTyping } : Dialogue).labels :=
    List.mem_append_right _ (Option.mem_toList.2 hl)
  obtain ⟨u, hrun, hvoice, htold, hwds, hoth⟩ :=
    exists_tell hpainted hmem (if isTyping then typingHint else "")
  refine ⟨u, ?_, hvoice, ?_, fun i hi => ?_, fun i hi => ?_⟩
  · rw [setTyping, bind_ok (run_modifyDialogue _ _ _),
      bind_ok (run_dialogue hset.talk), hl, bind_ok (run_orAbsent_some _ _), paint,
      run_modify_bind]
    exact hrun
  · exact ((told_withTalk w id _).trans hpaint).trans htold
  · have hne : i ≠ label := fun heq => hi (heq ▸ hl)
    exact (hoth i hne).trans (words?_withTalk h.talk _ i)
  · cases Option.mem_unique hl hi
    exact hwds

lemma exists_closeAnswer (h : w.Voiced id d) :
    ∃ u, (closeAnswer id).runOn w = (.ok (), u) ∧ u.Voiced id d.telling ∧ Told id w u ∧
      (∀ i ≠ d.helper, i ∉ d.inputLabel? → u.words? i = w.words? i) ∧
      (d.style = .typed → ∀ i ∈ d.inputLabel?, u.words? i = some (.str "")) := by
  rw [closeAnswer, bind_ok (run_dialogue h.talk), Dialogue.telling]
  by_cases hs : d.style = .typed
  · rw [if_pos hs]
    let set := w.withTalk id ({ · with isWaiting := false })
    have hset : set.Voiced id { d with isWaiting := false } := h.withTalk rfl
    obtain ⟨u, hrun, hvoice, htold, hwds, hinp⟩ := exists_setTyping hset hs false
    have hhelp : d.helper ∈ d.labels := by simp [Dialogue.labels]
    obtain ⟨v, hrun', hvoice', htold', -, hwds'⟩ := exists_tell hvoice hhelp stepHint
    refine ⟨v, ?_, hvoice', ((told_withTalk w id _).trans htold).trans htold', fun i hi hl => ?_,
      fun _ i hi => ?_⟩
    · rw [hs]
      change (modifyDialogue id _ >>= fun _ => _).runOn w = _
      rw [bind_ok (run_modifyDialogue _ _ _), bind_ok hrun]
      exact hrun'
    · exact (hwds' i hi).trans ((hwds i hl).trans (words?_withTalk h.talk _ i))
    · exact (hwds' i fun heq => h.apart.2.2 (heq ▸ hi)).trans (hinp i hi)
  · rw [if_neg hs, DialogueStyle.eq_stepped hs]
    exact ⟨w, rfl, h, .refl id w, fun _ _ _ => rfl, nofun⟩

lemma exists_openAnswer (h : w.Voiced id d) :
    ∃ u, (openAnswer id).runOn w = (.ok (), u) ∧ u.Voiced id d.asking ∧ Told id w u ∧
      (∀ i ≠ d.helper, i ∉ d.inputLabel? → u.words? i = w.words? i) ∧
      (d.style = .typed → ∀ i ∈ d.inputLabel?, u.words? i = some (.str typingHint)) := by
  rw [openAnswer, bind_ok (run_dialogue h.talk), Dialogue.asking]
  by_cases hs : d.style = .typed
  · rw [if_pos hs]
    let set := w.withTalk id ({ · with isWaiting := true })
    have hset : set.Voiced id { d with isWaiting := true } := h.withTalk rfl
    obtain ⟨u, hrun, hvoice, htold, hwds, hinp⟩ := exists_setTyping hset hs true
    have hemp : (u.withTalk id ({ · with typed := "" })).Voiced id
        { d with isWaiting := true, isTyping := true, typed := "" } := hvoice.withTalk rfl
    have hhelp : d.helper ∈ d.labels := by simp [Dialogue.labels]
    obtain ⟨v, hrun', hvoice', htold', -, hwds'⟩ := exists_tell hemp hhelp answerHint
    refine ⟨v, ?_, hvoice', ?_, fun i hi hl => ?_, fun _ i hi => ?_⟩
    · rw [hs]
      change (modifyDialogue id _ >>= fun _ => _).runOn w = _
      rw [bind_ok (run_modifyDialogue _ _ _), bind_ok hrun, bind_ok (run_modifyDialogue _ _ _)]
      exact hrun'
    · exact ((told_withTalk w id _).trans htold).trans ((told_withTalk u id _).trans htold')
    · exact (hwds' i hi).trans ((words?_withTalk hvoice.talk _ i).trans
        ((hwds i hl).trans (words?_withTalk h.talk _ i)))
    · exact (hwds' i fun heq => h.apart.2.2 (heq ▸ hi)).trans
        ((words?_withTalk hvoice.talk _ i).trans (hinp i hi))
  · rw [if_neg hs, DialogueStyle.eq_stepped hs]
    exact ⟨w, rfl, h, .refl id w, fun _ _ _ => rfl, nofun⟩

/-! ## Who speaks, and what is heard -/

/-- The dialogue is in a state, and its box shows who says what. -/
structure Heard (w u : World) (id : PartId) (d : Dialogue) (speaker content : Json) : Prop where
  voiced : u.Voiced id d
  told : Told id w u
  speaker : u.words? d.speaker = some speaker
  content : u.words? d.content = some content

section

variable (h : w.Voiced id d)
include h

lemma exists_heard (speaker content : String) {rest : Game Unit}
    {d' : Dialogue} (hfix : d'.fixed = d.fixed)
    (hrest : ∀ v : World, v.Voiced id d → ∃ u, rest.runOn v = (.ok (), u) ∧ u.Voiced id d' ∧
      Told id v u ∧ ∀ i ≠ d.helper, i ∉ d.inputLabel? → u.words? i = v.words? i) :
    ∃ u, (setText d.speaker (.str speaker) >>= fun _ => setText d.content (.str content) >>=
      fun _ => rest).runOn w = (.ok (), u) ∧ Heard w u id d' (.str speaker) (.str content) := by
  obtain ⟨u, hrun, hvoice, htold, hwds, -⟩ :=
    exists_tell h (q := d.speaker) (by simp [Dialogue.labels]) speaker
  obtain ⟨v, hrun', hvoice', htold', hwds', hoth⟩ :=
    exists_tell hvoice (q := d.content) (by simp [Dialogue.labels]) content
  obtain ⟨z, hrun'', hvoice'', htold'', hwds''⟩ := hrest v hvoice'
  simp only [Dialogue.fixed, Prod.mk.injEq] at hfix
  refine ⟨z, ?_, hvoice'', (htold.trans htold').trans htold'', ?_, ?_⟩
  · rw [bind_ok hrun, bind_ok hrun', hrun'']
  · rw [hfix.2.2.2.1, hwds'' _ h.apart.1.2.1 h.apart.1.2.2, hoth _ h.apart.1.1, hwds]
  · rw [hfix.2.2.2.2.1, hwds'' _ h.apart.2.1.1 h.apart.2.1.2, hwds']

lemma exists_unheard (speaker : String) (hl : line.str? = none) (rest : Game Unit) :
    ∃ u, (setText d.speaker (.str speaker) >>= fun _ => setText d.content line >>=
      fun _ => rest).runOn w = (.error .wrongSort, u) ∧ u.talk? id = some d ∧ Told id w u := by
  obtain ⟨u, hrun, hvoice, htold, -⟩ :=
    exists_tell h (q := d.speaker) (by simp [Dialogue.labels]) speaker
  have hspk := hvoice.speaks d.content (by simp [Dialogue.labels])
  obtain ⟨v, hrun', hoth, htold'⟩ := exists_setText_of_not_str hspk id hl
  refine ⟨v, ?_, ?_, htold.trans htold'⟩
  · rw [bind_ok hrun, run_bind, hrun']
  · exact (talk?_of_part (hoth id (hspk.ne_of_talk hvoice.talk).symm)).trans hvoice.talk

lemma exists_npcSpeaks (s : String) : ∃ u, (npcSpeaks id (.str s)).runOn w = (.ok (), u) ∧
      Heard w u id d.asking d.npcName (.str s) := by
  obtain ⟨name, hn⟩ := h.name
  rw [npcSpeaks, bind_ok (run_dialogue h.talk), hn]
  refine exists_heard h name s d.fixed_asking fun v hv => ?_
  obtain ⟨u, hrun, hvoice, htold, hwds, -⟩ := exists_openAnswer hv
  exact ⟨u, hrun, hvoice, htold, hwds⟩

lemma exists_unmarkedHeard (speaker s : String) :
    ∃ u, (setText d.speaker (.str speaker) >>= fun _ =>
        setText d.content (Line.unmarked (.str s)) >>= fun _ => closeAnswer id).runOn w = (.ok (), u) ∧
      Heard w u id d.telling (.str speaker) (Line.unmarked (.str s)) := by
  refine exists_heard h speaker _ d.fixed_telling fun v hv => ?_
  obtain ⟨u, hrun, hvoice, htold, hwds, -⟩ := exists_closeAnswer hv
  exact ⟨u, hrun, hvoice, htold, hwds⟩

lemma exists_playerSpeaks (s : String) : ∃ u, (playerSpeaks id (.str s)).runOn w = (.ok (), u) ∧
      Heard w u id d.telling (.str "You") (Line.unmarked (.str s)) := by
  rw [playerSpeaks, bind_ok (run_dialogue h.talk)]
  exact exists_unmarkedHeard h "You" s

lemma exists_narrate (s : String) : ∃ u, (narrate id (.str s)).runOn w = (.ok (), u) ∧
      Heard w u id d.telling (.str "") (Line.unmarked (.str s)) := by
  rw [narrate, bind_ok (run_dialogue h.talk)]
  exact exists_unmarkedHeard h "" s

end

end Game

end TileQuest
