import TileQuest.Proofs.Editor.Sharing
import TileQuest.Proofs.Talk.Words

/-!
# What the fields show, and what is kept

The fields of the selected entity show its arguments. Whatever is typed into one of them, the texts
of all fields are kept (`Game.showsKept_of_saveArgs`). What the backspace key takes away is not, before
something is typed again: each argument then still has, behind what its field shows, the characters
that were erased since.
-/

namespace TileQuest

variable {erased erased : Bool} {a a : Unit} {w u : World} {f g p : PartId} {i : Nat}
variable {value : String}

def Part.isActive : Part → Bool
  | textField _ field => field.active.isTruthy
  | _ => false

namespace World

variable {q : PartId}

def isActive (w : World) (f : PartId) : Bool := w.parts[f.index]?.any fun o => o.part.isActive

/-- Text that is typed goes into the field, and all fields are kept then. -/
def takesText (w : World) (f : PartId) : Bool :=
  w.isActive f && decide (w.reaction? f = some .saveArgs)

def shown? (w : World) (i : Nat) : Option Json := w.editor.fields[i]?.bind w.words?

def kept? (w : World) (i : Nat) : Option String := (w.selectedPart?.bind w.argsAt?).bind (·[i]?)

/-- Every field shows the argument at its position. -/
def ShowsKept (w : World) : Prop :=
  ∀ i < w.editor.fields.length, ∃ s, w.shown? i = some (.str s) ∧ w.kept? i = some s

instance : Decidable w.ShowsKept :=
  decidable_of_iff (∀ i < w.editor.fields.length,
      (w.kept? i).isSome ∧ w.shown? i = (w.kept? i).map .str) <|
    forall₂_congr fun i _ => by cases w.kept? i <;> simp

/-- Every argument begins with what its field shows. -/
def ShowsStart (w : World) : Prop :=
  ∀ i < w.editor.fields.length, ∃ s erased,
    w.shown? i = some (.str s) ∧ w.kept? i = some (s ++ erased)

/-- The fields are open: a change of their texts is kept for the selected entity, and all that is
typed goes there, or leads to nothing. -/
structure FormOpen (w : World) : Prop where
  fills : w.FillsForm
  fields : ∀ f ∈ w.editor.fields, w.reaction? f = some .saveArgs

lemma FormOpen.of_eq (h : w.FormOpen) (heditor : u.editor = w.editor)
    (hlisten : u.listeners = w.listeners) (hreact : ∀ q, u.reaction? q = w.reaction? q) :
    u.FormOpen where
  fills f hf := by
    rw [hreact f]
    exact h.fills f (hlisten ▸ hf)
  fields f hf := by
    rw [hreact f]
    exact h.fields f (heditor ▸ hf)

lemma FormOpen.retypes (h : w.FormOpen) (hu : Retypes w u) : u.FormOpen :=
  h.of_eq hu.editor hu.listeners hu.reaction

lemma FormOpen.reaction_of_getElem? (h : w.FormOpen) (hf : w.editor.fields[i]? = some f) :
    w.reaction? f = some .saveArgs :=
  h.fields f (List.mem_of_getElem? hf)

lemma ShowsKept.showsStart (h : w.ShowsKept) : w.ShowsStart := by
  intro i hi
  obtain ⟨s, hshown, hkept⟩ := h i hi
  exact ⟨s, "", hshown, by rw [String.append_empty, hkept]⟩

section

variable (heditor : u.editor = w.editor) (hshown : ∀ i, u.shown? i = w.shown? i) (hkept : ∀ i, u.kept? i = w.kept? i)
include heditor hshown hkept

lemma showsKept_congr : u.ShowsKept ↔ w.ShowsKept := by
  simp only [ShowsKept, heditor, hshown, hkept]

lemma showsStart_congr : u.ShowsStart ↔ w.ShowsStart := by
  simp only [ShowsStart, heditor, hshown, hkept]

end

lemma Rewords.kept?_eq (h : Rewords g w u) (i : Nat) : u.kept? i = w.kept? i := by
  have hargs (q : PartId) : u.argsAt? q = w.argsAt? q := by
    rw [argsAt?, h.standIn q, argsAt?]
    simp only [argsOf_eq h.defaults]
  rw [kept?, h.retypes.selectedPart?_eq, funext hargs, kept?]

lemma Rewords.shown?_eq (h : Rewords g w u) (hg : w.editor.fields[i]? ≠ some g) :
    u.shown? i = w.shown? i := by
  rw [shown?, h.editor, shown?]
  cases hf : w.editor.fields[i]? with
  | none => rfl
  | some f => exact words?_of_part (h.others f fun heq => hg (hf.trans (congrArg some heq)))

lemma Rewords.takesText_eq (h : Rewords g w u) (hg : w.reaction? g ≠ some .saveArgs)
    (q : PartId) : u.takesText q = w.takesText q := by
  rw [takesText, takesText, h.reaction q]
  by_cases hq : q = g
  · rw [hq, decide_eq_false hg, Bool.and_false, Bool.and_false]
  · rw [isActive, h.others q hq, isActive]

lemma words?_modify {f : Owned → Owned}
    (hf : ∀ o, w.parts[p.index]? = some o → (f o).part.label? = o.part.label?) (q : PartId) :
    ({ w with parts := w.parts.modify p.index f } : World).words? q = w.words? q := by
  have hl := congrArg Option.join
    (map_getElem?_modify (g := fun o : Owned => o.part.label?) hf q.index)
  rw [← Option.bind_id_eq_join, ← Option.bind_id_eq_join, Option.bind_map, Option.bind_map] at hl
  exact congrArg (Option.map Label.text) hl

end World

namespace Game

open World

variable {v : World} {text : Json}

/-! ## Keeping what the fields show -/

lemma words?_of_label {l : Label} (h : (label f).runOn w = (.ok l, u)) :
    w.words? f = some l.text := by
  obtain ⟨part, hp, h⟩ := (obeys_part f).seen h
  obtain ⟨⟨o, ho, rfl⟩, -⟩ := run_part_eq_ok.1 hp
  rw [words?, ho, Option.bind_some, (run_orAbsent_eq_ok.1 h).1, Option.map_some]

/-- The text of a field is the argument at a position now, and nothing else is changed. -/
structure Files (f : PartId) (i : Nat) (w u : World) : Prop where
  retypes : Retypes w u
  words : ∀ q, u.words? q = w.words? q
  arg : ∃ s, w.words? f = some (.str s) ∧ u.kept? i = some s
  others : ∀ j ≠ i, u.kept? j = w.kept? j

lemma run_setArgument_eq_ok (h : (setArgument p i value).runOn w = (.ok a, u)) :
    (∃ args, w.argsAt? p = some args ∧ i < args.length ∧ u.argsAt? p = some (args.set i value)) ∧
      ∀ q, u.words? q = w.words? q := by
  obtain ⟨⟨factory, args⟩, hph, h⟩ := (obeys_placeholder p).seen h
  obtain ⟨hstandIn, -⟩ := run_placeholder_eq_ok.1 hph
  obtain ⟨o, ho, hp⟩ := standIn?_eq_some.1 hstandIn
  have hargs : w.argsAt? p = some (w.argsOf args) := by rw [argsAt?, hstandIn, Option.map_some]
  rw [bind_ok (run_argValues args)] at h
  by_cases hshort : (w.argsOf args).length ≤ i
  · rw [if_pos hshort] at h
    cases congrArg Prod.fst h
  rw [if_neg hshort] at h
  refine ⟨⟨_, hargs, Nat.lt_of_not_le hshort, ?_⟩, fun q => ?_⟩
  · cases args with
    | own values =>
      cases h
      simp [argsAt?, standIn?, Array.getElem?_modify, ho, hp, Part.standIn?, argsOf]
    | defaults k =>
      cases h
      have hk : k < w.defaults.length := by
        by_contra hk
        refine hshort ?_
        rw [argsOf, List.getD_eq_getElem?_getD, List.getElem?_eq_none (Nat.le_of_not_lt hk)]
        exact Nat.zero_le i
      change Option.map _ (w.standIn? p) = _
      rw [hstandIn]
      simp [argsOf, hk]
  · cases args with
    | own values =>
      cases h
      exact words?_modify (fun o' ho' => by cases ho.symm.trans ho'; rw [hp]; rfl) q
    | defaults k =>
      cases h
      rfl

lemma files_setArgument (hp : w.selectedPart? = some p)
    (hf : w.words? f = some (.str value)) (h : (setArgument p i value).runOn w = (.ok a, u)) :
    Files f i w u := by
  obtain ⟨⟨args, hargs, hi, hargs'⟩, hwds⟩ := run_setArgument_eq_ok h
  have hret : Retypes w u := by
    have hset := retypes_setArgument hp i value
    rwa [h] at hset
  have hkept (j : Nat) : w.kept? j = args[j]? ∧ u.kept? j = (args.set i value)[j]? := by
    simp only [kept?, hret.selectedPart?_eq, hp, Option.bind_some, hargs, hargs', and_self]
  refine ⟨hret, hwds, ⟨value, hf, ?_⟩, fun j hj => ?_⟩
  · rw [(hkept i).2, List.getElem?_set_self hi]
  · rw [(hkept j).1, (hkept j).2, List.getElem?_set_ne (Ne.symm hj)]

/-- The texts of fields are kept one after the other, beginning at a position. -/
lemma files_forM {k : PartId × Nat → Game PUnit} (hk : ∀ f i w u, w.selectedPart? = some p →
      (k (f, i)).runOn w = (.ok (), u) → Files f i w u) {fs : List PartId} {m : Nat}
    (hp : w.selectedPart? = some p) (h : ((fs.zipIdx m).forM k).runOn w = (.ok (), u)) :
    Retypes w u ∧ (∀ q, u.words? q = w.words? q) ∧ (∀ i < m, u.kept? i = w.kept? i) ∧
      ∀ j f, fs[j]? = some f → ∃ s, w.words? f = some (.str s) ∧ u.kept? (m + j) = some s := by
  induction fs generalizing w m with
  | nil =>
    cases h
    exact ⟨.refl _, fun _ => rfl, fun _ _ => rfl, fun _ _ h => by cases h⟩
  | cons f fs ih =>
    rw [List.zipIdx_cons, run_forM_cons] at h
    obtain ⟨_, v, hfst, h⟩ := run_bind_eq_ok.1 h
    have hfiled := hk f m w v hp hfst
    obtain ⟨hret, hwds, hbef, hfields⟩ := ih (hfiled.retypes.selectedPart?_eq.trans hp) h
    refine ⟨hfiled.retypes.trans hret, fun q => (hwds q).trans (hfiled.words q),
      fun i hi => (hbef i (Nat.lt_succ_of_lt hi)).trans (hfiled.others i hi.ne),
      fun j g hg => ?_⟩
    cases j with
    | zero =>
      cases hg
      obtain ⟨s, hs, hkept⟩ := hfiled.arg
      exact ⟨s, hs, (hbef m (Nat.lt_succ_self m)).trans hkept⟩
    | succ j =>
      obtain ⟨s, hs, hkept⟩ := hfields j g hg
      rw [hfiled.words g] at hs
      rw [Nat.succ_add_eq_add_succ] at hkept
      exact ⟨s, hs, hkept⟩

lemma showsKept_of_saveArgs (h : saveArgs.runOn w = (.ok a, u)) : u.ShowsKept := by
  obtain ⟨e, he, h⟩ := (Obeys.orAbsent _).seen h
  obtain ⟨p, hp, h⟩ := (obeys_find e _).seen h
  obtain ⟨hret, hwds, -, hfields⟩ := files_forM (p := p) (m := 0) (fun f i w u hw hset => by
    obtain ⟨l, hl, hset⟩ := (obeys_label f).seen hset
    split at hset
    · rename_i heq
      exact files_setArgument hw ((words?_of_label hl).trans (congrArg some heq)) hset
    · cases congrArg Prod.fst hset) (selectedPart?_of_find (run_orAbsent_eq_ok.1 he).1 hp) h
  intro i hi
  rw [hret.editor] at hi
  obtain ⟨s, hs, hkept⟩ := hfields i _ (List.getElem?_eq_getElem hi)
  rw [Nat.zero_add] at hkept
  refine ⟨s, ?_, hkept⟩
  rw [shown?, hret.editor, List.getElem?_eq_getElem hi, Option.bind_some, hwds, hs]

/-! ## Typing -/

lemma run_typeInto_eq_ok {took : Bool} (h : (typeInto f text).runOn w = (.ok took, u)) :
    took = w.isActive f ∧ (took = false → u = w) := by
  obtain ⟨_, -, h⟩ := (obeys_requires f _).seen h
  obtain ⟨part, hp, h⟩ := (obeys_part f).seen h
  obtain ⟨⟨o, ho, rfl⟩, -⟩ := run_part_eq_ok.1 hp
  rw [isActive, ho, Option.any_some]
  split at h
  · rename_i l field hfld
    rw [hfld, Part.isActive]
    cases hact : field.active.isTruthy with
    | false =>
      rw [hact] at h
      cases h
      exact ⟨rfl, fun _ => rfl⟩
    | true =>
      rw [hact] at h
      obtain ⟨_, -, h⟩ := (Obeys.lift _).seen h
      obtain ⟨_, _, -, h⟩ := run_bind_eq_ok.1 h
      obtain ⟨_, -, h⟩ := (Obeys.lift _).seen h
      obtain ⟨_, -, h⟩ := (Obeys.lift _).seen h
      obtain rfl : took = true := by
        split at h
        all_goals
          obtain ⟨_, _, -, h⟩ := run_bind_eq_ok.1 h
          obtain ⟨_, _, -, h⟩ := run_bind_eq_ok.1 h
          obtain ⟨_, _, -, h⟩ := run_bind_eq_ok.1 h
          cases h
          rfl
      exact ⟨rfl, fun h => by cases h⟩
  · cases congrArg Prod.fst h

/-- What typing into one field leads to. If the field does not take the text, then nothing that is
shown or kept is changed, for a field whose text is not kept does not belong to the entity. -/
lemma run_enterText_eq_ok (h : w.FormOpen) (hg : g ∈ w.listeners)
    (hrun : (enterText text g).runOn w = (.ok a, u)) :
    if w.takesText g then u.ShowsKept
    else (∀ i, u.shown? i = w.shown? i) ∧ (∀ i, u.kept? i = w.kept? i) ∧
      ∀ q, u.takesText q = w.takesText q := by
  obtain ⟨took, v, htype, hrest⟩ := run_bind_eq_ok.1 hrun
  obtain ⟨htook, hsame⟩ := run_typeInto_eq_ok htype
  rw [takesText, ← htook]
  cases took with
  | false =>
    obtain rfl : u = w := (congrArg Prod.snd hrest).symm.trans (hsame rfl)
    exact ⟨fun _ => rfl, fun _ => rfl, fun _ => rfl⟩
  | true =>
    have hv : Rewords g w v := (rewords_typeInto g text).of_run htype
    obtain ⟨part, hp, hrest⟩ := (obeys_part g).seen hrest
    obtain ⟨⟨o, ho, rfl⟩, -⟩ := run_part_eq_ok.1 hp
    have hreact : w.reaction? g = o.part.reaction? := by
      rw [← hv.reaction g, reaction?, ho, Option.map_some, Option.join_some]
    have hfills := h.fills g hg
    rw [Bool.true_and, hreact]
    rw [hreact] at hfills
    split at hrest
    · rename_i action hfld
      obtain rfl : action = .saveArgs := by simpa [hfld, Part.reaction?] using hfills
      rw [hfld]
      exact showsKept_of_saveArgs hrest
    · rename_i hfld
      have hnone : o.part.reaction? = none := by
        unfold Part.reaction?
        split
        · rename_i field hp
          cases haction : field.onChange? with
          | none => rfl
          | some action =>
            cases field
            subst haction
            exact absurd hp (by apply hfld)
        · rfl
      have hkeeps : w.reaction? g ≠ some .saveArgs := by simp [hreact, hnone]
      obtain rfl : v = u := congrArg Prod.snd hrest
      rw [hnone]
      refine ⟨fun i => hv.shown?_eq fun hi => hkeeps (h.reaction_of_getElem? hi), hv.kept?_eq,
        hv.takesText_eq hkeeps⟩

/-- What typing into several fields leads to. Once a field has taken the text, what the others do
with it changes nothing of what is shown or kept, or all is kept anew. -/
lemma run_enterAll_eq_ok {gs : List PartId} (h : w.FormOpen)
    (hgs : ∀ g ∈ gs, g ∈ w.listeners) (hrun : (gs.forM (enterText text)).runOn w = (.ok a, u)) :
    Retypes w u ∧ (gs.any w.takesText ∨ w.ShowsKept → u.ShowsKept) ∧ (gs.any w.takesText = false →
        (∀ i, u.shown? i = w.shown? i) ∧ ∀ i, u.kept? i = w.kept? i) := by
  induction gs generalizing w with
  | nil =>
    cases hrun
    exact ⟨.refl _, fun h => h.resolve_left (by simp), fun _ => ⟨fun _ => rfl, fun _ => rfl⟩⟩
  | cons g gs ih =>
    rw [run_forM_cons] at hrun
    obtain ⟨_, v, hfst, hrest⟩ := run_bind_eq_ok.1 hrun
    have hg := hgs g (.head _)
    have hret : Retypes w v := by
      have htyped := retypes_enterText text (h.fills g hg)
      rwa [hfst] at htyped
    obtain ⟨hret', hkeeps, hsame⟩ := ih (h.retypes hret)
      (fun f hf => hret.listeners.symm ▸ hgs f (List.mem_cons_of_mem g hf)) hrest
    have hent := run_enterText_eq_ok h hg hfst
    refine ⟨hret.trans hret', ?_⟩
    rw [List.any_cons]
    cases htakes : w.takesText g with
    | true =>
      rw [if_pos htakes] at hent
      exact ⟨fun _ => hkeeps (.inr hent), fun hnone => by cases hnone⟩
    | false =>
      rw [if_neg (by simp [htakes])] at hent
      obtain ⟨hshown, hkept, htake⟩ := hent
      rw [funext htake] at hkeeps hsame
      rw [Bool.false_or]
      rw [showsKept_congr hret.editor hshown hkept] at hkeeps
      refine ⟨hkeeps, fun hnone => ?_⟩
      obtain ⟨hshown', hkept'⟩ := hsame hnone
      exact ⟨fun i => (hshown' i).trans (hshown i), fun i => (hkept' i).trans (hkept i)⟩

/-! ## The backspace key -/

lemma words?_modifyLabel (f : PartId) (change : Label → Label) (w : World) :
    ((modifyLabel f change).runOn w).2.words? f =
      (w.parts[f.index]?.bind fun o => o.part.label?).map fun l => (change l).text := by
  change ((w.parts.modify f.index _)[f.index]?.bind _).map _ = _
  rw [Array.getElem?_modify, if_pos rfl]
  cases w.parts[f.index]? with
  | none => rfl
  | some o => dsimp only [Option.map_some, Option.bind_some]; cases o.part <;> rfl

lemma words?_of_setText (h : (setText f text).runOn w = (.ok a, u)) : u.words? f = some text := by
  obtain ⟨_, -, h⟩ := (obeys_requires f _).seen h
  obtain ⟨_, v, hword, h⟩ := run_bind_eq_ok.1 h
  obtain ⟨l, hl, h⟩ := (obeys_label f).seen h
  obtain ⟨image, -, h⟩ := (Obeys.bind (.orAbsent _) fun _ => .lifts fun _ => .lifts fun _ =>
    .lift _ : Obeys Eq (renderText text l.size?)).seen h
  obtain ⟨_, v', himg, h⟩ := run_bind_eq_ok.1 h
  have hv : v.words? f = some text := by
    have hwds := words?_modifyLabel f ({ · with text }) w
    rw [hword, words?_of_label hl] at hwds
    obtain ⟨_, -, ht⟩ := Option.map_eq_some_iff.1 hwds.symm
    rw [words?_of_label hl]
    exact congrArg some ht.symm
  have hv' : v'.words? f = v.words? f := by
    have hwds := words?_modifyLabel f ({ · with image }) v
    rwa [himg] at hwds
  cases h
  rw [← hv, ← hv']
  refine words?_modify (fun _ _ => ?_) f
  rfl

/-- Nothing is changed but how a field waits for text. -/
structure Retunes (f : PartId) (w u : World) : Prop extends Rewords f w u where
  words : ∀ q, u.words? q = w.words? q

instance (f : PartId) : IsPreorder World (Retunes f) where
  refl w := ⟨Std.Refl.refl w, fun _ => rfl⟩
  trans w u v h h' := ⟨IsTrans.trans w u v h.toRewords h'.toRewords,
    fun q => (h'.words q).trans (h.words q)⟩

lemma retunes_modifyField (id : PartId) (f : TextField → TextField)
    (hf : ∀ t, (f t).onChange? = t.onChange?) : Obeys (Retunes id) (modifyField id f) :=
  fun w => ⟨.modifyOwned (fun o => by dsimp only; cases o.part <;> rfl) (fun o => by
    dsimp only; cases o.part <;> first | exact hf _ | rfl) w,
    words?_modify fun o _ => by dsimp only; cases o.part <;> rfl⟩

/-- The last character of a field may go first, and then only how the field waits for text changes. -/
lemma run_erasing_eq_ok {c : Bool} {k : Unit → Game Unit} (hk : ∀ a, Obeys (Retunes f) (k a))
    (h : (if c then eraseLast f >>= k else k ()).runOn w = (.ok a, u)) :
    Rewords f w u ∧ if c then
      ∃ text, w.words? f = some text ∧ ∃ text', text.dropLast = .ok text' ∧ u.words? f = some text'
    else u.words? f = w.words? f := by
  cases c with
  | false =>
    have hu := (hk ()).of_run h
    exact ⟨hu.toRewords, hu.words f⟩
  | true =>
    obtain ⟨_, v, herase, h⟩ := run_bind_eq_ok.1 h
    have hu := (hk _).of_run h
    obtain ⟨l, hl, herase⟩ := (obeys_label f).seen herase
    obtain ⟨text', ht', herase⟩ := (Obeys.lift _).seen herase
    refine ⟨IsTrans.trans w v u ((rewords_setText f _).of_run herase) hu.toRewords, l.text,
      words?_of_label hl, text', (run_lift_eq_ok.1 ht').1, ?_⟩
    rw [hu.words f, words?_of_setText herase]

/-- One frame of a field: its last character goes if the backspace key went down. -/
lemma run_update_eq_ok (hf : w.reaction? f = some .saveArgs)
    (h : (update f).runOn w = (.ok a, u)) :
    Rewords f w u ∧ if w.isActive f && w.input.isFresh .backspace then
      ∃ text, w.words? f = some text ∧ ∃ text', text.dropLast = .ok text' ∧ u.words? f = some text'
    else u.words? f = w.words? f := by
  obtain ⟨_, -, h⟩ := (obeys_requires f _).seen h
  obtain ⟨part, hpart, h⟩ := (obeys_part f).seen h
  obtain ⟨⟨o, ho, rfl⟩, -⟩ := run_part_eq_ok.1 hpart
  rw [reaction?, ho, Option.map_some, Option.join_some] at hf
  obtain ⟨l, field, hfld⟩ : ∃ l field, o.part = .textField l field := by
    cases hp : o.part <;> rw [hp] at hf <;> first | exact ⟨_, _, rfl⟩ | cases hf
  rw [isActive, ho, Option.any_some, hfld, Part.isActive]
  rw [hfld] at h
  change (updateTextField f field).runOn w = _ at h
  rw [updateTextField, run_get_bind] at h
  refine run_erasing_eq_ok (fun _ => ?_) h
  exact .bind (retunes_modifyField f _ fun _ => rfl) fun _ => .bind (.orAbsent _) fun _ =>
    .bind (obeys_place f) fun _ => .lifts fun _ => .lifts fun _ =>
    .ite (.lifts fun _ => retunes_modifyField f _ fun _ => rfl) (.pure _)

end Game

open World Game

/-- What is done while the fields are open: text is typed, the keys and the mouse are used, or the
field at a position has a frame. -/
inductive Stroke where
  | text (typed : String)
  | input (now : Input)
  | frame (index : Nat)

namespace Stroke

variable {strokes : List Stroke}

def play : Stroke → Game Unit
  | text typed => typeText (.str typed)
  | input now => modifyInput fun _ => now
  | frame index => do
    match (← get).editor.fields[index]? with
    | some f => update f
    | none => return

/-- A field takes the text that is typed. -/
def isTaken (w : World) : Stroke → Bool
  | text _ => w.listeners.any w.takesText
  | input _ | frame _ => false

/-- The backspace key takes a character from a field. -/
def erases (w : World) : Stroke → Bool
  | frame index => w.editor.fields[index]?.any fun f =>
    (w.isActive f && w.input.isFresh .backspace) && decide (w.words? f ≠ some (.str ""))
  | text _ | input _ => false

/-- A character was erased, and no field has taken text since; `erased` says so for what was done
before. -/
def erasedSince : List Stroke → World → Bool → Bool
  | [], _, erased => erased
  | s :: rest, w, erased =>
    erasedSince rest (s.play.runOn w).2 (!s.isTaken w && (erased || s.erases w))

/-- Every argument begins with what its field shows, and it is just that unless something was erased. -/
structure Trails (erased : Bool) (w : World) : Prop where
  isOpen : w.FormOpen
  start : w.ShowsStart
  kept : w.ShowsKept ↔ erased = false

lemma Trails.congr (h : Trails erased w) (hopen : u.FormOpen)
    (heditor : u.editor = w.editor) (hshown : ∀ i, u.shown? i = w.shown? i)
    (hkept : ∀ i, u.kept? i = w.kept? i) : Trails erased u :=
  ⟨hopen, (showsStart_congr heditor hshown hkept).2 h.start,
    (showsKept_congr heditor hshown hkept).trans h.kept⟩

lemma Trails.of_kept (hopen : w.FormOpen) (h : w.ShowsKept) : Trails false w :=
  ⟨hopen, h.showsStart, by simp [h]⟩

/-- What is left of a text after its last character is gone is its beginning. -/
lemma exists_dropLast_append {s : String} (hs : s ≠ "") :
    ∃ last : String, String.ofList s.toList.dropLast ++ last = s ∧ 0 < last.length := by
  have hs' : s.toList ≠ [] := fun h => hs (String.toList_eq_nil_iff.1 h)
  refine ⟨String.ofList [s.toList.getLast hs'], ?_, by simp⟩
  rw [← String.ofList_append, List.dropLast_append_getLast, String.ofList_toList]

/-- One frame of a field: what is shown gets shorter or stays, and what is kept stays. -/
lemma Trails.frame {index : Nat} {f : PartId} (h : Trails erased w)
    (hf : w.editor.fields[index]? = some f) (hrun : (update f).runOn w = (.ok a, u)) :
    Trails (erased || (frame index).erases w) u := by
  obtain ⟨hu, hwds⟩ := run_update_eq_ok (h.isOpen.reaction_of_getElem? hf) hrun
  have hopen : u.FormOpen := h.isOpen.retypes hu.retypes
  have hidx : index < w.editor.fields.length := (List.getElem?_eq_some_iff.1 hf).1
  have hfld (v : World) (hv : v.editor = w.editor) {i : Nat}
      (hi : w.editor.fields[i]? = some f) : v.shown? i = v.words? f := by
    rw [shown?, hv, hi, Option.bind_some]
  have hsame (hwds : u.words? f = w.words? f) : Trails erased u := by
    refine h.congr hopen hu.editor (fun i => ?_) hu.kept?_eq
    by_cases hi : w.editor.fields[i]? = some f
    · rw [hfld u hu.editor hi, hfld w rfl hi, hwds]
    · exact hu.shown?_eq hi
  obtain ⟨s, -, hshown, -⟩ := h.start index hidx
  have hs : w.words? f = some (.str s) := (hfld w rfl hf).symm.trans hshown
  rw [erases, hf, Option.any_some]
  cases hpress : w.isActive f && w.input.isFresh .backspace with
  | false =>
    rw [hpress] at hwds
    rw [Bool.false_and, Bool.or_false]
    exact hsame hwds
  | true =>
    rw [hpress] at hwds
    obtain ⟨text, ht, text', hdrop, hs'⟩ := hwds
    obtain rfl := Option.some.inj (hs.symm.trans ht)
    cases hdrop
    by_cases hemp : s = ""
    · subst hemp
      rw [hs, decide_eq_false (by simp), Bool.and_false, Bool.or_false]
      exact hsame (hs'.trans hs.symm)
    obtain ⟨last, hlast, hpos⟩ := exists_dropLast_append hemp
    rw [hs, decide_eq_true (by simp [hemp]), Bool.and_true, Bool.or_true]
    refine ⟨hopen, fun i hi => ?_, ⟨fun hkept => ?_, fun h => by cases h⟩⟩
    · rw [hu.editor] at hi
      obtain ⟨s0, rest, hshown0, hkept0⟩ := h.start i hi
      rw [hu.kept?_eq]
      by_cases hif : w.editor.fields[i]? = some f
      · rw [hfld w rfl hif, hs] at hshown0
        cases hshown0
        exact ⟨_, last ++ rest, (hfld u hu.editor hif).trans hs',
          by rw [hkept0, ← String.append_assoc, hlast]⟩
      · exact ⟨s0, rest, (hu.shown?_eq hif).trans hshown0, hkept0⟩
    · -- the argument still has the character, so it is longer than what is shown
      obtain ⟨s1, hshown1, hkept1⟩ := hkept index (hu.editor ▸ hidx)
      obtain ⟨s0, rest, hshown0, hkept0⟩ := h.start index hidx
      rw [hfld w rfl hf, hs] at hshown0
      rw [hfld u hu.editor hf, hs'] at hshown1
      rw [hu.kept?_eq, hkept0] at hkept1
      cases hshown0
      cases hshown1
      have hlonger := congrArg String.length hlast
      have hequal := congrArg String.length (Option.some.inj hkept1)
      rw [String.length_append] at hlonger hequal
      dsimp only at hequal
      omega

lemma Trails.play {s : Stroke} (h : Trails erased w) (hrun : s.play.runOn w = (.ok a, u)) :
    Trails (!s.isTaken w && (erased || s.erases w)) u := by
  cases s with
  | text typed =>
    obtain ⟨hret, hkeeps, hsame⟩ := run_enterAll_eq_ok h.isOpen (fun _ hg => hg) hrun
    have hopen := h.isOpen.retypes hret
    rw [isTaken, erases, Bool.or_false]
    cases htaken : w.listeners.any w.takesText with
    | true => exact .of_kept hopen (hkeeps (.inl htaken))
    | false =>
      obtain ⟨hshown, hkept⟩ := hsame htaken
      exact h.congr hopen hret.editor hshown hkept
  | input now =>
    cases hrun
    rw [isTaken, erases, Bool.or_false]
    exact h.congr (h.isOpen.of_eq rfl rfl fun _ => rfl) rfl (fun _ => rfl) fun _ => rfl
  | frame index =>
    rw [isTaken, Bool.not_false, Bool.true_and]
    rw [Stroke.play, run_get_bind] at hrun
    split at hrun
    · rename_i f hf
      exact h.frame hf hrun
    · rename_i hf
      cases hrun
      rw [erases, hf, Option.any_none, Bool.or_false]
      exact h

lemma Trails.playAll (h : Trails erased w)
    (hrun : (strokes.forM Stroke.play).runOn w = (.ok a, u)) :
    Trails (erasedSince strokes w erased) u := by
  induction strokes generalizing w erased with
  | nil =>
    cases hrun
    exact h
  | cons s strokes ih =>
    rw [run_forM_cons] at hrun
    obtain ⟨_, v, hfst, hrest⟩ := run_bind_eq_ok.1 hrun
    have hv := ih (h.play hfst) hrest
    rwa [erasedSince, hfst]

end Stroke

/-- **What the fields show is what is kept exactly if nothing was erased since text was last taken.**
Whatever is typed, pressed and clicked while the fields are open, every argument begins with what its
field shows; what may follow is what the backspace key took away. -/
theorem World.shows_what_is_kept_iff {w u : World} {strokes : List Stroke} (h : w.FormOpen)
    (hw : w.ShowsKept) (hrun : (strokes.forM Stroke.play).runOn w = (.ok (), u)) :
    u.ShowsStart ∧ (u.ShowsKept ↔ Stroke.erasedSince strokes w false = false) := by
  have htrails := (Stroke.Trails.of_kept h hw).playAll hrun
  exact ⟨htrails.start, htrails.kept⟩

namespace World

/-- In the first of the fields of a teleporter the backspace key is pressed. -/
def eraseLetter : List Stroke := [.input { fresh := [.backspace] }, .frame 0]

def gateErased : World := ((eraseLetter.forM Stroke.play).runOn (gateForm 70)).2

def changeLetter : List Stroke := eraseLetter ++ [.text "x"]

def gateChanged : World := ((changeLetter.forM Stroke.play).runOn (gateForm 70)).2

lemma gateErased_facts : ((gateForm 70).FillsForm ∧
      (∀ f ∈ (gateForm 70).editor.fields, (gateForm 70).reaction? f = some .saveArgs) ∧
      (gateForm 70).ShowsKept) ∧ (((eraseLetter.forM Stroke.play).runOn (gateForm 70)).1.isOk ∧
      gateErased.shown? 0 = some (.str "b.ma") ∧ gateErased.kept? 0 = some "b.map") ∧
    ((changeLetter.forM Stroke.play).runOn (gateForm 70)).1.isOk ∧
      gateChanged.shown? 0 = some (.str "b.max") ∧
      Stroke.erasedSince changeLetter (gateForm 70) false = false := by
  decide +kernel

/-- The last letter of where the teleporter leads is changed, and that is kept. -/
theorem shows_what_is_kept_gate :
    gateChanged.shown? 0 = some (.str "b.max") ∧ gateChanged.ShowsKept := by
  obtain ⟨⟨hfills, hfields, hkept⟩, -, hok, hshown, herased⟩ := gateErased_facts
  exact ⟨hshown, (shows_what_is_kept_iff ⟨hfills, hfields⟩ hkept (run_of_isOk hok)).2.2 herased⟩

/-- A letter that is only erased is still kept. -/
theorem shows_less_than_is_kept_gate : ((gateForm 70).FormOpen ∧ (gateForm 70).ShowsKept ∧
      (eraseLetter.forM Stroke.play).runOn (gateForm 70) = (.ok (), gateErased)) ∧
    gateErased.shown? 0 = some (.str "b.ma") ∧ gateErased.kept? 0 = some "b.map" := by
  obtain ⟨⟨hfills, hfields, hkept⟩, ⟨hok, hshown, hstill⟩, -⟩ := gateErased_facts
  exact ⟨⟨⟨hfills, hfields⟩, hkept, run_of_isOk hok⟩, hshown, hstill⟩

end World

end TileQuest
