import TileQuest.Proofs.Obeys
import TileQuest.World.Screen

/-!
# How long the text of a field gets

A field has a limit for its text. Text that does not fit is cut, but to a length of its own
(`Game.cutLength`) and not to the limit. So the limit holds, and what was there before stays, for
exactly one limit (`World.TakesText.keeps_limit_iff`).
-/

namespace TileQuest

/-- What is done with a field: text is typed, or the last character is erased. -/
inductive Typing where
  | text (typed : List Char)
  | backspace

namespace Typing

def play (f : PartId) : Typing → Game PUnit
  | text typed => do let _ ← Game.typeInto f (.str (.ofList typed))
  | backspace => Game.eraseLast f

/-- The text of a field with a limit afterwards. -/
def edit (limit : Nat) (cs : List Char) : Typing → List Char
  | text typed =>
    if limit < (cs ++ typed).length then (cs ++ typed).take Game.cutLength else cs ++ typed
  | backspace => cs.dropLast

/-- The text keeps within the limit, and text that does not fit takes nothing away. -/
def Respects (limit : Nat) (cs : List Char) : Prop :=
  cs.length ≤ limit ∧
    ∀ typed, limit < (cs ++ typed).length → cs <+: edit limit cs (text typed)

lemma respects_cutLength {cs : List Char} (hcs : cs.length ≤ Game.cutLength) :
    Respects Game.cutLength cs := by
  refine ⟨hcs, fun typed hlong => ?_⟩
  rw [edit, if_pos hlong, List.take_append]
  exact (List.take_of_length_le hcs).symm ▸ List.prefix_append _ _

lemma length_edit_le {cs : List Char} (hcs : cs.length ≤ Game.cutLength) (t : Typing) :
    (edit Game.cutLength cs t).length ≤ Game.cutLength := by
  cases t with
  | text typed =>
    rw [edit]
    split
    · exact List.length_take_le _ _
    · omega
  | backspace =>
    rw [edit, List.length_dropLast]
    omega

lemma not_respects_of_lt {limit : Nat} (h : limit < Game.cutLength) (cs : List Char) :
    ¬ Respects limit (edit limit cs (text (.replicate Game.cutLength 'a'))) := by
  have hlong : Game.cutLength ≤ (cs ++ List.replicate Game.cutLength 'a').length := by simp
  intro hrespects
  have hlimit := hrespects.1
  rw [edit, if_pos (h.trans_le hlong), List.length_take_of_le hlong] at hlimit
  omega

lemma not_respects_of_gt {limit : Nat} (h : Game.cutLength < limit) {cs : List Char}
    (hcs : cs.length ≤ limit) :
    ¬ Respects limit (edit limit cs (text (.replicate (limit - cs.length) 'a'))) := by
  have hfull : (cs ++ List.replicate (limit - cs.length) 'a').length = limit := by
    rw [List.length_append, List.length_replicate]
    omega
  rw [edit, if_neg hfull.le.not_gt]
  rintro ⟨-, hkeeps⟩
  -- one letter more, and the text is cut
  have hlong : limit < ((cs ++ List.replicate (limit - cs.length) 'a') ++ ['a']).length := by
    rw [List.length_append, hfull]
    exact Nat.lt_succ_self limit
  have hlen := (hkeeps ['a'] hlong).length_le
  rw [edit, if_pos hlong, hfull] at hlen
  have := hlen.trans (List.length_take_le _ _)
  omega

end Typing

namespace World

/-- The part is a text field that listens, with its limit and the text that it shows. -/
def TakesText (w : World) (f : PartId) (limit : Nat) (cs : List Char) : Prop :=
  ∃ o l t, w.parts[f.index]? = some o ∧ o.lost = [] ∧ o.part = .textField l t ∧
    l.text = .str (.ofList cs) ∧ (∃ size : Int, l.size? = some (.ofInt size)) ∧
    t.maxText = .ofInt limit ∧ t.active.isTruthy = true

/-- Whatever is typed and erased, the text of the field keeps within the limit, and text that does not
fit takes nothing away. -/
def KeepsLimit (w : World) (f : PartId) (limit : Nat) : Prop :=
  ∀ ts : List Typing, ∃ u cs, (ts.forM (Typing.play f)).runOn w = (.ok (), u) ∧
    u.TakesText f limit cs ∧ cs.length ≤ limit ∧ ∀ typed, limit < (cs ++ typed).length →
      ∃ v cs', (Game.typeInto f (.str (.ofList typed))).runOn u = (.ok true, v) ∧
        v.TakesText f limit cs' ∧ cs <+: cs'

namespace TakesText

open Game

variable {w : World} {f : PartId} {limit : Nat} {cs : List Char}

lemma modifyLabel (h : w.TakesText f limit cs) (change : Label → Label) {cs' : List Char}
    (hsize : ∀ l, (change l).size? = l.size?)
    (ht : ∀ l, l.text = .str (.ofList cs) → (change l).text = .str (.ofList cs')) :
    ∃ u, (Game.modifyLabel f change).runOn w = (.ok (), u) ∧ u.TakesText f limit cs' := by
  obtain ⟨o, l, t, ho, hlost, hp, hl, ⟨size, hs⟩, hlimit, hact⟩ := h
  refine ⟨_, rfl, { o with part := .textField (change l) t }, change l, t, ?_, hlost, rfl, ht l hl,
    ⟨size, (hsize l).trans hs⟩, hlimit, hact⟩
  rw [Array.getElem?_modify, if_pos rfl, ho, Option.map_some, hp]

lemma setText (h : w.TakesText f limit cs) (cs' : List Char) :
    ∃ u, (Game.setText f (.str (.ofList cs'))).runOn w = (.ok (), u) ∧ u.TakesText f limit cs' := by
  obtain ⟨u, hrun, hu⟩ := h.modifyLabel ({ · with text := .str (.ofList cs') })
    (fun _ => rfl) fun _ _ => rfl
  obtain ⟨o, -, -, ho, hlost, -⟩ := h
  obtain ⟨o', l, t, ho', hlost', hp, hl, ⟨size, hs⟩, -⟩ := id hu
  have hlabel : (label f).runOn u = (.ok l, u) := by
    rw [label, bind_ok (run_part ho'), hp]
    rfl
  obtain ⟨image, hrend⟩ : ∃ image, (renderText (.str (.ofList cs')) l.size?).runOn u = (.ok image, u) := by
    rw [hs]
    exact ⟨_, rfl⟩
  obtain ⟨v, hrun', o'', l', t', ho'', hlost'', hrest⟩ := hu.modifyLabel ({ · with image })
    (fun _ => rfl) fun _ ht => ht
  refine ⟨((regain f .shadow).runOn v).2, ?_, { o'' with lost := o''.lost.filter (· ≠ .shadow) }, l', t', ?_, ?_, hrest⟩
  · rw [Game.setText, bind_ok (run_requires ho hlost _), bind_ok hrun,
      bind_ok hlabel, bind_ok hrend, bind_ok hrun']
    rfl
  · change (v.parts.modify f.index _)[f.index]? = _
    rw [Array.getElem?_modify, if_pos rfl, ho'', Option.map_some]
  · rw [hlost'']
    rfl

lemma eraseLast (h : w.TakesText f limit cs) :
    ∃ u, (Game.eraseLast f).runOn w = (.ok (), u) ∧ u.TakesText f limit cs.dropLast := by
  obtain ⟨u, hrun, hu⟩ := h.setText cs.dropLast
  obtain ⟨o, l, t, ho, -, hp, hl, -⟩ := h
  refine ⟨u, ?_, hu⟩
  have hlabel : (label f).runOn w = (.ok l, w) := by
    rw [label, bind_ok (run_part ho), hp]
    rfl
  have hdrop : l.text.dropLast = .ok (.str (.ofList cs.dropLast)) := by
    rw [hl, Json.dropLast, Json.recut, String.toList_ofList]
  rw [Game.eraseLast, bind_ok hlabel, run_lift_bind hdrop, hrun]

lemma typeInto (h : w.TakesText f limit cs) (typed : List Char) :
    ∃ u, (Game.typeInto f (.str (.ofList typed))).runOn w = (.ok true, u) ∧
      u.TakesText f limit (Typing.edit limit cs (.text typed)) := by
  obtain ⟨u, hrun, hu⟩ := h.modifyLabel
    ({ · with text := .str (.ofList (cs ++ typed)) }) (fun _ => rfl) fun _ _ => rfl
  obtain ⟨v, hrun', hv⟩ := hu.modifyLabel
    ({ · with text := .str (.ofList (Typing.edit limit cs (.text typed))) })
    (fun _ => rfl) fun _ _ => rfl
  obtain ⟨v', hset, hv'⟩ := hv.setText (Typing.edit limit cs (.text typed))
  obtain ⟨o, l, t, ho, hlost, hp, hl, -, hlimit, hact⟩ := h
  refine ⟨v', ?_, hv'⟩
  have hextend : l.text.extended (.str (.ofList typed)) = .ok (.str (.ofList (cs ++ typed))) := by
    rw [hl, String.ofList_append]
    rfl
  have hlen : (Json.str (.ofList (cs ++ typed))).length = .ok (cs ++ typed).length := by
    rw [Json.length, Json.listed, ok_bind, Json.characters, List.length_map, String.toList_ofList]
    rfl
  have hless : t.maxText.less (.ofInt (cs ++ typed).length) =
      .ok (decide (limit < (cs ++ typed).length)) := by
    rw [hlimit]
    exact congrArg Except.ok (decide_eq_decide.2 Int.ofNat_lt)
  have hcut : (Json.str (.ofList (cs ++ typed))).take cutLength =
      .ok (.str (.ofList ((cs ++ typed).take cutLength))) := by
    rw [Json.take, Json.recut, String.toList_ofList]
  rw [Game.typeInto, bind_ok (run_requires ho hlost _), bind_ok (run_part ho), hp]
  dsimp only
  rw [hact, if_neg (by decide), run_lift_bind hextend, bind_ok hrun,
    run_lift_bind hlen, run_lift_bind hless]
  rw [Typing.edit] at hrun' hset
  by_cases hlong : limit < (cs ++ typed).length
  · rw [if_pos hlong] at hrun' hset
    rw [decide_eq_true hlong, if_pos rfl, run_lift_bind hcut, bind_ok hrun', bind_ok hset]
    rfl
  · rw [if_neg hlong] at hrun' hset
    rw [decide_eq_false hlong, if_neg (by simp), pure_bind, bind_ok hrun',
      bind_ok hset]
    rfl

lemma play (h : w.TakesText f limit cs) (t : Typing) :
    ∃ u, (t.play f).runOn w = (.ok (), u) ∧ u.TakesText f limit (t.edit limit cs) := by
  cases t with
  | text typed =>
    obtain ⟨u, hrun, hu⟩ := h.typeInto typed
    exact ⟨u, by rw [Typing.play, bind_ok hrun]; rfl, hu⟩
  | backspace => exact h.eraseLast

lemma playAll (h : w.TakesText f limit cs) (ts : List Typing) :
    ∃ u, (ts.forM (Typing.play f)).runOn w = (.ok (), u) ∧
      u.TakesText f limit (ts.foldl (Typing.edit limit) cs) := by
  induction ts generalizing w cs with
  | nil => exact ⟨w, rfl, h⟩
  | cons t ts ih =>
    obtain ⟨v, hrun, hv⟩ := h.play t
    obtain ⟨u, hrest, hu⟩ := ih hv
    exact ⟨u, by rw [run_forM_cons, bind_ok hrun, hrest], hu⟩

lemma text_unique {ds : List Char} (h : w.TakesText f limit cs) (h' : w.TakesText f limit ds) :
    cs = ds := by
  obtain ⟨o, l, t, ho, -, hp, hl, -⟩ := h
  obtain ⟨o', l', t', ho', -, hp', hl', -⟩ := h'
  cases ho.symm.trans ho'
  cases hp.symm.trans hp'
  exact String.ofList_injective (Json.str.inj (hl.symm.trans hl'))

/-- A field keeps its limit exactly if the limit is the length to which texts are cut. -/
theorem keeps_limit_iff (h : w.TakesText f limit cs) (hcs : cs.length ≤ limit) :
    w.KeepsLimit f limit ↔ limit = cutLength := by
  constructor
  · intro hall
    have hrespects (ts : List Typing) : Typing.Respects limit (ts.foldl (Typing.edit limit) cs) := by
      obtain ⟨u, cs', hrun, hu, hlength, htyped⟩ := hall ts
      obtain ⟨u', hrun', hu'⟩ := h.playAll ts
      cases hrun.symm.trans hrun'
      cases hu.text_unique hu'
      refine ⟨hlength, fun typed hlong => ?_⟩
      obtain ⟨v, cs'', htype, hv, hkeeps⟩ := htyped typed hlong
      obtain ⟨v', htype', hv'⟩ := hu.typeInto typed
      cases htype.symm.trans htype'
      exact hv.text_unique hv' ▸ hkeeps
    rcases Nat.lt_trichotomy limit cutLength with hlt | heq | hgt
    · exact (Typing.not_respects_of_lt hlt cs (hrespects [.text _])).elim
    · exact heq
    · exact (Typing.not_respects_of_gt hgt hcs (hrespects [.text _])).elim
  · rintro rfl ts
    have hlength : (ts.foldl (Typing.edit cutLength) cs).length ≤ cutLength :=
      List.foldlRecOn (motive := fun ds : List Char => ds.length ≤ cutLength) ts _ hcs
        fun _ hds t _ => Typing.length_edit_le hds t
    obtain ⟨u, hrun, hu⟩ := h.playAll ts
    refine ⟨u, _, hrun, hu, hlength, fun typed hlong => ?_⟩
    obtain ⟨v, htype, hv⟩ := hu.typeInto typed
    exact ⟨v, _, htype, hv, (Typing.respects_cutLength hlength).2 typed hlong⟩

end TakesText

def openField (limit : Nat) : World :=
  let label : Label := { size? := some 32, text := .str "", image := default }
  { parts := #[{ part := .textField label { maxText := .ofInt limit, active := .bool true } }] }

lemma takesText_openField (limit : Nat) : (openField limit).TakesText ⟨0⟩ limit [] :=
  ⟨_, _, _, rfl, rfl, rfl, rfl, ⟨32, rfl⟩, rfl, rfl⟩

theorem keeps_limit_iff_thirty :
    (openField 30).TakesText ⟨0⟩ 30 [] ∧ ¬ (openField 30).KeepsLimit ⟨0⟩ 30 :=
  ⟨takesText_openField 30, fun h => by
    cases ((takesText_openField 30).keeps_limit_iff (by decide)).1 h⟩

/-- With a limit of one, two letters are typed and shown. -/
theorem openField_exceeds_limit :
    ∃ u, (Game.typeInto ⟨0⟩ (.str (.ofList ['a', 'b']))).runOn (openField 1) = (.ok true, u) ∧
      u.TakesText ⟨0⟩ 1 ['a', 'b'] ∧ ¬ ['a', 'b'].length ≤ 1 := by
  obtain ⟨u, hrun, hu⟩ := (takesText_openField 1).typeInto ['a', 'b']
  exact ⟨u, hrun, hu, by decide⟩

end World

end TileQuest
