import TileQuest.Proofs.Chat.Encounters

/-!
# Copies of conversations

Every dialogue whose character has come to its conversation has a copy of it, and whatever is said in
the dialogue is added to the copy, which is then kept as a whole. So what is kept grows as long as
the copy is up to date. Once something was said in another dialogue with the character, what was kept
in between is lost with the next thing that is said (`World.stale_copy_overwrites`).
-/

namespace TileQuest.World

open Game

variable {s s : Shelf} {key : String} {v w : World} {c : Backing} {e : Encounter}

/-! ## What a step leaves -/

lemma tidy_backed (hv : v.Named) (hc : Backing.Serves v s c) : (v.backed c).Tidy := by
  obtain ⟨disk, hholds, hfold⟩ := hc.ready
  have hplace : c.backend = c.chats.place := hholds.place
  have hbacking : (v.backed c).backing = { c with log := v.log ++ c.log } := by
    rw [backing, hplace]
    rfl
  refine ⟨fun i d hd => ?_, fun i a ha => ?_, s, ?_⟩
  · rw [talk?_backed] at hd
    obtain ⟨d', hd', rfl⟩ := Option.map_eq_some_iff.1 hd
    refine ⟨(hv i d' hd').1, fun a ha => ?_⟩
    obtain ⟨b, hb, rfl⟩ := Option.map_eq_some_iff.1 ha
    exact (hv i d' hd').2 b hb
  · rw [side?_backed] at ha
    obtain ⟨b, -, rfl⟩ := Option.map_eq_some_iff.1 ha
    exact hplace
  · rw [hbacking]
    refine ⟨⟨disk, hholds.of_log _, hfold⟩, fun i a ha => ?_⟩
    rw [side?_backed] at ha
    obtain ⟨b, hb, -⟩ := Option.map_eq_some_iff.1 ha
    exact (hc.holds i b hb).of_log _

lemma Tidy.exists_effect (hw : w.Tidy) (he : e.IsNamed) :
    (w.after e).Tidy ∧ ∃ v' s', e.Effect w.hushed w.recalls v' s' ∧
      ∀ name, IsFileName name → (w.after e).recalls name = s' name := by
  obtain ⟨r, v', s', hv', heffect, hrun⟩ := Encounter.does_step he w.hushed w.recalls hw.named_hushed
  obtain ⟨c', hc', -, hstep⟩ := hrun _ (hw.serves rfl fun _ _ => rfl)
  have haft : w.after e = v'.backed c' := by
    rw [after]
    nth_rewrite 1 [hw.eq_backed rfl]
    rw [hstep]
  rw [haft]
  exact ⟨tidy_backed hv' hc', v', s', heffect, fun name hn => recalls_backed hc'.ready hn v'⟩

lemma Tidy.undergo (hw : w.Tidy) {es : List Encounter} (hes : ∀ e ∈ es, e.IsNamed) :
    (w.undergo es).2.Tidy := by
  induction es generalizing w with
  | nil => exact hw
  | cons e es ih =>
    exact ih (hw.exists_effect (hes e (.head _))).1 fun e he =>
      hes e (.tail _ he)

/-! ## What is lost -/

lemma prefix_append_iff {α : Type} {l copy more : List α} (hfew : more.length ≤ 1) :
    l <+: copy ++ more ↔ l <+: copy ∨ l = copy ++ more := by
  match more, hfew with
  | [], _ => simpa using fun h : l = copy => h ▸ List.prefix_refl l
  | [m], _ => exact List.prefix_concat_iff.trans or_comm

lemma prefix_update {history : History} (h : s key <+: history)
    (name : String) : s name <+: Function.update s key history name := by
  by_cases hkey : name = key
  · rw [hkey, Function.update_self]
    exact h
  · rw [Function.update_of_ne hkey]

lemma isPrefix_of_meeting {u v : World} {s' : Shelf}
    (h : Meeting key u s v s') (name : String) : s name <+: s' name := by
  obtain ⟨-, rfl | ⟨more, -, rfl⟩⟩ := h
  · exact List.prefix_refl _
  · exact prefix_update (List.prefix_append _ _) name

/-- **What is kept only grows, up to one condition.**  After any run, let something else happen. No
message that is kept is lost, and the new ones come after the old ones, exactly if this is so: where a
frame of a dialogue that has a copy of a conversation changes what is kept of it, that was the copy or
a beginning of it. -/
theorem kept_extends_iff {w : World} (hw : w.Tidy) (es : List Encounter) (hes : ∀ e ∈ es, e.IsNamed)
    (e : Encounter) (he : e.IsNamed) : (∀ name, IsFileName name →
      (w.undergo es).2.recalls name <+: ((w.undergo es).2.after e).recalls name) ↔
    ∀ id input a, e = .frame id input → (w.undergo es).2.side? id = some a →
      ((w.undergo es).2.after e).recalls a.name ≠ (w.undergo es).2.recalls a.name →
      (w.undergo es).2.recalls a.name <+: a.messages := by
  have hu := hw.undergo hes
  generalize (w.undergo es).2 = u at hu ⊢
  obtain ⟨-, v, s, heffect, hafter⟩ := hu.exists_effect he
  constructor
  · rintro hgrows id input a rfl ha hne
    have hfile : IsFileName a.name := hu.named.side? ha
    have hprefix := hgrows a.name hfile
    rw [hafter a.name hfile] at hprefix hne
    cases heffect with
    | kept sides => exact absurd rfl hne
    | heard b more few copy sides =>
      obtain hb | ⟨hnone, -⟩ := copy
      · cases Option.some.inj (ha.symm.trans hb)
        rw [Function.update_self] at hprefix hne
        exact ((prefix_append_iff few).1 hprefix).resolve_right hne.symm
      · cases ha.symm.trans hnone
  · intro hcurrent name hname
    rw [hafter name hname]
    cases e with
    | meet key user distance => exact isPrefix_of_meeting heffect name
    | visit key lines => exact isPrefix_of_meeting heffect name
    | frame id input =>
      cases heffect with
      | kept sides => exact List.prefix_refl _
      | heard a more few copy sides =>
        refine prefix_update ?_ name
        obtain ha | ⟨-, hcopy⟩ := copy
        · have hkept := hafter a.name (hu.named.side? ha)
          rw [Function.update_self] at hkept
          by_cases hsame : (u.after (.frame id input)).recalls a.name = u.recalls a.name
          · rw [← hsame, hkept]
          · exact (hcurrent id input a rfl ha hsame).trans (List.prefix_append _ _)
        · rw [hcopy]
          exact List.prefix_append _ _

/-- What Nancy hears first adds to what was kept, whoever else is talked to. -/
theorem kept_extends_iff_first_message :
    (newGame .up).Tidy ∧ (∀ e ∈ smallTalk.take 2, e.IsNamed) ∧
    ∀ name, IsFileName name → ((newGame .up).undergo (smallTalk.take 2)).2.recalls name <+:
      (((newGame .up).undergo (smallTalk.take 2)).2.after
        (.frame ⟨6⟩ { fresh := [.enter] })).recalls name := by
  have htidy : (newGame .up).Tidy := tidy_newGame nofun
  have hnamed (e : Encounter) (he : e ∈ smallTalk.take 2) : e.IsNamed :=
    isNamed_of_mem_smallTalk (List.mem_of_mem_take he)
  have hframe : (Encounter.frame ⟨6⟩ { fresh := [.enter] }).IsNamed := trivial
  refine ⟨htidy, hnamed, (kept_extends_iff htidy _ hnamed _ hframe).2 fun id input a he ha => ?_⟩
  cases he
  have hnone : (((newGame .up).undergo (smallTalk.take 2)).2.side? ⟨6⟩).isNone = true := by
    decide +kernel
  rw [ha] at hnone
  cases hnone

/-- **A copy that is behind overwrites what is kept.**  Nancy was met a second time when something
is said in the first dialogue again, and the second greeting is lost. -/
theorem stale_copy_overwrites : (newGame .up).Tidy ∧ (∀ e ∈ smallTalk, e.IsNamed) ∧
    ((newGame .up).undergo (smallTalk.take 5)).2.recalls "Nancy" =
      [⟨.human, .str "Hi, I'm Nancy!"⟩, ⟨.human, .str "a"⟩, ⟨.human, .str "Hi, I'm Nancy!"⟩] ∧
    ((newGame .up).undergo smallTalk).2.recalls "Nancy" =
      [⟨.human, .str "Hi, I'm Nancy!"⟩, ⟨.human, .str "a"⟩, ⟨.human, .str "b"⟩] ∧
    ¬((newGame .up).undergo (smallTalk.take 5)).2.recalls "Nancy" <+:
      ((newGame .up).undergo smallTalk).2.recalls "Nancy" := by
  have hbefore : ((newGame .up).undergo (smallTalk.take 5)).2.recalls "Nancy" =
      [⟨.human, .str "Hi, I'm Nancy!"⟩, ⟨.human, .str "a"⟩, ⟨.human, .str "Hi, I'm Nancy!"⟩] := by
    decide +kernel
  have hafter : ((newGame .up).undergo smallTalk).2.recalls "Nancy" =
      [⟨.human, .str "Hi, I'm Nancy!"⟩, ⟨.human, .str "a"⟩, ⟨.human, .str "b"⟩] := by
    decide +kernel
  refine ⟨tidy_newGame nofun, fun _ => isNamed_of_mem_smallTalk, hbefore, hafter, ?_⟩
  rw [hbefore, hafter]
  decide

end TileQuest.World
