import TileQuest.Proofs.Items.Giving
import TileQuest.Proofs.Talk.Walk

/-!
# The box of a dialogue

A dialogue is open while it acts and its box is on the screen (`World.Boxed`). Then it can be
closed (`Game.run_closeDialogue`), and none of what it does otherwise takes its box away: neither
what is said, nor what is given to the player, whose window shows other things. A dialogue whose
walk rests shows the line that it comes to, or carries it out, or closes at the end of its script
(`Game.exists_nextLine`).
-/

namespace TileQuest

variable {w u : World} {id q : PartId} {d d' : Dialogue} {bag : Bag} {items items' : List PartId}
variable {α : Type}

lemma Part.gist_unworded (p : Part) : p.unworded.gist = p.gist := by
  cases p <;> rfl

namespace World

def IsTag (w : World) (q : PartId) : Prop :=
  ∃ o, w.parts[q.index]? = some o ∧ o.lost = [] ∧ o.part.gist.isShown = true

lemma IsTag.lt (h : w.IsTag q) : q.index < w.parts.size := by
  obtain ⟨o, ho, -⟩ := h
  exact lt_of_getElem? ho

lemma IsTag.ne_of_talk (h : w.IsTag q) (hd : w.talk? id = some d) : q ≠ id := by
  rintro rfl
  obtain ⟨o, ho, -, hshn⟩ := h
  obtain ⟨o', ho', hd⟩ := talk?_eq_some.1 hd
  cases ho.symm.trans ho'
  rw [hd] at hshn
  cases hshn

lemma IsTag.of_told (h : w.IsTag q) (hq : q ≠ id) (htold : Told id w u) : u.IsTag q := by
  obtain ⟨o, ho, hlost, hshn⟩ := h
  obtain ⟨o', ho', hunw, hlost'⟩ := htold.exists_part hq ho
  refine ⟨o', ho', List.subset_nil.1 (hlost ▸ hlost'), ?_⟩
  rw [← Part.gist_unworded, hunw, Part.gist_unworded, hshn]

/-- The dialogue acts and its box is on the screen, apart from what the inventory shows. -/
structure Boxed (w : World) (id : PartId) (d : Dialogue) (items : List PartId) : Prop where
  active : w.active.count id = 1
  up : ∀ q ∈ d.shown, q ∈ w.overlay
  tag : ∀ q ∈ d.shown, w.IsTag q
  apart : ∀ q ∈ d.shown, q ∉ items

lemma Dialogue.shown_of_fixed (h : d'.fixed = d.fixed) : d'.shown = d.shown := by
  simp only [Dialogue.fixed, Prod.mk.injEq] at h
  obtain ⟨-, -, hbg, hspk, hcont, hhelp, hbox, hl⟩ := h
  simp only [Dialogue.shown, hbg, hspk, hcont, hhelp, hbox, hl]

lemma Boxed.of_told (h : w.Boxed id d items) (hd : w.talk? id = some d) (htold : Told id w u)
    (hfix : d'.fixed = d.fixed) : u.Boxed id d' items := by
  have hact : u.active = w.active := htold.field_eq World.active fun _ => rfl
  have hlay : u.overlay = w.overlay := htold.field_eq World.overlay fun _ => rfl
  have hshn := Dialogue.shown_of_fixed hfix
  exact
    { active := hact ▸ h.active
      up := fun q hq => hlay ▸ h.up q (hshn ▸ hq)
      tag := fun q hq => have htag := h.tag q (hshn ▸ hq)
        htag.of_told (htag.ne_of_talk hd) htold
      apart := fun q hq => h.apart q (hshn ▸ hq) }

lemma Viewed.ne_of_talk {v : PartId} (h : w.Viewed v items) (hd : w.talk? id = some d) :
    v ≠ id := by
  rintro rfl
  obtain ⟨o, view, ho, hv, -⟩ := h.part
  obtain ⟨o', ho', hd⟩ := talk?_eq_some.1 hd
  cases ho.symm.trans ho'
  cases hv.symm.trans hd

lemma Stocked.of_told (h : w.Stocked bag items) (hd : w.talk? id = some d) (htold : Told id w u) :
    u.Stocked bag items where
  holds := (htold.field_eq (·.bags[0]?) fun _ => rfl).trans h.holds
  counted := h.counted
  legible := by
    have hfonts : u.fonts = w.fonts := htold.field_eq World.fonts fun _ => rfl
    rw [Legible, hfonts]
    exact h.legible
  viewed v hv := by
    obtain ⟨o, view, ho, hview, hlost, hits, hprop⟩ := (h.viewed v hv).part
    obtain ⟨o', ho', hp, hlost'⟩ :=
      htold.part_eq ((h.viewed v hv).ne_of_talk hd) ho (by rw [hview]; rfl)
    have hlay : u.overlay = w.overlay := htold.field_eq World.overlay fun _ => rfl
    exact ⟨⟨o', view, ho', hp.trans hview, List.subset_nil.1 (hlost ▸ hlost'), hits, hprop⟩,
      (h.viewed v hv).nodup, fun q hq => hlay ▸ (h.viewed v hv).listed q hq⟩

/-! ## Gifts -/

section Supplied

variable (hstocked : w.Stocked bag items) (h : Supplied bag.viewer? items w u)

include hstocked h

lemma Supplied.part_eq {o : Owned} (ho : w.parts[q.index]? = some o)
    (hview : ∀ view, o.part ≠ .inventoryView view) : u.parts[q.index]? = some o := by
  refine (h.parts q (lt_of_getElem? ho) fun hv => ?_).trans ho
  obtain ⟨o', view, ho', hp, -⟩ := (hstocked.viewed q hv).part
  cases ho.symm.trans ho'
  exact hview view hp

lemma Supplied.talk?_eq (hd : w.talk? id = some d) : u.talk? id = some d := by
  obtain ⟨o, ho, hp⟩ := talk?_eq_some.1 hd
  exact talk?_eq_some.2 ⟨o, h.part_eq hstocked ho (by rw [hp]; nofun), hp⟩

lemma Voiced.of_supplied (hvoice : w.Voiced id d) : u.Voiced id d where
  talk := h.talk?_eq hstocked hvoice.talk
  name := hvoice.name
  distinct := hvoice.distinct
  speaks q hq := by
    obtain ⟨o, l, ho, hlost, hp, hsize⟩ := hvoice.speaks q hq
    exact ⟨o, l, h.part_eq hstocked ho (by rw [hp]; nofun), hlost, hp, hsize⟩
  typing := hvoice.typing

lemma Boxed.of_supplied (hboxed : w.Boxed id d items)
    (hits : ∀ q ∈ items', q ∈ items ∨ w.parts.size ≤ q.index) : u.Boxed id d items' where
  active := (h.field_eq (·.active.count id) fun _ => rfl).trans hboxed.active
  up q hq := h.overlay q (hboxed.up q hq) (hboxed.tag q hq).lt (hboxed.apart q hq)
  tag q hq := by
    obtain ⟨o, ho, hlost, hshn⟩ := hboxed.tag q hq
    refine ⟨o, h.part_eq hstocked ho fun view hp => ?_, hlost, hshn⟩
    rw [hp] at hshn
    cases hshn
  apart q hq hmem := (hits q hmem).elim (hboxed.apart q hq) fun hle =>
    hle.not_gt (hboxed.tag q hq).lt

end Supplied

/-! ## Closing -/

def shut (w : World) (id : PartId) (d : Dialogue) : World :=
  { w with
    dialogue? := if d.style = .typed then none else w.dialogue?
    active := w.active.erase id
    overlay := d.shown.foldl List.erase w.overlay }

lemma Stocked.shut (h : w.Stocked bag items) (hboxed : w.Boxed id d items) :
    (w.shut id d).Stocked bag items where
  holds := h.holds
  counted := h.counted
  legible := h.legible
  viewed v hv := ⟨(h.viewed v hv).part, (h.viewed v hv).nodup, fun q hq =>
    mem_foldl_erase ((h.viewed v hv).listed q hq) fun hmem => hboxed.apart q hmem hq⟩

lemma Voiced.shut (h : w.Voiced id d) : (w.shut id d).Voiced id d :=
  ⟨h.talk, h.name, h.distinct, h.speaks, h.typing⟩

lemma notMem_active_shut (h : w.active.count id = 1) : id ∉ (w.shut id d).active := by
  have hcnt : (w.shut id d).active.count id = 0 := by
    change (w.active.erase id).count id = 0
    rw [List.count_erase_self, h]
  exact List.count_eq_zero.1 hcnt

end World

namespace Game

open World

lemma run_breakDown_tag (h : w.IsTag q) (hq : q ∈ w.overlay) :
    (breakDown q).runOn w = (.ok (), { w with overlay := w.overlay.erase q }) := by
  obtain ⟨o, ho, hlost, hshn⟩ := h
  have hpl : o.part.isPlayer = false := by
    cases hp : o.part with
    | player => rw [hp] at hshn; cases hshn
    | _ => rfl
  have hg : w.gist? q = some o.part.gist := gist?_eq_some.2 ⟨o, ho, rfl⟩
  rw [run_breakDown ho hlost, run_breakDownFully ho hpl,
    run_breakDownPlain_shown hg hshn hq]

lemma run_breakDownAll {qs : List PartId} (htag : ∀ q ∈ qs, w.IsTag q)
    (hup : ∀ q ∈ qs, q ∈ w.overlay) (hnd : qs.Nodup) :
    (qs.forM breakDown).runOn w = (.ok ⟨⟩, { w with overlay := qs.foldl List.erase w.overlay }) := by
  induction qs generalizing w with
  | nil => rfl
  | cons q qs ih =>
    obtain ⟨hnot, hnd⟩ := List.nodup_cons.1 hnd
    rw [run_forM_cons, bind_ok
      (run_breakDown_tag (htag q (.head _)) (hup q (.head _)))]
    refine ih (fun q' hq' => htag q' (.tail _ hq')) (fun q' hq' => ?_) hnd
    have hne : q' ≠ q := fun heq => hnot (heq ▸ hq')
    exact (List.mem_erase_of_ne hne).2 (hup q' (.tail _ hq'))

lemma run_closeDialogue (h : w.Voiced id d) (hboxed : w.Boxed id d items) :
    (closeDialogue id).runOn w = (.ok (), w.shut id d) := by
  have hmem : id ∈ w.active := List.count_pos_iff.1 (by rw [hboxed.active]; exact Nat.one_pos)
  have hrest (u : World) (hps : u.parts = w.parts) (hact : u.active = w.active)
      (hlay : u.overlay = w.overlay) : (do deactivate id; d.shown.forM breakDown).runOn u =
        (.ok ⟨⟩, { u with
          active := u.active.erase id, overlay := d.shown.foldl List.erase u.overlay }) := by
    rw [bind_ok (run_deactivate (hact ▸ hmem))]
    refine run_breakDownAll (w := { u with active := u.active.erase id }) (fun q hq => ?_)
      (fun q hq => hlay ▸ hboxed.up q hq) h.distinct
    rw [IsTag, hps]
    exact hboxed.tag q hq
  rw [closeDialogue, bind_ok (run_dialogue h.talk), shut]
  by_cases hs : d.style = .typed
  · rw [if_pos hs, if_pos hs, run_modify_bind]
    exact hrest { w with dialogue? := none } rfl rfl rfl
  · rw [if_neg hs, if_neg hs]
    exact hrest w rfl rfl rfl

lemma run_closeDialogue_of_notMem (hd : w.talk? id = some d) (h : id ∉ w.active) :
    (closeDialogue id).runOn w = (.error .notListed,
      { w with dialogue? := if d.style = .typed then none else w.dialogue? }) := by
  have hstop (u : World) (hu : id ∉ u.active) :
      (do deactivate id; d.shown.forM breakDown).runOn u = (.error .notListed, u) := by
    have hrun : (deactivate id).runOn u = (.error .notListed, u) := by
      rw [deactivate, run_get_bind, erase, if_neg hu]
      rfl
    rw [run_bind, hrun]
  rw [closeDialogue, bind_ok (run_dialogue hd)]
  by_cases hs : d.style = .typed
  · rw [if_pos hs, if_pos hs, run_modify_bind]
    exact hstop { w with dialogue? := none } h
  · rw [if_neg hs, if_neg hs]
    exact hstop w h

end Game

/-! ## What comes of a line -/

namespace World

/-- What a world is besides what dialogues change in it as they open and go on. -/
def offstage (w : World) : World :=
  { w.unstocked with
    drawing := [], random := [], log := [], active := [], dialogue? := none, steppedDialogue? := none }

lemma offstage_of_told {id : PartId} (h : Told id w u) : u.offstage = w.offstage :=
  h.field_eq offstage fun _ => rfl

lemma offstage_of_supplied {viewer? : Option PartId} {items : List PartId}
    (h : Supplied viewer? items w u) : u.offstage = w.offstage :=
  h.field_eq offstage fun _ => rfl

lemma eq_of_offstage (h : u.offstage = w.offstage) (f : World → α)
    (hf : ∀ x : World, f x.offstage = f x) : f u = f w := by
  rw [← hf u, h, hf w]

/-- A dialogue can speak, and either it is open or it has stopped acting. The player can be given
things. -/
structure InTalk (w : World) (id : PartId) (d : Dialogue) (bag : Bag) : Prop where
  voiced : w.Voiced id d
  stocked : ∃ items, w.Stocked bag items ∧ (w.Boxed id d items ∨ id ∉ w.active)

section

variable (h : w.InTalk id d bag)
include h

lemma InTalk.inventory_eq : w.bags[0]?.map Bag.inventory = some bag.inventory := by
  obtain ⟨items, hstocked, -⟩ := h.stocked
  rw [hstocked.holds]
  rfl

lemma InTalk.of_told (htold : Told id w u) (hd : u.talk? id = some d')
    (hfix : d'.fixed = d.fixed) : u.InTalk id d' bag := by
  obtain ⟨items, hstocked, hup⟩ := h.stocked
  have hact : u.active = w.active := htold.field_eq World.active fun _ => rfl
  refine ⟨h.voiced.of_told htold hd hfix, items, hstocked.of_told h.voiced.talk htold, ?_⟩
  rw [hact]
  exact hup.imp_left fun hboxed => hboxed.of_told h.voiced.talk htold hfix

lemma InTalk.withTalk {f : Dialogue → Dialogue}
    (hf : (f d).fixed = d.fixed) : (w.withTalk id f).InTalk id (f d) bag :=
  h.of_told (told_withTalk w id f) (talk?_withTalk_self h.voiced.talk f) hf

lemma InTalk.congr (hps : u.parts = w.parts) (hbags : u.bags = w.bags)
    (hfonts : u.fonts = w.fonts) (hlay : u.overlay = w.overlay) (hact : u.active = w.active) :
    u.InTalk id d bag := by
  obtain ⟨items, hstocked, hup⟩ := h.stocked
  obtain ⟨htalk, hn, hdist, hspk, htyp⟩ := h.voiced
  refine ⟨⟨?_, hn, hdist, ?_, htyp⟩, items, ⟨?_, hstocked.counted, ?_, fun v hv => ?_⟩, ?_⟩
  · rwa [talk?, hps]
  · simpa only [Speaks, hps] using hspk
  · rw [hbags, hstocked.holds]
  · rw [Legible, hfonts]
    exact hstocked.legible
  · obtain ⟨hp, hnd, hlist⟩ := hstocked.viewed v hv
    exact ⟨by rwa [hps], hnd, fun q hq => hlay ▸ hlist q hq⟩
  · rw [hact]
    refine hup.imp_left ?_
    rintro ⟨hcnt, hshn, htag, hapart⟩
    refine ⟨?_, ?_, ?_, hapart⟩
    · rw [hact, hcnt]
    · rwa [hlay]
    · simpa only [IsTag, hps] using htag

lemma InTalk.walked (s : Int × List Int) : (w.walked id s).InTalk id { d with line := s.1 } bag :=
  (h.withTalk (f := ({ · with line := s.1 })) rfl).congr rfl rfl rfl rfl rfl

end

end World

namespace Line

/-- What is heard of a line that is no command: without its mark, if the character does not say
it. -/
def spoken (s : String) : String :=
  if s.toList.head? = some '-' ∨ s.toList.head? = some '$' then String.ofList (s.toList.drop 1) else s

/-- How a dialogue stands after a line: only the character waits for an answer. -/
def leaves (s : String) (d : Dialogue) : Dialogue :=
  if s.toList.head? = some '!' then d
  else if s.toList.head? = some '-' ∨ s.toList.head? = some '$' then d.telling
  else d.asking

/-- What the player carries after a line. -/
def gift (s : String) (inventory : Inventory) : Inventory :=
  if s.toList.head? = some '!' then
    match Command.ofLine s with
    | .ok (.give t n) => (inventory.add t (.ofInt n)).inventory
    | _ => inventory
  else inventory

lemma fixed_leaves (s : String) (d : Dialogue) : (leaves s d).fixed = d.fixed := by
  rw [leaves]
  split
  · rfl
  · split
    · exact d.fixed_telling
    · exact d.fixed_asking

lemma leaves_eq (s : String) (d : Dialogue) : ∃ isWaiting isTyping typed,
    leaves s d = { d with isWaiting, isTyping, typed } := by
  rw [leaves, Dialogue.telling, Dialogue.asking]
  repeat' split
  all_goals exact ⟨_, _, _, rfl⟩

lemma leaves_of_stepped (s : String) {d : Dialogue} (h : d.style = .stepped) : leaves s d = d := by
  have hne : d.style ≠ .typed := by rw [h]; nofun
  rw [leaves, Dialogue.telling, Dialogue.asking, if_neg hne, if_neg hne, ite_self, ite_self]

end Line

namespace Game

open World Dialogue

variable {s : String} {t : ItemType} {position : Int} {draws : List Int}

lemma exists_speech (h : w.Voiced id d) (hne : s ≠ "")
    (hm : s.toList.head? ≠ some '!') (next : Game Unit) :
    ∃ u, (actAt next id (.str s)).runOn w = (.ok (), u) ∧ u.Voiced id (Line.leaves s d) ∧
      Told id w u ∧ u.words? d.content = some (.str (Line.spoken s)) := by
  obtain ⟨n, hlen⟩ := length_str_ne_zero hne
  have hmark? : Line.mark? (.str s) = .ok s.toList.head? := rfl
  have hcont (d' : Dialogue) (hd' : d'.fixed = d.fixed) : d'.content = d.content := by
    simp only [Dialogue.fixed, Prod.mk.injEq] at hd'
    exact hd'.2.2.2.2.1
  rw [actAt, run_lift_bind hlen, if_neg (Nat.succ_ne_zero n), run_lift_bind hmark?, Line.spoken,
    Line.leaves, if_neg hm]
  by_cases hmin : s.toList.head? = some '-'
  · obtain ⟨u, hrun, hheard⟩ := exists_playerSpeaks h s
    rw [hmin, if_pos (.inl rfl), if_pos (.inl rfl)]
    refine ⟨u, hrun, hheard.voiced, hheard.told, ?_⟩
    rw [← hcont _ d.fixed_telling, hheard.content]
    rfl
  by_cases hdollar : s.toList.head? = some '$'
  · obtain ⟨u, hrun, hheard⟩ := exists_narrate h s
    rw [hdollar, if_pos (.inr rfl), if_pos (.inr rfl)]
    refine ⟨u, hrun, hheard.voiced, hheard.told, ?_⟩
    rw [← hcont _ d.fixed_telling, hheard.content]
    rfl
  · obtain ⟨u, hrun, hheard⟩ := exists_npcSpeaks h s
    rw [if_neg (not_or.2 ⟨hmin, hdollar⟩), if_neg (not_or.2 ⟨hmin, hdollar⟩)]
    refine ⟨u, ?_, hheard.voiced, hheard.told, ?_⟩
    · split
      · exact absurd ‹_› hmin
      · exact absurd ‹_› hm
      · exact absurd ‹_› hdollar
      · exact hrun
    · rw [← hcont _ d.fixed_asking, hheard.content]

lemma exists_giveItems (h : w.InTalk id d bag) (ht : t ∈ ItemType.all) (n : Int) :
    ∃ u, (giveItems id t n).runOn w = (.ok (), u) ∧ u.offstage = w.offstage ∧
      u.active = w.active ∧ u.random = w.random ∧
      u.InTalk id d { bag with inventory := (bag.inventory.add t (.ofInt n)).inventory } := by
  obtain ⟨items, hstocked, hup⟩ := h.stocked
  obtain ⟨left, u1, items', hgive, hstocked1, hsup, hnew⟩ := exists_give hstocked ht n
  have hvoiced1 : u1.Voiced id d := h.voiced.of_supplied hstocked hsup
  have hactive1 : u1.active = w.active := hsup.field_eq World.active fun _ => rfl
  have htalk1 : u1.InTalk id d { bag with inventory := (bag.inventory.add t (.ofInt n)).inventory } :=
    ⟨hvoiced1, items', hstocked1, hup.imp (·.of_supplied hstocked hsup hnew) (hactive1 ▸ ·)⟩
  let amount : Json := .ofInt (n - left)
  have hmin : Json.minus (.ofInt n) (.ofInt left) = .ok amount := rfl
  obtain ⟨u2, hrun2, hvoiced2, htold2, -⟩ :=
    exists_tell hvoiced1 (q := d.speaker) (by simp [Dialogue.labels]) ""
  obtain ⟨u3, hrun3, hvoiced3, htold3, -⟩ :=
    exists_tell hvoiced2 (q := d.content) (by simp [Dialogue.labels])
      (if amount.equal 0 then "Your inventory is full"
      else "You receive " ++ amount.shown ++ " " ++ t.name.shown)
  have htold := htold2.trans htold3
  refine ⟨u3, ?_, ?_, ?_, ?_, htalk1.of_told htold hvoiced3.talk rfl⟩
  · rw [giveItems, bind_ok hgive, run_lift_bind hmin, bind_ok (run_dialogue hvoiced1.talk)]
    change (setText d.speaker (.str "") >>= _).runOn u1 = _
    rw [bind_ok hrun2]
    exact hrun3
  · exact (offstage_of_told htold).trans (offstage_of_supplied hsup)
  · exact (htold.field_eq World.active fun _ => rfl).trans hactive1
  · exact (htold.field_eq World.random fun _ => rfl).trans (hsup.field_eq World.random fun _ => rfl)

lemma mem_all_of_ofLine {n : Int}
    (h : Command.ofLine s = .ok (.give t n)) : t ∈ ItemType.all := by
  rw [Command.ofLine] at h
  obtain ⟨word, -, h⟩ := bind_eq_ok.1 h
  dsimp only at h
  split at h
  · obtain ⟨first, -, h⟩ := bind_eq_ok.1 h
    obtain ⟨k, -, h⟩ := bind_eq_ok.1 h
    obtain ⟨item, hi, h⟩ := bind_eq_ok.1 h
    obtain ⟨second, -, h⟩ := bind_eq_ok.1 h
    obtain ⟨amount, -, h⟩ := bind_eq_ok.1 h
    cases h
    rw [entry] at hi
    split at hi
    · rename_i found he
      cases hi
      obtain ⟨j, -, hj⟩ := Option.bind_eq_some_iff.1 he
      exact List.mem_of_getElem? hj
    · cases hi
  · split at h
    · obtain ⟨first, -, h⟩ := bind_eq_ok.1 h
      obtain ⟨k, -, h⟩ := bind_eq_ok.1 h
      cases h
    · split at h
      · cases h
      · split at h
        · obtain ⟨targets, -, h⟩ := bind_eq_ok.1 h
          cases h
        · cases h

lemma exists_closeDialogue (h : w.InTalk id d bag) :
    ∃ r u, (closeDialogue id).runOn w = (r, u) ∧ r ≠ .error .endless ∧
      (id ∈ w.active → r = .ok ()) ∧ id ∉ u.active ∧ u.offstage = w.offstage ∧
      u.random = w.random ∧ u.InTalk id d bag := by
  obtain ⟨items, hstocked, hboxed | hnot⟩ := h.stocked
  · have hclose := notMem_active_shut (d := d) hboxed.active
    exact ⟨.ok (), w.shut id d, run_closeDialogue h.voiced hboxed, nofun, fun _ => rfl, hclose, rfl,
      rfl, h.voiced.shut, items, hstocked.shut hboxed, .inr hclose⟩
  · exact ⟨_, _, run_closeDialogue_of_notMem h.voiced.talk hnot, nofun, fun hmem => absurd hmem hnot,
      hnot, rfl, rfl, h.congr rfl rfl rfl rfl rfl⟩

/-! ### Commands -/

lemma bind_ne_endless {β : Type} {x : Except Fault α} {f : α → Except Fault β}
    (hx : x ≠ .error .endless) (hf : ∀ a, f a ≠ .error .endless) : (x >>= f) ≠ .error .endless := by
  cases x with
  | error fault => exact fun h => hx (by cases h; rfl)
  | ok a => exact hf a

lemma entry_ne_endless (xs : List α) (i : Int) : entry xs i ≠ .error .endless := by
  rw [entry]
  split <;> simp

lemma parseInt_ne_endless (s : String) : Text.parseInt s ≠ .error .endless := by
  rw [Text.parseInt]
  split <;> simp

lemma mapM_parseInt_ne_endless (words : List String) :
    words.mapM Text.parseInt ≠ .error .endless := by
  rw [← List.mapM'_eq_mapM]
  induction words with
  | nil => nofun
  | cons word words ih =>
    rw [List.mapM'_cons]
    exact bind_ne_endless (parseInt_ne_endless word) fun _ => bind_ne_endless ih fun _ => nofun

lemma ofLine_ne_endless (s : String) : Command.ofLine s ≠ .error .endless := by
  rw [Command.ofLine]
  refine bind_ne_endless (entry_ne_endless _ _) fun word => ?_
  dsimp only
  split
  · exact bind_ne_endless (entry_ne_endless _ _) fun _ => bind_ne_endless (parseInt_ne_endless _) fun _ =>
      bind_ne_endless (entry_ne_endless _ _) fun _ => bind_ne_endless (entry_ne_endless _ _) fun _ =>
      bind_ne_endless (parseInt_ne_endless _) fun _ => nofun
  · split
    · exact bind_ne_endless (entry_ne_endless _ _) fun _ =>
        bind_ne_endless (parseInt_ne_endless _) fun _ => nofun
    · split
      · nofun
      · split
        · exact bind_ne_endless (mapM_parseInt_ne_endless _) fun _ => nofun
        · nofun

/-- What comes of a line of a script that does not lead on. -/
structure Acted (id : PartId) (w u : World) (d : Dialogue) (bag : Bag) (s : String)
    (r : Except Fault Unit) : Prop where
  talk : u.InTalk id (Line.leaves s d) { bag with inventory := Line.gift s bag.inventory }
  same : u.offstage = w.offstage
  random : u.random = w.random
  active : id ∈ u.active → id ∈ w.active
  ends : r ≠ .error .endless
  heard : s.toList.head? ≠ some '!' → r = .ok () ∧ u.active = w.active ∧
    u.words? d.content = some (.str (Line.spoken s))
  done : ∀ c, Command.ofLine s = .ok c → c ≠ .random [] → id ∈ w.active → r = .ok ()
  kept : r ≠ .ok () → ∀ inventory, Line.gift s inventory = inventory

lemma exists_runCommand (h : w.InTalk id d bag) (hm : s.toList.head? = some '!')
    (hrest : Line.turn? (.str s) position draws = none) (next : Game Unit) :
    ∃ r u, (runCommand next id (.str s)).runOn w = (r, u) ∧ Acted id w u d bag s r := by
  have hne : s ≠ "" := fun heq => by
    rw [heq] at hm
    cases hm
  rw [Line.turn?, if_neg hne, if_pos hm] at hrest
  rw [runCommand]
  -- what is left to say when the player is given nothing
  have hacted {r : Except Fault Unit} {u : World} (htalk : u.InTalk id d bag)
      (hgift : ∀ inventory, Line.gift s inventory = inventory) (hsame : u.offstage = w.offstage)
      (hrand : u.random = w.random) (hact : id ∈ u.active → id ∈ w.active)
      (hends : r ≠ .error .endless)
      (hdone : ∀ c, Command.ofLine s = .ok c → c ≠ .random [] → id ∈ w.active → r = .ok ()) :
      Acted id w u d bag s r := by
    refine ⟨?_, hsame, hrand, hact, hends, fun hnot => absurd hm hnot, hdone, fun _ => hgift⟩
    rw [Line.leaves, if_pos hm, hgift]
    exact htalk
  have hkeeps (hnot : ∀ t n, Command.ofLine s ≠ .ok (.give t n)) (inventory : Inventory) :
      Line.gift s inventory = inventory := by
    rw [Line.gift, if_pos hm]
    split
    · rename_i t n hcmd
      exact absurd hcmd (hnot t n)
    · rfl
  cases hcmd : Command.ofLine s with
  | error fault =>
    refine ⟨.error fault, w, rfl, hacted h (hkeeps ?_) rfl rfl (fun hmem => hmem) ?_ ?_⟩
    · rw [hcmd]
      simp
    · exact fun heq => ofLine_ne_endless s (hcmd.trans (congrArg _ (Except.error.inj heq)))
    · rw [hcmd]
      simp
  | ok command =>
    rw [hcmd] at hrest
    rw [run_lift_bind rfl]
    cases command with
    | give t n =>
      obtain ⟨u, hrun, hsame, hact, hrand, htalk⟩ :=
        exists_giveItems h (mem_all_of_ofLine hcmd) n
      refine ⟨.ok (), u, hrun, ?_, hsame, hrand, fun hmem => hact ▸ hmem, by simp,
        fun hnot => absurd hm hnot, fun _ _ _ _ => rfl, fun hne => absurd rfl hne⟩
      rw [Line.leaves, if_pos hm, Line.gift, if_pos hm, hcmd]
      exact htalk
    | goto target => cases hrest
    | random targets =>
      obtain rfl := eq_nil_of_drawn? (Option.map_eq_none_iff.1 hrest)
      refine ⟨_, w, rfl, hacted h (hkeeps ?_) rfl rfl (fun hmem => hmem) (by simp) ?_⟩
      · rw [hcmd]
        simp
      · intro c hc hnot
        cases hcmd.symm.trans hc
        exact absurd rfl hnot
    | finish =>
      obtain ⟨r, u, hrun, hends, hdone, hclose, hsame, hrand, htalk⟩ := exists_closeDialogue h
      refine ⟨r, u, hrun, hacted htalk (hkeeps ?_) hsame hrand (fun hmem => absurd hmem hclose) hends
        fun _ _ _ => hdone⟩
      rw [hcmd]
      simp
    | unknown word =>
      refine ⟨.ok (), _, rfl, hacted (h.congr rfl rfl rfl rfl rfl) (hkeeps ?_) rfl rfl
        (fun hmem => hmem) (by simp) fun _ _ _ _ => rfl⟩
      rw [hcmd]
      simp

lemma exists_actAt (h : w.InTalk id d bag)
    (hrest : Line.turn? (.str s) position draws = none) (next : Game Unit) :
    ∃ r u, (actAt next id (.str s)).runOn w = (r, u) ∧ Acted id w u d bag s r := by
  have hne : s ≠ "" := fun heq => by
    rw [heq] at hrest
    cases hrest
  by_cases hm : s.toList.head? = some '!'
  · obtain ⟨n, hlen⟩ := length_str_ne_zero hne
    have hmark? : Line.mark? (.str s) = .ok (some '!') := congrArg Except.ok hm
    obtain ⟨r, u, hrun, hacted⟩ := exists_runCommand h hm hrest next
    refine ⟨r, u, ?_, hacted⟩
    rw [actAt, run_lift_bind hlen, if_neg (Nat.succ_ne_zero n), run_lift_bind hmark?]
    exact hrun
  · obtain ⟨u, hrun, hvoice, htold, hwds⟩ := exists_speech h.voiced hne hm next
    have hact : u.active = w.active := htold.field_eq World.active fun _ => rfl
    refine ⟨.ok (), u, hrun, ?_, offstage_of_told htold, htold.field_eq World.random fun _ => rfl,
      fun hmem => hact ▸ hmem, by simp, fun _ => ⟨rfl, hact, hwds⟩, fun _ _ _ _ => rfl,
      fun hne => absurd rfl hne⟩
    rw [Line.gift, if_neg hm]
    exact h.of_told htold hvoice.talk (Line.fixed_leaves s d)

lemma exists_actAt_of_not_str (h : w.Voiced id d) {line : Json} (hl : line.str? = none)
    (hrest : Line.turn? line position draws = none) (next : Game Unit) :
    ∃ fault u, (actAt next id line).runOn w = (.error fault, u) ∧ fault ≠ .endless ∧
      u.talk? id = some d ∧ Told id w u := by
  obtain ⟨name, hn⟩ := h.name
  cases line with
  | str s => cases hl
  | obj members =>
    cases members with
    | nil => cases hrest
    | cons member members => exact ⟨_, w, rfl, by simp, h.talk, .refl id w⟩
  | arr items =>
    cases items with
    | nil => cases hrest
    | cons item items =>
      have hlen : (Json.arr (item :: items)).length = .ok (items.length + 1) := rfl
      obtain ⟨mark?, hm⟩ : ∃ mark?, Line.mark? (.arr (item :: items)) = .ok mark? := by
        unfold Line.mark?
        split <;> try exact ⟨_, rfl⟩
        · split <;> exact ⟨_, rfl⟩
        · rename_i hnot
          exact absurd rfl (hnot _)
      have hspoken : (Line.unmarked (.arr (item :: items))).str? = none := rfl
      rw [actAt, run_lift_bind hlen, if_neg (Nat.succ_ne_zero _), run_lift_bind hm]
      split
      · rw [playerSpeaks, bind_ok (run_dialogue h.talk)]
        obtain ⟨u, hrun, htalk, htold⟩ := exists_unheard h "You" hspoken (closeAnswer id)
        exact ⟨_, u, hrun, by simp, htalk, htold⟩
      · exact ⟨_, w, rfl, by simp, h.talk, .refl id w⟩
      · rw [narrate, bind_ok (run_dialogue h.talk)]
        obtain ⟨u, hrun, htalk, htold⟩ := exists_unheard h "" hspoken (closeAnswer id)
        exact ⟨_, u, hrun, by simp, htalk, htold⟩
      · rw [npcSpeaks, bind_ok (run_dialogue h.talk), hn]
        obtain ⟨u, hrun, htalk, htold⟩ := exists_unheard h name hl (openAnswer id)
        exact ⟨_, u, hrun, by simp, htalk, htold⟩
  | _ => exact ⟨_, w, rfl, by simp, h.talk, .refl id w⟩

end Game

/-! ## The next line -/

/-- The text in a position of a script, unless the script ends before it or has no text there. -/
def lineAt? (lines : List Json) (position : Int) : Option String :=
  if lines.length ≤ position then none else ( entry? lines position).bind Json.str?

def Dialogue.shownAt (d : Dialogue) (lines : List Json) (position : Int) : Dialogue :=
  ((lineAt? lines position).map fun s => Line.leaves s { d with line := position }).getD
    { d with line := position }

/-- What the player carries after the line in a position. -/
def Inventory.gainAt (inventory : Inventory) (lines : List Json) (position : Int) : Inventory :=
  ((lineAt? lines position).map fun s => Line.gift s inventory).getD inventory

lemma Dialogue.shownAt_eq (d : Dialogue) (lines : List Json) (position : Int) :
    ∃ isWaiting isTyping typed, d.shownAt lines position =
      { d with line := position, isWaiting, isTyping, typed } := by
  rw [shownAt]
  cases lineAt? lines position with
  | none => exact ⟨_, _, _, rfl⟩
  | some text => exact Line.leaves_eq text { d with line := position }

namespace Game

open World Dialogue

variable {lines : List Json} {s : Int × List Int}

/-- What comes of the line in a position. -/
structure Showed (id : PartId) (w u : World) (d : Dialogue) (bag : Bag) (lines : List Json)
    (position : Int) (r : Except Fault Unit) : Prop where
  talk : u.InTalk id (d.shownAt lines position)
    { bag with inventory := bag.inventory.gainAt lines position }
  same : u.offstage = w.offstage
  active : id ∈ u.active → id ∈ w.active
  ends : r ≠ .error .endless
  kept : r ≠ .ok () → ∀ inventory : Inventory, inventory.gainAt lines position = inventory
  heard : ∀ text, lineAt? lines position = some text → text.toList.head? ≠ some '!' →
    r = .ok () ∧ u.active = w.active ∧ u.words? d.content = some (.str (Line.spoken text))
  ended : lines.length ≤ position → (id ∈ w.active → r = .ok ()) ∧ id ∉ u.active
  done : ∀ text, lineAt? lines position = some text → text ≠ "" ∧ ∀ c, Command.ofLine text = .ok c →
    c ≠ .random [] → id ∈ w.active → r = .ok ()

lemma run_nextLineIn_one (hd : w.talk? id = some d) (hls : w.lines? d.script = some lines) :
    (nextLineIn 1 id).runOn w =
      (if lines.length ≤ d.style.position d.line then closeDialogue id
      else liftM (entry lines (d.style.position d.line)) >>= actAt (nextLineIn 0 id) id).runOn
        (w.walked id (d.style.position d.line, w.random)) := by
  rw [run_nextLineIn_succ hd, run_lookAt (talk?_walked hd _) hls]

lemma Showed.of_blank {position : Int} {r : Except Fault Unit} (hnone : lineAt? lines position = none)
    (htalk : u.InTalk id { d with line := position } bag) (hsame : u.offstage = w.offstage)
    (hact : id ∈ u.active → id ∈ w.active) (hends : r ≠ .error .endless)
    (hended : lines.length ≤ position → (id ∈ w.active → r = .ok ()) ∧ id ∉ u.active) :
    Showed id w u d bag lines position r where
  talk := by
    rw [shownAt, Inventory.gainAt, hnone]
    exact htalk
  same := hsame
  active := hact
  ends := hends
  kept _ inventory := by
    rw [Inventory.gainAt, hnone]
    rfl
  heard := by
    rw [hnone]
    nofun
  ended := hended
  done := by
    rw [hnone]
    nofun

lemma exists_nextLine (h : w.InTalk id d bag) (hls : w.lines? d.script = some lines)
    (hrest : rest? d.style lines (d.line, w.random) = some s) :
    ∃ r u, (nextLine id).runOn w = (r, u) ∧ u.random = s.2 ∧
      Showed id w u d bag lines (d.style.position s.1) r := by
  have hwalk := h.walked s
  have hleads := leads?_rest hrest
  rw [run_nextLine_of_rest h.voiced.talk hls hrest,
    run_nextLineIn_one hwalk.voiced.talk hls]
  dsimp only
  rw [walked_walked]
  obtain ⟨p, hp⟩ : ∃ p, d.style.position s.1 = p := ⟨_, rfl⟩
  rw [leads?, hp] at hleads
  rw [hp]
  have hat := h.walked (p, (w.walked id s).random)
  by_cases hend : (lines.length : Int) ≤ p
  · obtain ⟨r, u, hclose, hends, hok, hclosed, hsame, hrand, htalk⟩ := exists_closeDialogue hat
    exact ⟨r, u, by rw [if_pos hend, hclose], hrand, .of_blank (if_pos hend) htalk hsame
      (fun hmem => absurd hmem hclosed) hends fun _ => ⟨hok, hclosed⟩⟩
  · rw [if_neg hend] at hleads
    rw [if_neg hend]
    have hl : lineAt? lines p = ( entry? lines p).bind Json.str? := if_neg hend
    cases he : entry? lines p with
    | none =>
      have herror : entry lines p = .error .outOfRange := by rw [entry, he]
      rw [he] at hl
      exact ⟨.error .outOfRange, w.walked id (p, s.2), by rw [herror, run_bind, run_lift]; rfl, rfl,
        .of_blank hl hat rfl (fun hmem => hmem) (by simp) fun hle => absurd hle hend⟩
    | some line =>
      rw [he] at hleads hl
      rw [run_lift_bind (entry_eq_ok he)]
      have hturn : Line.turn? line p s.2 = none := hleads
      cases hstr : line.str? with
      | none =>
        obtain ⟨fault, u, hact, hends, htalk, htold⟩ :=
          exists_actAt_of_not_str hat.voiced hstr hturn (nextLineIn 0 id)
        have hactive : u.active = w.active := htold.field_eq World.active fun _ => rfl
        have hsame := offstage_of_told htold
        exact ⟨_, u, hact, htold.field_eq World.random fun _ => rfl, .of_blank (hl.trans hstr)
          (hat.of_told htold htalk rfl) hsame (fun hmem => hactive ▸ hmem)
          (fun heq => hends (Except.error.inj heq)) fun hle => absurd hle hend⟩
      | some text =>
        obtain rfl : line = .str text := by
          cases line with
          | str s => exact congrArg Json.str (Option.some.inj hstr)
          | _ => cases hstr
        obtain ⟨r, u, hact, hacted⟩ := exists_actAt hat hturn (nextLineIn 0 id)
        have hl : lineAt? lines p = some text := hl
        refine ⟨r, u, hact, hacted.random, ?_, hacted.same, hacted.active, hacted.ends,
          fun hne inventory => ?_, fun text' ht' hm => ?_, fun hle => absurd hle hend,
          fun text' ht' => ?_⟩
        · rw [shownAt, Inventory.gainAt, hl]
          exact hacted.talk
        · rw [Inventory.gainAt, hl]
          exact hacted.kept hne inventory
        · cases hl.symm.trans ht'
          exact hacted.heard hm
        · cases hl.symm.trans ht'
          refine ⟨fun hemp => ?_, hacted.done⟩
          rw [hemp] at hturn
          cases hturn

end Game

end TileQuest
