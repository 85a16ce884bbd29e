import TileQuest.Proofs.Play.Numbers
import TileQuest.Proofs.Talk.Box

/-!
# Opening a dialogue

The box of a dialogue is built of parts that were not there before, and nothing that was there is
touched (`World.Erected`). So in a world that is in order (`World.Ready`) a dialogue opens: it can
speak, its box is on the screen, and what comes then is its first line
(`Game.exists_openDialogue`).
-/

namespace TileQuest

variable {w0 w u : World} {id : PartId} {qs items : List PartId} {bag : Bag} {α : Type}

namespace World

variable {v : World} {q : PartId}

/-- What a world is besides what is built in it when a dialogue opens. -/
def unerected (w : World) : World :=
  { w.unplaced with drawing := [], dialogue? := none, steppedDialogue? := none }

/-- More is there and on the screen. What was there before is untouched. -/
structure Erected (w u : World) : Prop where
  same : u.unerected = w.unerected
  size : w.parts.size ≤ u.parts.size
  parts : ∀ i : PartId, i.index < w.parts.size → u.parts[i.index]? = w.parts[i.index]?
  overlay : ∀ q ∈ w.overlay, q ∈ u.overlay
  legible : w.Legible → u.Legible

lemma Erected.refl (w : World) : Erected w w :=
  ⟨rfl, le_rfl, fun _ _ => rfl, fun _ hq => hq, fun h => h⟩

lemma Erected.trans (h : Erected w u) (h' : Erected u v) : Erected w v where
  same := h'.same.trans h.same
  size := h.size.trans h'.size
  parts i hi := (h'.parts i (hi.trans_le h.size)).trans (h.parts i hi)
  overlay q hq := h'.overlay q (h.overlay q hq)
  legible hw := h'.legible (h.legible hw)

lemma Erected.field_eq (h : Erected w u) (f : World → α)
    (hf : ∀ x : World, f x.unerected = f x) : f u = f w := by
  rw [← hf u, h.same, hf w]

lemma Grown.erected (h : ∀ P, Grown P w u) : Erected w u where
  same := congrArg (fun x : World =>
    { x with drawing := [], dialogue? := none, steppedDialogue? := none }) (h fun _ => False).same
  size := (h fun _ => False).size
  parts i hi := (h fun _ => False).parts i hi fun hfalse => hfalse
  overlay := (h fun _ => False).overlay
  legible := (h fun _ => False).legible

lemma Erected.part_eq (h : Erected w u) {o : Owned} (ho : w.parts[q.index]? = some o) :
    u.parts[q.index]? = some o :=
  (h.parts q (lt_of_getElem? ho)).trans ho

lemma Speaks.of_erected (h : w.Speaks q) (herect : Erected w u) : u.Speaks q := by
  obtain ⟨o, l, ho, hrest⟩ := h
  exact ⟨o, l, herect.part_eq ho, hrest⟩

lemma Stocked.of_erected (h : w.Stocked bag items) (herect : Erected w u) : u.Stocked bag items where
  holds := (herect.field_eq (·.bags[0]?) fun _ => rfl).trans h.holds
  counted := h.counted
  legible := herect.legible h.legible
  viewed v hv := by
    obtain ⟨o, view, ho, hrest⟩ := (h.viewed v hv).part
    exact ⟨⟨o, view, herect.part_eq ho, hrest⟩, (h.viewed v hv).nodup,
      fun q hq => herect.overlay q ((h.viewed v hv).listed q hq)⟩

structure Erecting (w0 : World) (qs : List PartId) (u : World) : Prop where
  erected : Erected w0 u
  up : ∀ q ∈ qs, w0.parts.size ≤ q.index ∧ q ∈ u.overlay ∧ u.IsTag q
  nodup : qs.Nodup
  legible : u.Legible

lemma Erecting.cons (h : Erecting w0 qs w) (herect : Erected w u) (hq : q.index = w.parts.size)
    (hup : q ∈ u.overlay) (htag : u.IsTag q) : Erecting w0 (q :: qs) u where
  erected := h.erected.trans herect
  up q' hq' := by
    rcases List.mem_cons.1 hq' with rfl | hq'
    · exact ⟨hq ▸ h.erected.size, hup, htag⟩
    · obtain ⟨hnew, hlist, o, ho, hrest⟩ := h.up q' hq'
      exact ⟨hnew, herect.overlay q' hlist, o, herect.part_eq ho, hrest⟩
  nodup := by
    refine List.nodup_cons.2 ⟨fun hmem => ?_, h.nodup⟩
    exact Nat.lt_irrefl _ (hq ▸ (h.up q hmem).2.2.lt)
  legible := herect.legible h.legible

end World

namespace Game

open World

lemma Erecting.exists_sprite (h : Erecting w0 qs w) {file : String} (hf : Image.IsKnown file)
    (x y : Scalar) :
    ∃ q u, (placeSprite file x y).runOn w = (.ok q, u) ∧ Erected w u ∧ Erecting w0 (q :: qs) u := by
  obtain ⟨q, u, s, hrun, hgrown, hpost, hp, hlay⟩ := exists_placeSprite hf w x y
  refine ⟨q, u, hrun, Grown.erected hgrown, h.cons (Grown.erected hgrown) hpost.new hpost.listed ?_⟩
  exact ⟨_, hp, rfl, hlay⟩

lemma Erecting.exists_label (h : Erecting w0 qs w) (font text : String) (size : Nat) (x y : Scalar) :
    ∃ q u, (placeLabel font text size x y).runOn w = (.ok q, u) ∧ Erected w u ∧
      Erecting w0 (q :: qs) u ∧ u.Speaks q := by
  obtain ⟨q, u, l, hrun, hgrown, hpost, hp, -, hsize⟩ := exists_placeLabel h.legible font text size x y
  refine ⟨q, u, hrun, Grown.erected hgrown, h.cons (Grown.erected hgrown) hpost.new hpost.listed ?_, ?_⟩
  · exact ⟨_, hp, rfl, rfl⟩
  · exact ⟨_, l, hp, rfl, rfl, hsize⟩

lemma Erecting.exists_inputBox (h : Erecting w0 qs w) (x y : Scalar) :
    ∃ q u, (newInputBox >>= fun q => placePart q x y >>= fun _ => pure q).runOn w = (.ok q, u) ∧
      Erected w u ∧ Erecting w0 (q :: qs) u := by
  let q : PartId := ⟨w.parts.size⟩
  let painted : World := { w with drawing := [.fill "surface" [50, 50, 50, 180]].reverse ++ w.drawing }
  let u := painted.posted (.inputBox 400 30) x y
  have hpost := posted_posted painted (.inputBox 400 30) x y
  have herect : Erected w u :=
    .trans (u := painted) ⟨rfl, le_rfl, fun _ _ => rfl, fun _ hq => hq, fun h => h⟩
      (Grown.erected fun P => grown_posted P painted (.inputBox 400 30) x y)
  have hbox : newInputBox.runOn w = (.ok q, { painted.withPart (.inputBox 400 30) with
      overlay := w.overlay ++ [q] }) := rfl
  refine ⟨q, u, ?_, herect, h.cons herect rfl hpost.listed ?_⟩
  · rw [bind_ok hbox, placePart, bind_assoc, bind_ok (run_placeParts _ _ _ _)]
    rfl
  · exact ⟨_, getElem?_posted_self painted (.inputBox 400 30) x y, rfl, rfl⟩

end Game

namespace World

variable {d d' : Dialogue}
/-- The box of a dialogue was built, and all of it is new. -/
structure Opened (w0 u : World) (id : PartId) (d : Dialogue) : Prop where
  same : u.unerected = w0.unerected
  stocked : ∀ bag items, w0.Stocked bag items → u.Stocked bag items
  talks : ∀ i d, w0.talk? i = some d → u.talk? i = some d
  voiced : u.Voiced id d
  new : w0.parts.size ≤ id.index
  up : ∀ q ∈ d.shown, w0.parts.size ≤ q.index ∧ q ∈ u.overlay ∧ u.IsTag q

lemma Opened.field_eq (h : Opened w0 u id d) (f : World → α)
    (hf : ∀ x : World, f x.unerected = f x) : f u = f w0 := by
  rw [← hf u, h.same, hf w0]

lemma lt_of_talk? (h : w.talk? id = some d) : id.index < w.parts.size := by
  obtain ⟨o, ho, -⟩ := talk?_eq_some.1 h
  exact lt_of_getElem? ho

lemma Erecting.opened (h : Erecting w0 qs w) (hn : ∃ s, d.npcName = .str s)
    (hshn : ∀ q ∈ d.shown, q ∈ qs) (hnd : d.shown.Nodup) (hspk : ∀ q ∈ d.labels, w.Speaks q)
    (htyp : d.style = .typed → ∃ q, d.inputLabel? = some q) (typed? stepped? : Option PartId) :
    Opened w0 { w.withPart (.dialogue d) with dialogue? := typed?, steppedDialogue? := stepped? }
      ⟨w.parts.size⟩ d := by
  have hold (i : PartId) (hi : i.index < w.parts.size) :
      (w.withPart (.dialogue d)).parts[i.index]? = w.parts[i.index]? :=
    getElem?_withPart_of_ne _ hi.ne
  have herect : Erected w { w.withPart (.dialogue d) with
      dialogue? := typed?, steppedDialogue? := stepped? } :=
    ⟨rfl, by simp [withPart], hold, fun _ hq => hq, fun h => h⟩
  have hopn := h.erected.trans herect
  refine ⟨hopn.same, fun _ _ hstock => hstock.of_erected hopn, fun i d' hd' => ?_,
    ⟨?_, hn, hnd, fun q hq => ?_, htyp⟩, h.erected.size, fun q hq => ?_⟩
  · exact (talk?_of_part (hopn.parts i (lt_of_talk? hd'))).trans hd'
  · exact talk?_eq_some.2 ⟨{ part := .dialogue d }, by simp [withPart], rfl⟩
  · exact (hspk q hq).of_erected herect
  · obtain ⟨hnew, hlist, o, ho, hrest⟩ := h.up q (hshn q hq)
    exact ⟨hnew, hlist, o, herect.part_eq ho, hrest⟩

lemma Opened.of_told (h : Opened w0 w id d) (htold : Told id w u) (hvoice : u.Voiced id d')
    (hfix : d'.fixed = d.fixed) : Opened w0 u id d' where
  same := (htold.field_eq unerected fun _ => rfl).trans h.same
  stocked bag items hstock := (h.stocked bag items hstock).of_told h.voiced.talk htold
  talks i d0 hd0 := by
    have hne : i ≠ id := fun heq => h.new.not_gt (heq ▸ lt_of_talk? hd0)
    exact htold.talk?_eq hne (h.talks i d0 hd0)
  voiced := hvoice
  new := h.new
  up q hq := by
    obtain ⟨hnew, hlist, htag⟩ := h.up q (Dialogue.shown_of_fixed hfix ▸ hq)
    exact ⟨hnew, (htold.field_eq World.overlay fun _ => rfl) ▸ hlist,
      htag.of_told (htag.ne_of_talk h.voiced.talk) htold⟩

/-- Dialogues can be opened: the inventory and its window are in order, what acts is there, and the
camera is no wider than a million pixels. -/
structure Ready (w : World) (bag : Bag) (items : List PartId) : Prop where
  stocked : w.Stocked bag items
  there : ∀ q ∈ items, q.index < w.parts.size
  active : ∀ p ∈ w.active, p.index < w.parts.size
  camera : w.camera.w.natAbs ≤ 1000000

lemma Opened.boxed (h : Opened w u id d) (hrdy : w.Ready bag items) :
    ({ u with active := u.active ++ [id] } : World).Boxed id d items where
  active := by
    have hact : u.active = w.active := h.field_eq World.active fun _ => rfl
    have hnot : id ∉ w.active := fun hmem => h.new.not_gt (hrdy.active id hmem)
    change (u.active ++ [id]).count id = 1
    rw [List.count_append, hact, List.count_eq_zero.2 hnot, List.count_singleton_self]
  up q hq := (h.up q hq).2.1
  tag q hq := (h.up q hq).2.2
  apart q hq hmem := (h.up q hq).1.not_gt (hrdy.there q hmem)

end World

namespace Game

open World

/-- What a dialogue is when its box was just built. -/
structure IsFresh (d : Dialogue) (style : DialogueStyle) (script : Script) (name : String) : Prop where
  style : d.style = style
  script : d.script = script
  name : d.npcName = .str name
  line : d.line = -1
  idle : d.isWaiting = false ∧ d.isTyping = false
  typed : d.typed = ""
  agent : d.agent? = none

lemma exists_buildStepped (hleg : w.Legible) (script : Script) (name : String)
    (left top : Scalar) :
    ∃ id u d, (buildStepped script (.str name) left top).runOn w = (.ok id, u) ∧ Opened w u id d ∧
      IsFresh d .stepped script name := by
  have h0 : Erecting w [] w := ⟨.refl w, by simp, List.nodup_nil, hleg⟩
  have hbg : Image.IsKnown "text_box.png" := ⟨_, rfl⟩
  obtain ⟨background, u1, hrun1, -, h1⟩ := Erecting.exists_sprite h0 hbg left top
  obtain ⟨speaker, u2, hrun2, -, h2, hspeaks2⟩ :=
    Erecting.exists_label h1 boldFont "" 25 (left.shift 50) (top.shift 25)
  obtain ⟨content, u3, hrun3, herected3, h3, hspeaks3⟩ :=
    Erecting.exists_label h2 regularFont "" 25 (left.shift 50) (top.shift 75)
  obtain ⟨helper, u4, hrun4, herected4, h4, hspeaks4⟩ :=
    Erecting.exists_label h3 mediumFont stepHint 25 (left.shift 50) (top.shift 150)
  let d : Dialogue :=
    { style := .stepped, script, npcName := .str name, background, speaker, content, helper }
  have hnd : d.shown.Nodup := by
    have hdist := h4.nodup
    simp only [Dialogue.shown, d]
    grind
  have hopn := h4.opened (d := d) ⟨name, rfl⟩ (by simp [Dialogue.shown, d]) hnd
    (by
      simp only [Dialogue.labels, d, Option.toList_none, List.append_nil, List.forall_mem_cons]
      exact ⟨(hspeaks2.of_erected herected3).of_erected herected4, hspeaks3.of_erected herected4,
        hspeaks4, by simp⟩) (by simp) u4.dialogue? (some ⟨u4.parts.size⟩)
  refine ⟨_, _, d, ?_, hopn, rfl, rfl, rfl, rfl, ⟨rfl, rfl⟩, rfl, rfl⟩
  rw [buildStepped, bind_ok hrun1, bind_ok hrun2, bind_ok hrun3, bind_ok hrun4]
  rfl

lemma exists_buildTyped (hleg : w.Legible) (script : Script) (name : String)
    (left top : Scalar) :
    ∃ id u d, (buildTyped script (.str name) left top).runOn w = (.ok id, u) ∧ Opened w u id d ∧
      IsFresh d .typed (typedScript script) name ∧ ∀ q ∈ d.inputLabel?, u.words? q = some (.str "") := by
  have h0 : Erecting w [] w := ⟨.refl w, nofun, List.nodup_nil, hleg⟩
  have hbg : Image.IsKnown "text_box.png" := ⟨_, rfl⟩
  obtain ⟨background, u1, hrun1, -, h1⟩ := Erecting.exists_sprite h0 hbg left top
  obtain ⟨speaker, u2, hrun2, -, h2, hspeaks2⟩ :=
    Erecting.exists_label h1 boldFont "" 20 (left.shift 50) (top.shift 25)
  obtain ⟨content, u3, hrun3, herected3, h3, hspeaks3⟩ :=
    Erecting.exists_label h2 regularFont "" 20 (left.shift 50) (top.shift 70)
  obtain ⟨inputBox, u4, hrun4, herected4, h4⟩ :=
    Erecting.exists_inputBox h3 (left.shift 50) (top.shift 150)
  obtain ⟨inputLabel, u5, hrun5, herected5, h5, hspeaks5⟩ :=
    Erecting.exists_label h4 regularFont typingHint 20 (left.shift 55) (top.shift 150)
  obtain ⟨helper, u6, hrun6, herected6, h6, hspeaks6⟩ :=
    Erecting.exists_label h5 mediumFont stepHint 15 (left.shift 50) (top.shift 115)
  let d : Dialogue :=
    { style := .typed, script := typedScript script, npcName := .str name, background, speaker, content,
      helper, inputBox? := some inputBox, inputLabel? := some inputLabel }
  have hnd : d.shown.Nodup := by
    have hdist := h6.nodup
    simp only [Dialogue.shown, d, Option.toList_some, List.cons_append, List.nil_append,
      List.nodup_cons, List.mem_cons, List.not_mem_nil, or_false, not_or, List.nodup_nil] at hdist ⊢
    grind
  have herect := (herected4.trans herected5).trans herected6
  have hopn := h6.opened (d := d) ⟨name, rfl⟩ (by simp [Dialogue.shown, d]) hnd
    (by
      simp only [Dialogue.labels, d, Option.toList_some, List.cons_append, List.nil_append,
        List.forall_mem_cons]
      exact ⟨(hspeaks2.of_erected herected3).of_erected herect, hspeaks3.of_erected herect,
        hspeaks6, hspeaks5.of_erected herected6, nofun⟩) (fun _ => ⟨inputLabel, rfl⟩)
    (some ⟨u6.parts.size⟩) u6.steppedDialogue?
  obtain ⟨u, hrun, hvoice, htold, -, hinp⟩ := exists_setTyping hopn.voiced rfl false
  refine ⟨_, u, d, ?_, hopn.of_told htold hvoice rfl,
    ⟨rfl, rfl, rfl, rfl, ⟨rfl, rfl⟩, rfl, rfl⟩, hinp⟩
  have hbox (rest : PartId → Game PartId) :
      (newInputBox >>= fun q => placePart q (left.shift 50) (top.shift 150) >>= fun _ => rest q) =
        (newInputBox >>= fun q => placePart q (left.shift 50) (top.shift 150) >>= fun _ => pure q) >>=
          rest := by
    simp only [bind_assoc, pure_bind]
  rw [buildTyped, bind_ok hrun1, bind_ok hrun2, bind_ok hrun3, hbox,
    bind_ok hrun4, bind_ok hrun5, bind_ok hrun6]
  have hnew : (newPart (.dialogue d)).runOn u6 = (.ok ⟨u6.parts.size⟩, u6.withPart (.dialogue d)) := rfl
  rw [bind_ok hnew, run_modify_bind]
  exact bind_ok hrun

def scriptIn : DialogueStyle → Script → Script
  | .typed, script => typedScript script
  | .stepped, script => script

lemma exists_openDialogue (h : w.Ready bag items) (style : DialogueStyle) (script : Script)
    (name : String) : ∃ id u d, (openDialogue style script (.str name)).runOn w =
        (nextLine id >>= fun _ => pure id).runOn u ∧
      IsFresh d style (scriptIn style script) name ∧ u.InTalk id d bag ∧ id ∈ u.active ∧
      u.offstage = w.offstage ∧ u.random = w.random ∧
      (∀ i d', w.talk? i = some d' → u.talk? i = some d') ∧ w.parts.size ≤ id.index ∧
      (style = .typed → ∀ q ∈ d.inputLabel?, u.words? q = some (.str "")) := by
  obtain ⟨half, hhalf, hholds⟩ := Scalar.Holds.div_pow (l := 1)
    (Scalar.Holds.int (n := 1000000) 0 (by simpa using h.camera)) (by norm_num) (by norm_num) (by norm_num)
  obtain ⟨width, hwd, hholds'⟩ := Scalar.Holds.div_pow (l := 1)
    (Scalar.Holds.int (i := 500) (n := 500) 0 (by norm_num)) (by norm_num) (by norm_num) (by norm_num)
  obtain ⟨left, hleft, -⟩ := hholds.sub hholds' (by norm_num) (by norm_num)
  let top : Scalar := (w.camera.h - 50 - 200 : Int)
  obtain ⟨id, u, d, hbuild, hopn, hfr, hinp⟩ : ∃ id u d,
      ((style = .typed → (buildTyped script (.str name) left top).runOn w = (.ok id, u)) ∧
        (style = .stepped → (buildStepped script (.str name) left top).runOn w = (.ok id, u))) ∧
        Opened w u id d ∧ IsFresh d style (scriptIn style script) name ∧
        (style = .typed → ∀ q ∈ d.inputLabel?, u.words? q = some (.str "")) := by
    cases style with
    | typed =>
      obtain ⟨id, u, d, hbuild, hopn, hfr, hinp⟩ :=
        exists_buildTyped h.stocked.legible script name left top
      exact ⟨id, u, d, ⟨fun _ => hbuild, by simp⟩, hopn, hfr, fun _ => hinp⟩
    | stepped =>
      obtain ⟨id, u, d, hbuild, hopn, hfr⟩ :=
        exists_buildStepped h.stocked.legible script name left top
      exact ⟨id, u, d, ⟨by simp, fun _ => hbuild⟩, hopn, hfr, by simp⟩
  have hstock := hopn.stocked bag items h.stocked
  refine ⟨id, { u with active := u.active ++ [id] }, d, ?_, hfr, ⟨?_, items, ?_, .inl (hopn.boxed h)⟩,
    List.mem_append_right _ (.head _), ?_, ?_, hopn.talks, hopn.new, hinp⟩
  · have hhalf' : (Scalar.int w.camera.w).div 2 = .ok half := hhalf
    have hwd' : Scalar.div 500 2 = .ok width := hwd
    rw [openDialogue, run_get_bind]
    dsimp only
    rw [run_lift_bind hhalf', run_lift_bind hwd', run_lift_bind hleft]
    cases style with
    | typed =>
      rw [bind_ok (hbuild.1 rfl)]
      rfl
    | stepped =>
      rw [bind_ok (hbuild.2 rfl)]
      rfl
  · exact ⟨hopn.voiced.talk, hopn.voiced.name, hopn.voiced.distinct, hopn.voiced.speaks,
      hopn.voiced.typing⟩
  · exact ⟨hstock.holds, hstock.counted, hstock.legible, fun v hv =>
      ⟨(hstock.viewed v hv).part, (hstock.viewed v hv).nodup, (hstock.viewed v hv).listed⟩⟩
  · exact hopn.field_eq offstage fun _ => rfl
  · exact hopn.field_eq World.random fun _ => rfl

lemma ready_new_world : ({} : World).Ready { inventory := .empty 20 } [] where
  stocked := ⟨rfl, Inventory.empty_counted 20, nofun, nofun⟩
  there := nofun
  active := nofun
  camera := by decide

end Game

end TileQuest
