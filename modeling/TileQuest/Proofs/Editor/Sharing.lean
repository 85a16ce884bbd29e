import TileQuest.Proofs.Editor.Places

/-!
# Shared arguments

What stands for an entity in the editor has arguments. If it was read from a map they are its own,
and if it was placed they are the ones that its factory keeps for all that are placed
(`World.shares?`). What is typed into the fields of the selected entity goes to wherever its
arguments are (`World.Retypes`), so with arguments of its own nobody else is touched, and with shared
ones everybody is who shares them, and what is placed later too.
-/

namespace TileQuest

variable {w u : World} {p q g : PartId} {k : Nat} {ph : Placeholder}

/-- The factory that keeps these arguments, unless they are an entity's own. -/
def Args.factory? : Args → Option Nat
  | own _ => none
  | defaults k => some k

def Part.standIn? : Part → Option Placeholder
  | placeholder p => some p
  | _ => none

/-- What a change of the text leads to, if the part is a field. -/
def Part.reaction? : Part → Option Action
  | textField _ field => field.onChange?
  | _ => none

namespace World

variable {v : World}

/-! ## Who has which arguments -/

def standIn? (w : World) (q : PartId) : Option Placeholder :=
  (w.parts[q.index]?.map fun o => o.part.standIn?).join

/-- The arguments, be they its own or shared. -/
def argsAt? (w : World) (q : PartId) : Option (List String) :=
  (w.standIn? q).map fun p => w.argsOf p.args

/-- The factory that keeps the arguments, if they are shared. -/
def shares? (w : World) (q : PartId) : Option Nat :=
  ((w.standIn? q).map fun p => p.args.factory?).join

def selectedPart? (w : World) : Option PartId :=
  w.editor.selected?.bind fun e => w.entities[e.index]?.bind fun en =>
    en.parts.find? (w.partIs Part.isPlaceholder)

/-- What a change of the text leads to, if the part with the number is a field. -/
def reaction? (w : World) (q : PartId) : Option Action :=
  (w.parts[q.index]?.map fun o => o.part.reaction?).join

lemma standIn?_eq_some :
    w.standIn? q = some ph ↔ ∃ o, w.parts[q.index]? = some o ∧ o.part = .placeholder ph := by
  have hp (part : Part) : part.standIn? = some ph ↔ part = .placeholder ph := by
    cases part <;> simp [Part.standIn?]
  simp only [standIn?, Option.join_eq_some_iff, Option.map_eq_some_iff, hp]

lemma partIs_isPlaceholder_eq (w : World) (q : PartId) :
    w.partIs Part.isPlaceholder q = (w.standIn? q).isSome := by
  rw [partIs, standIn?]
  cases w.parts[q.index]? with
  | none => rfl
  | some o => cases hp : o.part <;> simp [Part.isPlaceholder, Part.standIn?, hp]

/-! ## What typing can do -/

/-- Words are changed, and the arguments of the selected entity wherever they are. -/
structure Retypes (w u : World) : Prop where
  editor : u.editor = w.editor
  listeners : u.listeners = w.listeners
  entities : u.entities = w.entities
  reaction : ∀ q, u.reaction? q = w.reaction? q
  sharing : ∀ q, (u.standIn? q).map (·.args.factory?) = (w.standIn? q).map (·.args.factory?)
  others : ∀ q, w.selectedPart? ≠ some q → u.standIn? q = w.standIn? q
  length : u.defaults.length = w.defaults.length
  defaults : ∀ k, w.selectedPart?.bind w.shares? ≠ some k → u.defaults[k]? = w.defaults[k]?

lemma Retypes.shares?_eq (h : Retypes w u) (q : PartId) : u.shares? q = w.shares? q := by
  rw [shares?, shares?, h.sharing q]

lemma Retypes.selectedPart?_eq (h : Retypes w u) : u.selectedPart? = w.selectedPart? := by
  have hp (q : PartId) : u.partIs Part.isPlaceholder q = w.partIs Part.isPlaceholder q := by
    rw [partIs_isPlaceholder_eq, partIs_isPlaceholder_eq, ← Option.isSome_map, h.sharing q,
      Option.isSome_map]
  rw [selectedPart?, selectedPart?, h.editor, h.entities, funext hp]

lemma Retypes.refl (w : World) : Retypes w w :=
  ⟨rfl, rfl, rfl, fun _ => rfl, fun _ => rfl, fun _ _ => rfl, rfl, fun _ _ => rfl⟩

lemma Retypes.trans (h : Retypes w u) (h' : Retypes u v) : Retypes w v where
  editor := h'.editor.trans h.editor
  listeners := h'.listeners.trans h.listeners
  entities := h'.entities.trans h.entities
  reaction q := (h'.reaction q).trans (h.reaction q)
  sharing q := (h'.sharing q).trans (h.sharing q)
  others q hq := (h'.others q (h.selectedPart?_eq ▸ hq)).trans (h.others q hq)
  length := h'.length.trans h.length
  defaults k hk := by
    refine (h'.defaults k ?_).trans (h.defaults k hk)
    rwa [h.selectedPart?_eq, funext h.shares?_eq]

instance : IsPreorder World Retypes where
  refl := Retypes.refl
  trans _ _ _ := Retypes.trans

/-- Nothing is changed but a part that stands for nothing, and that may be a field. A change of its
text still leads to the same. -/
structure Rewords (g : PartId) (w u : World) : Prop where
  editor : u.editor = w.editor
  listeners : u.listeners = w.listeners
  entities : u.entities = w.entities
  defaults : u.defaults = w.defaults
  others : ∀ q ≠ g, u.parts[q.index]? = w.parts[q.index]?
  standIn : ∀ q, u.standIn? q = w.standIn? q
  reaction : ∀ q, u.reaction? q = w.reaction? q

instance (g : PartId) : IsPreorder World (Rewords g) where
  refl _ := ⟨rfl, rfl, rfl, rfl, fun _ _ => rfl, fun _ => rfl, fun _ => rfl⟩
  trans _ _ _ h h' := ⟨h'.editor.trans h.editor, h'.listeners.trans h.listeners,
    h'.entities.trans h.entities, h'.defaults.trans h.defaults,
    fun q hq => (h'.others q hq).trans (h.others q hq),
    fun q => (h'.standIn q).trans (h.standIn q), fun q => (h'.reaction q).trans (h.reaction q)⟩

lemma Rewords.retypes (h : Rewords g w u) : Retypes w u :=
  ⟨h.editor, h.listeners, h.entities, h.reaction, fun q => by rw [h.standIn q],
    fun q _ => h.standIn q, by rw [h.defaults], fun _ _ => by rw [h.defaults]⟩

lemma Rewords.modifyOwned {f : Owned → Owned}
    (hstandIn : ∀ o, (f o).part.standIn? = o.part.standIn?)
    (hreact : ∀ o, (f o).part.reaction? = o.part.reaction?) (w : World) :
    Rewords g w { w with parts := w.parts.modify g.index f } where
  editor := rfl
  listeners := rfl
  entities := rfl
  defaults := rfl
  others q hq := by
    have hne : g.index ≠ q.index := fun heq => hq (PartId.eq_of_index heq).symm
    rw [Array.getElem?_modify, if_neg hne]
  standIn q := congrArg Option.join (map_getElem?_modify (fun o _ => hstandIn o) q.index)
  reaction q := congrArg Option.join (map_getElem?_modify (fun o _ => hreact o) q.index)

lemma Retypes.modifySelected (hp : w.selectedPart? = some p) {f : Owned → Owned}
    (hsharing : ∀ o, w.parts[p.index]? = some o →
      (f o).part.standIn?.map (·.args.factory?) = o.part.standIn?.map (·.args.factory?))
    (hreact : ∀ o, w.parts[p.index]? = some o → (f o).part.reaction? = o.part.reaction?) :
    Retypes w { w with parts := w.parts.modify p.index f } where
  editor := rfl
  listeners := rfl
  entities := rfl
  reaction q := congrArg Option.join (map_getElem?_modify hreact q.index)
  sharing q := by
    rw [standIn?, standIn?, ← Option.join_map_eq_map_join, ← Option.join_map_eq_map_join,
      Option.map_map, Option.map_map]
    exact congrArg Option.join (map_getElem?_modify hsharing q.index)
  others q hq := by
    have hne : p.index ≠ q.index := fun heq => hq (PartId.eq_of_index heq ▸ hp)
    rw [standIn?, Array.getElem?_modify, if_neg hne, standIn?]
  length := rfl
  defaults _ _ := rfl

end World

namespace Game

open World

lemma rewords_modifyLabel (id : PartId) (f : Label → Label) :
    Obeys (Rewords id) (modifyLabel id f) :=
  .modifyOwned (fun o => by dsimp only; cases o.part <;> rfl) fun o => by
    dsimp only; cases o.part <;> rfl

lemma rewords_setText (id : PartId) (text : Json) : Obeys (Rewords id) (setText id text) :=
  .bind (obeys_requires id _) fun _ => .bind (rewords_modifyLabel id _) fun _ =>
    .bind (obeys_label id) fun _ => .bind (.bind (.orAbsent _) fun _ => .lifts fun _ =>
      .lifts fun _ => .lift _) fun _ => .bind (rewords_modifyLabel id _) fun _ =>
      .modifyOwned (fun _ => rfl) fun _ => rfl

lemma rewords_typeInto (id : PartId) (typed : Json) : Obeys (Rewords id) (typeInto id typed) := by
  refine .bind (obeys_requires id _) fun _ => .bind (obeys_part id) fun p => ?_
  have hcut (text : Json) : Obeys (Rewords id) (do
      modifyLabel id ({ · with text })
      setText id text
      return true) :=
    .bind (rewords_modifyLabel id _) fun _ => .bind (rewords_setText id text) fun _ => .pure _
  cases p with
  | textField l field =>
    exact .ite (.pure _) <| .lifts fun _ => .bind (rewords_modifyLabel id _) fun _ =>
      .lifts fun _ => .lifts fun _ => .ite (.bind (.lift _) hcut) (.bind (.pure _) hcut)
  | _ => exact .throw _

lemma run_placeholder_eq_ok :
    (placeholder p).runOn w = (.ok ph, u) ↔ w.standIn? p = some ph ∧ u = w := by
  rw [standIn?_eq_some]
  exact run_part_bind_eq_ok fun part ph w u => by cases part <;> simp [eq_comm]

lemma retypes_setArgument (hp : w.selectedPart? = some p) (index : Nat) (value : String) :
    Retypes w ((setArgument p index value).runOn w).2 := by
  refine Ends.snd (.look (obeys_placeholder p) (.refl w) fun ph hph =>
    .look (obeys_argValues _) (.refl w) fun values _ => ?_)
  obtain ⟨hstandIn, -⟩ := run_placeholder_eq_ok.1 hph
  obtain ⟨o, ho, hpart⟩ := standIn?_eq_some.1 hstandIn
  by_cases hshort : values.length ≤ index
  · rw [if_pos hshort]
    exact .throw (.refl w)
  rw [if_neg hshort]
  obtain ⟨factory, args⟩ := ph
  cases args with
  | own old =>
    refine .of_ok rfl (.modifySelected hp (fun o' ho' => ?_) fun o' ho' => ?_)
    all_goals
      cases ho.symm.trans ho'
      rw [hpart]
      rfl
  | defaults k =>
    refine .of_ok rfl ⟨rfl, rfl, rfl, fun _ => rfl, fun _ => rfl, fun _ _ => rfl, List.length_set,
      fun j hj => ?_⟩
    have hk : w.selectedPart?.bind w.shares? = some k := by
      rw [hp, Option.bind_some, shares?, hstandIn]
      rfl
    have hne : k ≠ j := fun heq => hj (heq ▸ hk)
    exact List.getElem?_set_ne hne

lemma retypes_forM {γ : Type} {k : γ → Game PUnit} {cs : List γ} {P : World → Prop}
    (hP : ∀ w u, P w → Retypes w u → P u)
    (hk : ∀ c ∈ cs, ∀ w, P w → Retypes w ((k c).runOn w).2) (hw : P w) :
    Retypes w ((cs.forM k).runOn w).2 := by
  induction cs generalizing w with
  | nil => exact .refl w
  | cons c cs ih =>
    rw [run_forM_cons]
    refine snd_run_bind (P := Retypes w) (hk c (.head _) w hw) (fun _ hu => hu)
      fun _ u _ hu => ?_
    exact hu.trans (ih (fun c hc => hk c (.tail _ hc)) (hP w u hw hu))

lemma selectedPart?_of_find {e : EntityId} (he : w.editor.selected? = some e)
    (hp : (find e Part.isPlaceholder).runOn w = (.ok p, u)) : w.selectedPart? = some p := by
  obtain ⟨found?, hfind, hp⟩ := (obeys_find? e _).seen hp
  obtain ⟨rfl, -⟩ := run_orAbsent_eq_ok.1 hp
  rw [find?, run_get_bind] at hfind
  obtain ⟨en, hent, hfnd⟩ := (obeys_entity e).seen hfind
  obtain ⟨hen, -⟩ := run_entity_eq_ok.1 hent
  rw [selectedPart?, he, Option.bind_some, hen, Option.bind_some]
  exact Except.ok.inj (congrArg Prod.fst hfnd)

lemma retypes_saveArgs : Obeys Retypes saveArgs := by
  intro w
  refine Ends.snd (.step (run_get w) (.look (.orAbsent _) (.refl w) fun e he =>
    .look (obeys_find e _) (.refl w) fun p hp => .step (run_get w) ?_))
  have hselected := selectedPart?_of_find (run_orAbsent_eq_ok.1 he).1 hp
  -- the selected entity stays selected while its arguments are kept one after the other
  refine .of_snd (retypes_forM (P := fun w => w.selectedPart? = some p)
    (fun _ _ hw hu => hu.selectedPart?_eq.trans hw) (fun (field, index) _ w hw => ?_) hselected)
  refine Ends.snd (.look (obeys_label field) (.refl w) fun l _ => ?_)
  split
  · exact .of_snd (retypes_setArgument hw index _)
  · exact .throw (.refl w)

lemma retypes_enterText (text : Json) {id : PartId}
    (hid : w.reaction? id = none ∨ w.reaction? id = some .saveArgs) :
    Retypes w ((enterText text id).runOn w).2 := by
  refine Ends.snd (.watch (rewords_typeInto id text) (fun _ hu => hu.retypes) fun took u _ hu => ?_)
  replace hu := hu.retypes
  cases took with
  | false => exact .pure hu
  | true =>
    refine .look (obeys_part id) hu fun part hp => ?_
    obtain ⟨⟨o, ho, rfl⟩, -⟩ := run_part_eq_ok.1 hp
    split
    · rename_i action hfld
      have hreact : u.reaction? id = some action := by
        rw [reaction?, ho, Option.map_some, hfld]
        rfl
      rw [← hu.reaction id, hreact] at hid
      obtain rfl : action = .saveArgs := by simpa using hid
      exact (Ends.of_snd (retypes_saveArgs u)).mono (fun _ _ => hu.trans) fun _ => hu.trans
    · exact .pure hu

end Game

namespace World

open Game

/-- All that is typed goes into fields whose changes are kept for the selected entity, or lead to
nothing. -/
def FillsForm (w : World) : Prop :=
  ∀ f ∈ w.listeners, w.reaction? f = none ∨ w.reaction? f = some .saveArgs

instance : Decidable w.FillsForm :=
  inferInstanceAs (Decidable (∀ f ∈ w.listeners, _ ∨ _))

lemma FillsForm.retypes (h : w.FillsForm) (text : Json) :
    Retypes w ((typeText text).runOn w).2 := by
  refine Ends.snd (.step (run_get w) (.of_snd (retypes_forM
    (P := fun u => ∀ f ∈ w.listeners, u.reaction? f = none ∨ u.reaction? f = some .saveArgs)
    (fun v u hv hu f hf => ?_) (fun f hf u hu => retypes_enterText text (hu f hf)) h)))
  rw [hu.reaction f]
  exact hv f hf

lemma argsOf_eq (h : u.defaults = w.defaults) (args : Args) : u.argsOf args = w.argsOf args := by
  cases args with
  | own values => rfl
  | defaults k => rw [argsOf, h, argsOf]

lemma Retypes.argsAt?_eq (h : Retypes w u) (hdef : u.defaults = w.defaults)
    (hq : w.selectedPart? ≠ some q) : u.argsAt? q = w.argsAt? q := by
  rw [argsAt?, h.others q hq, argsAt?]
  simp only [argsOf_eq hdef]

lemma Retypes.defaults_eq (h : Retypes w u)
    (hk : ∀ k, w.selectedPart?.bind w.shares? = some k → u.defaults.getD k [] = w.defaults.getD k []) :
    u.defaults = w.defaults := by
  refine List.ext_getElem? fun k => ?_
  by_cases hshares : w.selectedPart?.bind w.shares? = some k
  · have hget := hk k hshares
    rw [List.getD_eq_getElem?_getD, List.getD_eq_getElem?_getD] at hget
    by_cases hlt : k < w.defaults.length
    · have hlt' : k < u.defaults.length := h.length.symm ▸ hlt
      rw [List.getElem?_eq_getElem hlt, List.getElem?_eq_getElem hlt'] at hget ⊢
      exact congrArg some hget
    · have hge : w.defaults.length ≤ k := Nat.le_of_not_lt hlt
      rw [List.getElem?_eq_none hge, List.getElem?_eq_none (h.length ▸ hge)]
  · exact h.defaults k hshares

lemma argsAt?_of_shares (h : w.shares? q = some k) : w.argsAt? q = some (w.defaults.getD k []) := by
  rw [shares?, Option.join_eq_some_iff, Option.map_eq_some_iff] at h
  obtain ⟨⟨factory, args⟩, hstandIn, hargs⟩ := h
  cases args with
  | own values => cases hargs
  | defaults k' =>
    cases hargs
    rw [argsAt?, hstandIn]
    rfl

/-- **Typing touches nobody but the selected entity exactly if its arguments are its own**, or it is
not touched either. The arguments of everybody else are meant, and the ones that the factories keep
for what is placed later. -/
theorem typing_touches_only_selected_iff (h : w.FillsForm) (hp : w.selectedPart? = some p)
    (text : Json) {r : Except Fault Unit} (hrun : (typeText text).runOn w = (r, u)) :
    (u.defaults = w.defaults ∧ ∀ q ≠ p, u.argsAt? q = w.argsAt? q) ↔
      w.shares? p = none ∨ u.argsAt? p = w.argsAt? p := by
  have hretypes : Retypes w u := by
    have htyped := h.retypes text
    rwa [hrun] at htyped
  constructor
  · rintro ⟨hdefaults, -⟩
    cases hk : w.shares? p with
    | none => exact .inl rfl
    | some k =>
      rw [argsAt?_of_shares hk, argsAt?_of_shares ((hretypes.shares?_eq p).trans hk), hdefaults]
      exact .inr rfl
  · intro hown
    have hdefaults : u.defaults = w.defaults := by
      refine hretypes.defaults_eq fun k hk => ?_
      rw [hp, Option.bind_some] at hk
      rw [hk, argsAt?_of_shares hk, argsAt?_of_shares ((hretypes.shares?_eq p).trans hk)] at hown
      simpa using hown
    refine ⟨hdefaults, fun q hq => hretypes.argsAt?_eq hdefaults ?_⟩
    rw [hp]
    exact fun heq => hq (Option.some.inj heq).symm

/-! A map with a teleporter, and two more that are placed beside it. -/

def gateBody : List UInt8 := plotBody ++ "4,2,0,b.map,2,3\x00".toUTF8.toList

/-- The map is loaded, and the teleporters are placed. -/
def gates : World :=
  ((do
    loadBinary ⟨0⟩ "a.map" gateBody
    setEntityNumber 4
    placeEntity (.num (.int 0)) (.num (.int 0))
    placeEntity (.num (.int 32)) (.num (.int 0)) : Game Unit).runOn plot).2

/-- The teleporter at a point is selected, and the first of its fields is clicked. -/
def gateForm (x : Int) : World :=
  ((do
    selectAt (.num (.int x)) (.num (.int 5))
    modifyInput ({ · with mouse := (.ok 300, .ok (.int (-40))), polledButtons := .ok [true] })
    (← get).editor.fields.forM update : Game Unit).runOn gates).2

def gateTyped (x : Int) : World := ((typeText (.str "x")).runOn (gateForm x)).2

lemma gateForm_facts : ((gateForm 70).FillsForm ∧ (gateForm 70).selectedPart? = some ⟨20⟩ ∧
      (gateForm 70).shares? ⟨20⟩ = none ∧ (gateForm 70).argsAt? ⟨20⟩ = some ["b.map", "2", "3"] ∧
      (gateTyped 70).argsAt? ⟨20⟩ = some ["b.mapx", "2", "3"]) ∧
    (gateForm 5).FillsForm ∧ (gateForm 5).selectedPart? = some ⟨22⟩ ∧
      (gateForm 5).argsAt? ⟨24⟩ = some ["forest.map", "1", "1"] ∧
      (gateTyped 5).argsAt? ⟨24⟩ = some ["forest.mapx", "1", "1"] ∧
      (gateForm 5).defaults[4]? = some ["forest.map", "1", "1"] ∧
      (gateTyped 5).defaults[4]? = some ["forest.mapx", "1", "1"] := by
  decide +kernel

/-- The teleporter of the map leads elsewhere once something is typed, and nobody else does. -/
theorem typing_touches_only_selected_gate :
    (gateTyped 70).argsAt? ⟨20⟩ ≠ (gateForm 70).argsAt? ⟨20⟩ ∧
      (gateTyped 70).defaults = (gateForm 70).defaults ∧
      ∀ q ≠ ⟨20⟩, (gateTyped 70).argsAt? q = (gateForm 70).argsAt? q := by
  obtain ⟨⟨hform, hselected, hown, hbefore, hafter⟩, -⟩ := gateForm_facts
  refine ⟨?_, (typing_touches_only_selected_iff hform hselected (.str "x") rfl).2 (.inl hown)⟩
  rw [hbefore, hafter]
  decide

/-- If a teleporter is selected that was placed, then the other one that was placed leads elsewhere
too, and so will all that are placed from now on. -/
theorem typing_touches_others_gate :
    (gateForm 5).FillsForm ∧ (gateForm 5).selectedPart? = some ⟨22⟩ ∧
      (gateTyped 5).argsAt? ⟨24⟩ ≠ (gateForm 5).argsAt? ⟨24⟩ ∧
      (gateTyped 5).defaults[4]? ≠ (gateForm 5).defaults[4]? := by
  obtain ⟨-, hform, hselected, hbefore, hafter, hkept, hlost⟩ := gateForm_facts
  rw [hbefore, hafter, hkept, hlost]
  exact ⟨hform, hselected, by decide, by decide⟩

end World

end TileQuest
