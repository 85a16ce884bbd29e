import TileQuest.Proofs.Registers.Showing

/-!
# Making what stands in an area

A factory makes the parts of an entity one after the other. Whatever of them is registered is
registered at once, before there is an entity it belongs to, so if the making broke off then, it
would stay registered. It never does: what can fail comes first (`Game.Builds`).
-/

namespace TileQuest

variable {k : PartId} {g' : Gist} {hitbox : Rect} {ids regs : List PartId} {rule : Rule}
variable {w0 w : World} {made : List (PartId × Gist)} {f : PartId → Game EntityId} {r : Register}
variable {file : String} {image : Image}

namespace World

variable {w' : World}

/-! ## Changes that last -/

lemma Lasting.withPart (w : World) (p : Part) : Lasting w (w.withPart p) where
  parts_le := by simp [World.withPart]
  entities_le := le_rfl
  essence i hi := by rw [getElem?_withPart_of_ne p hi.ne]
  entity _ _ := rfl
  active _ hp _ := hp
  drawn _ hp _ := hp
  overlay _ hp _ := hp

lemma Lasting.put (w : World) (r : Register) (ids : List PartId) : Lasting w (r.put w ids) := by
  cases r <;> exact ⟨le_rfl, le_rfl, fun _ _ => rfl, fun _ _ => rfl,
    fun _ hp _ => hp, fun _ hp _ => hp, fun _ hp _ => hp⟩

lemma Stays.put (w : World) (r : Register) (ids : List PartId) : Stays w (r.put w ids) := by
  cases r <;> exact .of_same rfl

lemma Stays.placed (w : World) (ids : List PartId) (x y : Json) : Stays w (w.placed ids x y) where
  areas := rfl
  area := rfl
  tools := rfl
  parts_le := (size_given _ ids _).ge
  entities_le := by simp [World.placed, given]
  parts _ he := partsOf_placed_of_lt he x y
  settled p _ _ hg := (gist?_given _ ids _ p).trans hg

lemma Stays.attached (h : Stays w0 w) {e : EntityId} (he : w0.entities.size ≤ e.index)
    (p : PartId) : Stays w0 (w.attached e p) where
  areas := h.areas
  area := h.area
  tools := h.tools
  parts_le := by simpa [World.attached, World.withOwner] using h.parts_le
  entities_le := by simpa [World.attached] using h.entities_le
  parts e' he' := by
    have hne : e' ≠ e := fun heq => he.not_gt (heq ▸ he')
    exact (partsOf_attached_of_ne hne p).trans (h.parts e' he')
  settled q g hg hq := (gist?_attached w e p q).trans (h.settled q g hg hq)

lemma Lists.attached {p : PartId} {g : Gist} (h : w.Lists p g) (e : EntityId) (q : PartId) :
    (w.attached e q).Lists p g :=
  .of_screen ((gist?_attached w e q p).trans h.gist) h.listed rfl

lemma gist?_placed (w : World) (ids : List PartId) (x y : Json) (p : PartId) :
    (w.placed ids x y).gist? p = w.gist? p := gist?_given _ ids _ p

def acting (w : World) (p : Part) : World :=
  { w.withPart p with active := w.active ++ [⟨w.parts.size⟩] }

lemma Steady.acting (w : World) (p : Part) : Steady (w.withPart p) (w.acting p) :=
  .of_grown rfl rfl rfl (fun _ hq => List.mem_append_left _ hq) (fun _ hq => hq) fun _ hq => hq

lemma mem_active_acting (w : World) (p : Part) : ⟨w.parts.size⟩ ∈ (w.acting p).active :=
  List.mem_append_right _ (.head _)

/-! ## The bench -/

/-- What holds while an entity is made, seen from the world before: parts were made that belong to
nobody, and are what they are; some of them are registered, beyond what is in the area. -/
structure Bench (rule : Rule) (w0 : World) (made : List (PartId × Gist)) (regs : List PartId)
    (w : World) : Prop where
  sound : w.Sound rule (w0.live ++ regs)
  stays : Stays w0 w
  loose : ∀ x ∈ made, w0.parts.size ≤ x.1.index ∧ w.ownerOf? x.1 = none ∧ w.Lists x.1 x.2
  nodup : (made.map Prod.fst).Nodup

/-- The making broke off, and the registers hold what is in the area. -/
def Left (rule : Rule) (w0 w : World) : Prop := w.Sound rule w0.live ∧ Stays w0 w

/-- An entity was made that may be put into the area. -/
structure Built (rule : Rule) (w0 : World) (e : EntityId) (w : World) : Prop where
  sound : w.Sound rule (w0.live ++ w.partsOf e)
  stays : Stays w0 w
  new : w0.entities.size ≤ e.index
  there : e.index < w.entities.size
  playing : ∀ p ∈ w.partsOf e, w.gist? p ≠ some .placeholder

section Bench

variable {regs' : List PartId}

lemma Bench.start (h : w0.AtRest rule) : Bench rule w0 [] [] w0 :=
  ⟨by rw [List.append_nil]; exact h.toSound, .refl w0, nofun, List.nodup_nil⟩

lemma Bench.left (h : Bench rule w0 made [] w) : Left rule w0 w :=
  ⟨by have hsound := h.sound; rwa [List.append_nil] at hsound, h.stays⟩

section

variable (h : Bench rule w0 made regs w)
include h

lemma Bench.of_lasting (hlast : Lasting w w')
    (hstays : Stays w w') (hsound : w'.Sound rule (w0.live ++ regs')) :
    Bench rule w0 made regs' w' where
  sound := hsound
  stays := h.stays.trans hstays
  loose x hx := by
    obtain ⟨hnew, hnob, hlists⟩ := h.loose x hx
    exact ⟨hnew, (hlast.ownerOf?_eq (lt_of_gist? hlists.gist)).trans hnob,
      hlists.of_lasting hlast⟩
  nodup := h.nodup

lemma Bench.of_steady (hst : Steady w w') : Bench rule w0 made regs w' :=
  h.of_lasting hst.toLasting hst.stays (h.sound.of_steady hst)

lemma Bench.add (hlast : Lasting w w') (hstays : Stays w w')
    (hsound : w'.Sound rule (w0.live ++ regs')) {p : PartId} {g : Gist}
    (hnew : w.parts.size ≤ p.index) (hnob : w'.ownerOf? p = none) (hlists : w'.Lists p g) :
    Bench rule w0 ((p, g) :: made) regs' w' where
  sound := hsound
  stays := h.stays.trans hstays
  loose x hx := by
    rcases List.mem_cons.1 hx with rfl | hx
    · exact ⟨h.stays.parts_le.trans hnew, hnob, hlists⟩
    · exact (h.of_lasting hlast hstays hsound).loose x hx
  nodup := by
    refine List.nodup_cons.2 ⟨fun hmem => ?_, h.nodup⟩
    obtain ⟨x, hx, heq : x.1 = p⟩ := List.mem_map.1 hmem
    exact hnew.not_gt (heq ▸ lt_of_gist? (h.loose x hx).2.2.gist)

lemma Bench.withPart {p : Part} (hfit : p.Fit) (htakes : w.Takes ⟨w.parts.size⟩ p.gist) :
    (w.withPart p).Sound rule (w0.live ++ regs) ∧ Stays w (w.withPart p) ∧
      Lasting w (w.withPart p) ∧ (w.withPart p).ownerOf? ⟨w.parts.size⟩ = none :=
  ⟨h.sound.withPart hfit htakes, .withPart w p, .withPart w p, by simp [World.withPart, ownerOf?]⟩

lemma Bench.enroll {p : Part} (hfit : p.Fit) (hr : p.gist.register? = some r) :
    Bench rule w0 ((⟨w.parts.size⟩, p.gist) :: made) (regs ++ [⟨w.parts.size⟩])
      (r.put (w.withPart p) (r.list (w.withPart p) ++ [⟨w.parts.size⟩])) := by
  have hplain : p.gist.kept = [] ∧ p.gist.window? = none ∧
      (∀ hud? bar? c health?, p.gist ≠ .player hud? bar? (some c) health?) ∧
      ∀ combat? e health?, p.gist ≠ .enemy combat? (some e) health? := by
    cases hg : p.gist with
    | body | trigger | usable => exact ⟨rfl, rfl, nofun, nofun⟩
    | _ => rw [hg] at hr; cases hr
  obtain ⟨hkept, hwin, hfight, haimed⟩ := hplain
  obtain ⟨hsound, hstays, hlast, hnob⟩ := h.withPart hfit
    (h.sound.toTied.takes_new (by rw [hkept]; exact List.nodup_nil) (by rw [hkept]; nofun) hwin
      hfight haimed)
  have hgist := gist?_withPart_self w p
  have hnot : ⟨w.parts.size⟩ ∉ w0.live ++ regs := fun hmem =>
    (h.sound.lt_of_mem hmem).false
  have hput := Lasting.put (w.withPart p) r (r.list (w.withPart p) ++ [⟨w.parts.size⟩])
  refine h.add (hlast.trans hput) (hstays.trans (.put _ r _)) ?_ le_rfl ?_ ?_
  · rw [← List.append_assoc]
    exact hsound.enroll hnot hgist hr
  · exact (hput.ownerOf?_eq (lt_of_gist? hgist)).trans hnob
  · refine ⟨hput.gist?_some hgist, ?_⟩
    cases hg : p.gist with
    | body | trigger | usable => trivial
    | _ => rw [hg] at hr; cases hr

end

end Bench

lemma Sound.enterAll {pre regs : List PartId} (h : w.Sound rule (pre ++ regs))
    (hsub : regs.Sublist ids) (hnd : (pre ++ ids).Nodup)
    (hids : ∀ p ∈ ids, p ∉ regs → ∃ g, w.gist? p = some g ∧ g.Ready w p ∧ g.register? = none ∧
      g ≠ .placeholder) : w.Sound rule (pre ++ ids) := by
  induction hsub generalizing pre with
  | slnil => exact h
  | @cons regs ids p hsub ih =>
    have hnd' : ((pre ++ [p]) ++ ids).Nodup := by simpa using hnd
    have hnot : p ∉ pre ++ ids := (List.nodup_middle.1 hnd).notMem
    have hnot' : p ∉ pre ++ regs := fun hmem =>
      hnot (List.mem_append.2 ((List.mem_append.1 hmem).imp_right (hsub.subset ·)))
    obtain ⟨g, hg, hrdy, hreg, hoth⟩ := hids p (.head _)
      fun hmem => hnot' (List.mem_append_right _ hmem)
    have hent : w.Sound rule ((pre ++ [p]) ++ regs) := by
      rw [List.append_assoc]
      exact h.enterPlain hnot' hg hrdy hreg hoth
    have hrest := ih hent hnd' fun q hq hqr => hids q (.tail _ hq) hqr
    rwa [List.append_assoc] at hrest
  | @cons_cons regs ids p hsub ih =>
    have hnd' : ((pre ++ [p]) ++ ids).Nodup := by simpa using hnd
    have hsound : w.Sound rule ((pre ++ [p]) ++ regs) := by simpa using h
    have hnot : p ∉ pre ++ ids := (List.nodup_middle.1 hnd).notMem
    have hrest := ih hsound hnd' fun q hq hqr => hids q (.tail _ hq) fun hmem => by
      rcases List.mem_cons.1 hmem with rfl | hmem
      · exact hnot (List.mem_append_right _ hq)
      · exact hqr hmem
    rwa [List.append_assoc] at hrest

/-- The part is not registered, and may get another sort. -/
structure Reforms (w : World) (regs : List PartId) (k : PartId) (g g' : Gist) (f : Part → Part) :
    Prop where
  spare : k ∉ regs
  view : ∀ items, g ≠ .view items
  idle : ∀ combat? other health?, g ≠ .enemy combat? (some other) health?
  fit : ∀ o, w.parts[k.index]? = some o → o.part.Fit → (f o.part).Fit ∧ (f o.part).gist = g'
  takes : w.Takes k g'
  listed : g'.Listed w k

lemma Sound.reform {g : Gist} {f : Part → Part}
    (h : w.Sound rule (w0.live ++ regs)) (h0 : w0.AtRest rule) (hstays : Stays w0 w)
    (hnew : w0.parts.size ≤ k.index) (hg : w.gist? k = some g) (hr : w.Reforms regs k g g' f) :
    (w.altered k f).Sound rule (w0.live ++ regs) ∧ Stays w0 (w.altered k f) ∧
      Changes w (w.altered k f) k g' := by
  obtain ⟨o, ho, -⟩ := gist?_eq_some.1 hg
  obtain ⟨hfit, hgist⟩ := hr.fit o ho (h.able k.index o ho).fit
  have hch : Changes w (w.altered k f) k g' := hgist ▸ changes_altered h.toTied ho hfit
  have hnot : k ∉ w0.live ++ regs := fun hmem => by
    rcases List.mem_append.1 hmem with hmem | hmem
    · exact hnew.not_gt (h0.toSound.lt_of_mem hmem)
    · exact hr.spare hmem
  refine ⟨h.change hnot hr.takes hch (fun items hits => ?_)
    (fun e _ => not_hunts hg hr.idle e) rfl fun _ => by rfl,
    hstays.trans (.altered hr.takes.unsettled), hch⟩
  exact absurd (Option.some.inj (hg.symm.trans hits)) (hr.view items)

/-! ## The entity -/

/-- What holds while an entity is set up, seen from the world before: its parts are known, and some
of them are registered, beyond what is in the area. -/
structure Staged (rule : Rule) (w0 : World) (me : EntityId) (made : List (PartId × Gist))
    (regs : List PartId) (w : World) : Prop where
  sound : w.Sound rule (w0.live ++ regs)
  stays : Stays w0 w
  mine : ∀ x ∈ made, w0.parts.size ≤ x.1.index ∧ w.ownerOf? x.1 = some me ∧ w.Lists x.1 x.2
  parts : w.partsOf me = made.map Prod.fst
  nodup : (made.map Prod.fst).Nodup
  new : w0.entities.size ≤ me.index
  there : me.index < w.entities.size
  unaimed : ∀ k combat? health?, w.gist? k ≠ some (.enemy combat? (some me) health?)

section Staged

variable {me : EntityId}

lemma Bench.stage (h : Bench rule w0 made regs w)
    (hlv : ∀ x ∈ made, x.2.isLeaver = false) (x y : Json) :
    Staged rule w0 ⟨w.entities.size⟩ made.reverse regs
      (w.placed (made.map Prod.fst).reverse x y) where
  sound := by
    refine h.sound.placed (fun p hp => ?_) (fun p hp g hg => ?_) x y
    · obtain ⟨z, hz, rfl⟩ := List.mem_map.1 (List.mem_reverse.1 hp)
      obtain ⟨-, hnob, hlists⟩ := h.loose z hz
      exact ⟨lt_of_gist? hlists.gist, hnob⟩
    · obtain ⟨z, hz, rfl⟩ := List.mem_map.1 (List.mem_reverse.1 hp)
      cases (h.loose z hz).2.2.gist.symm.trans hg
      exact hlv z hz
  stays := h.stays.trans (.placed w _ x y)
  mine z hz := by
    obtain ⟨hnew, -, hlists⟩ := h.loose z (List.mem_reverse.1 hz)
    have hmem : z.1 ∈ (made.map Prod.fst).reverse :=
      List.mem_reverse.2 (List.mem_map_of_mem (List.mem_reverse.1 hz))
    exact ⟨hnew, ownerOf?_given _ _ hmem (lt_of_gist? hlists.gist), Game.Lists.placed hlists _ x y⟩
  parts := by rw [partsOf_placed, List.map_reverse]
  nodup := by rw [List.map_reverse]; exact List.nodup_reverse.2 h.nodup
  new := h.stays.entities_le
  there := by simp [World.placed, given]
  unaimed k combat? health? hk := by
    rw [gist?_placed] at hk
    exact (h.sound.aimed k combat? _ health? hk).1.false

section

variable (h : Staged rule w0 me made regs w)
include h

lemma Staged.of_lasting (hlast : Lasting w w')
    (hstays : Stays w w') (hsound : w'.Sound rule (w0.live ++ regs))
    (hunaimed : ∀ k combat? health?, w'.gist? k ≠ some (.enemy combat? (some me) health?)) :
    Staged rule w0 me made regs w' where
  sound := hsound
  stays := h.stays.trans hstays
  mine x hx := by
    obtain ⟨hnew, hown, hlists⟩ := h.mine x hx
    exact ⟨hnew, hlast.ownerOf?_some hown, hlists.of_lasting hlast⟩
  parts := (hlast.partsOf_eq h.there).trans h.parts
  nodup := h.nodup
  new := h.new
  there := h.there.trans_le hlast.entities_le
  unaimed := hunaimed

lemma Staged.of_steady (hst : Steady w w') : Staged rule w0 me made regs w' :=
  h.of_lasting hst.toLasting hst.stays (h.sound.of_steady hst)
    fun k combat? health? hk => h.unaimed k combat? health? (hst.gist?_of_not_plain hk rfl)

lemma Staged.nodup_append (h0 : w0.AtRest rule) : (w0.live ++ made.map Prod.fst).Nodup := by
  refine List.nodup_append.2 ⟨h0.nodup, h.nodup, ?_⟩
  rintro p hp _ hq rfl
  obtain ⟨x, hx, rfl⟩ := List.mem_map.1 hq
  exact (h.mine x hx).1.not_gt (h0.toSound.lt_of_mem hp)

lemma Staged.built (h0 : w0.AtRest rule) (hregs : regs.Sublist (made.map Prod.fst))
    (hrdy : ∀ x ∈ made, x.2 ≠ .placeholder ∧
      (x.1 ∉ regs → x.2.Ready w x.1 ∧ x.2.register? = none)) : Built rule w0 me w where
  sound := by
    rw [h.parts]
    refine h.sound.enterAll hregs (h.nodup_append h0) fun p hp hnot => ?_
    obtain ⟨x, hx, rfl⟩ := List.mem_map.1 hp
    obtain ⟨hoth, hrdy'⟩ := hrdy x hx
    exact ⟨x.2, (h.mine x hx).2.2.gist, (hrdy' hnot).1, (hrdy' hnot).2, hoth⟩
  stays := h.stays
  new := h.new
  there := h.there
  playing p hp := by
    obtain ⟨x, hx, rfl⟩ := List.mem_map.1 (h.parts ▸ hp)
    rw [(h.mine x hx).2.2.gist]
    exact fun heq => (hrdy x hx).1 (Option.some.inj heq)

lemma Staged.join (h0 : w0.Tied) {p : Part} (hfit : p.Fit)
    {onDeath : Death} (hg : p.gist = .fighter onDeath none none)
    (hpl : onDeath = .leave → ∀ x ∈ made, x.2.isPlayer = false)
    (hhost : ∃ x ∈ made, x.2.isHost = true) :
    Staged rule w0 me (made ++ [(⟨w.parts.size⟩, .fighter onDeath none none)]) regs
      ((w.acting p).attached me ⟨w.parts.size⟩) := by
  let c : PartId := ⟨w.parts.size⟩
  let u : World := w.acting p
  have hgrown : Steady (w.withPart p) u := .acting w p
  have hlast : Lasting w u := (Lasting.withPart w p).trans hgrown.toLasting
  have hsound : u.Sound rule (w0.live ++ regs) := by
    refine (h.sound.withPart hfit ?_).of_steady hgrown
    refine h.sound.toTied.takes_new ?_ ?_ ?_ ?_ ?_
    · rw [hg]; exact List.nodup_nil
    · rw [hg]; nofun
    · rw [hg]; rfl
    · rw [hg]; nofun
    · rw [hg]; nofun
  have hgist : u.gist? c = some (.fighter onDeath none none) :=
    (gist?_withPart_self w p).trans (congrArg some hg)
  have hnob : u.ownerOf? c = none := by simp [u, c, acting, World.withPart, ownerOf?]
  have hcases {k : PartId} {g : Gist} (hk : u.gist? k = some g) :
      k = c ∧ g = .fighter onDeath none none ∨ w.gist? k = some g := by
    rcases (changes_withPart h.sound.toTied hfit).cases hk with ⟨rfl, rfl⟩ | ⟨-, hk⟩
    · exact .inl ⟨rfl, hg⟩
    · exact .inr hk
  have hstg : Staged rule w0 me made regs u := by
    refine h.of_lasting hlast ((Stays.withPart w p).trans hgrown.stays) hsound ?_
    intro k combat? health? hk
    rcases hcases hk with ⟨-, heq⟩ | hk
    · cases heq
    · exact h.unaimed k combat? health? hk
  have hne {x : PartId × Gist} (hx : x ∈ made) : x.1 ≠ c := by
    intro heq
    have hlt := lt_of_gist? (h.mine x hx).2.2.gist
    rw [heq] at hlt
    exact hlt.false
  have hth : c.index < u.parts.size := lt_of_gist? hgist
  refine ⟨?_, hstg.stays.attached h.new c, ?_, ?_, ?_, h.new, ?_, ?_⟩
  · obtain ⟨x, hx, hxhost⟩ := hhost
    refine hsound.attached hnob hgist rfl (fun hlv => ⟨?_, hstg.unaimed⟩) ?_ ⟨x.1, ?_, x.2,
      (hstg.mine x hx).2.2.gist, hxhost⟩
    · intro q hq g hq'
      obtain ⟨x, hx, rfl⟩ := List.mem_map.1 (hstg.parts ▸ hq)
      cases (hstg.mine x hx).2.2.gist.symm.trans hq'
      cases onDeath with
      | restart => cases hlv
      | leave => exact hpl rfl x hx
      | _ => cases hlv
    · rw [hstg.stays.tools]
      exact fun hme => h.new.not_gt (h0.tools me hme).1
    · rw [hstg.parts]
      exact List.mem_map_of_mem hx
  · intro x hx
    rcases List.mem_append.1 hx with hx | hx
    · obtain ⟨hnew, hown, hlists⟩ := hstg.mine x hx
      exact ⟨hnew, (ownerOf?_withOwner_of_ne (hne hx) _).trans hown, hlists.attached me c⟩
    · cases List.mem_singleton.1 hx
      exact ⟨h.stays.parts_le, ownerOf?_withOwner_self hth _, Lists.attached
        ⟨hgist, mem_active_acting w p⟩ me c⟩
  · rw [partsOf_attached_self hstg.there, hstg.parts, List.map_append]
    rfl
  · rw [List.map_append]
    refine List.nodup_append.2 ⟨h.nodup, List.nodup_singleton _, ?_⟩
    rintro q hq _ hc rfl
    obtain ⟨x, hx, rfl⟩ := List.mem_map.1 hq
    exact hne hx (List.mem_singleton.1 hc)
  · simpa [World.attached] using hstg.there
  · intro k combat? health? hk
    exact hstg.unaimed k combat? health? ((gist?_attached u me c k).symm.trans hk)

end

lemma Staged.set (pre post : List (PartId × Gist)) {g : Gist} {f : Part → Part}
    (h : Staged rule w0 me (pre ++ (k, g) :: post) regs w) (h0 : w0.AtRest rule)
    (hr : w.Reforms regs k g g' f)
    (haimed : ∀ combat? health?, g' ≠ .enemy combat? (some me) health?) :
    Staged rule w0 me (pre ++ (k, g') :: post) regs (w.altered k f) := by
  obtain ⟨hnew, hown, hlists⟩ := h.mine (k, g) (by simp)
  obtain ⟨hsound, hstays, hch⟩ := h.sound.reform h0 h.stays hnew hlists.gist hr
  have hkeys : (pre ++ (k, g') :: post).map Prod.fst = (pre ++ (k, g) :: post).map Prod.fst := by
    simp
  have hoth {x : PartId × Gist} (hx : x ∈ pre ++ post) : x.1 ≠ k := fun heq => by
    have hnd := h.nodup
    rw [List.map_append, List.map_cons, List.nodup_middle, ← List.map_append] at hnd
    exact (List.nodup_cons.1 hnd).1 (List.mem_map.2 ⟨x, hx, heq⟩)
  refine ⟨hsound, hstays, fun x hx => ?_, ?_, ?_, h.new, h.there, fun k' combat? health? hk' => ?_⟩
  · rcases List.mem_cons.1 (List.perm_middle.mem_iff.1 hx) with rfl | hx
    · exact ⟨hnew, hch.owner _ _ hown, .of_screen hch.new hr.listed rfl⟩
    · obtain ⟨hnew', hown', hlists'⟩ :=
        h.mine x (List.perm_middle.mem_iff.2 (.tail _ hx))
      exact ⟨hnew', hch.owner _ _ hown',
        .of_screen ((hch.gist _ (hoth hx)).trans hlists'.gist) hlists'.listed rfl⟩
  · rw [hkeys]
    exact h.parts
  · rw [hkeys]
    exact h.nodup
  · rcases hch.cases hk' with ⟨rfl, heq⟩ | ⟨-, hk'⟩
    · exact haimed combat? health? heq.symm
    · exact h.unaimed k' combat? health? hk'

end Staged

end World

namespace Game

open World

/-! ## Steps on the bench -/

/-- The step completes wherever it is done. -/
def Sure {α : Type} (g : Game α) : Prop := ∀ w, ∃ a w', g.runOn w = (.ok a, w')

lemma Sure.bind {α β : Type} {g : Game α} {f : α → Game β} (hg : Sure g) (hf : ∀ a, Sure (f a)) :
    Sure (g >>= f) := by
  intro w
  obtain ⟨a, u, hrun⟩ := hg w
  obtain ⟨b, w', hrun'⟩ := hf a u
  exact ⟨b, w', (bind_ok hrun).trans hrun'⟩

/-- With the parts made so far, the step makes an entity that may be put into the area, or breaks off
while no more is registered than what is in the area. -/
structure Builds (rule : Rule) (w0 : World) (made : List (PartId × Gist)) (regs : List PartId)
    (g : Game EntityId) : Prop where
  ends : ∀ w, Bench rule w0 made regs w → Ends w g (Built rule w0) (Left rule w0)

section Builds

variable {α : Type} {gist : Gist} {g : Game PartId}

lemma Builds.bind {g : Game α} {f : α → Game EntityId} (hg : Obeys Steady g)
    (hsure : regs = [] ∨ Sure g) (hf : ∀ a, Builds rule w0 made regs (f a)) :
    Builds rule w0 made regs (g >>= f) := by
  refine ⟨fun w hw => ?_⟩
  rcases hsure with rfl | hsure
  · refine Ends.bind (.of_obeys hg (fun _ _ hu => hw.of_steady hu)
      fun _ hu => (hw.of_steady hu).left) fun a => (hf a).ends
  · obtain ⟨a, u, hrun⟩ := hsure w
    exact .step hrun ((hf a).ends u (hw.of_steady (hg.of_run hrun)))

lemma Crafts.bench (hg : Crafts gist g) {u : World} {id : PartId}
    (hrun : g.runOn w = (.ok id, u)) (h : Bench rule w0 made regs w) :
    Bench rule w0 ((id, gist) :: made) regs u := by
  have hst : Steady w u := hg.steady.of_run hrun
  obtain ⟨hloose, hlists⟩ := hg.made w u id hrun
  obtain ⟨⟨hnew, -⟩, hnob⟩ := hloose id (.head _)
  exact h.add hst.toLasting hst.stays (h.sound.of_steady hst) hnew hnob hlists

lemma Builds.part (hg : Crafts gist g) (hsure : regs = [] ∨ Sure g)
    (hf : ∀ id, Builds rule w0 ((id, gist) :: made) regs (f id)) :
    Builds rule w0 made regs (g >>= f) := by
  refine ⟨fun w hw => ?_⟩
  cases hrun : g.runOn w with
  | mk r u =>
    cases r with
    | ok id => exact .step hrun ((hf id).ends u (hg.bench hrun hw))
    | error fault =>
      rcases hsure with rfl | hsure
      · have hleft := (hw.of_steady (hg.steady.of_run hrun)).left
        exact .of_error (by rw [run_bind, hrun]) hleft
      · obtain ⟨id, u', hok⟩ := hsure w
        cases hok.symm.trans hrun

lemma Builds.enroll {p : Part} (hfit : p.Fit) (hr : p.gist.register? = some r)
    {enlist : PartId → Game Unit}
    (henlist : ∀ w id, (enlist id).runOn w = (.ok (), r.put w (r.list w ++ [id])))
    (hf : ∀ id, Builds rule w0 ((id, p.gist) :: made) (regs ++ [id]) (f id)) :
    Builds rule w0 made regs ((newPart p >>= fun id => enlist id >>= fun _ => pure id) >>= f) := by
  refine ⟨fun w hw => .step (a := ⟨w.parts.size⟩) ?_ ((hf _).ends _ (hw.enroll hfit hr))⟩
  exact bind_ok (henlist (w.withPart p) ⟨w.parts.size⟩)

lemma Builds.lift {x : Except Fault α} {f : α → Game EntityId}
    (hf : ∀ a, x = .ok a → Builds rule w0 made [] (f a)) : Builds rule w0 made [] (liftM x >>= f) :=
  ⟨fun w hw => .lift (fun _ _ => hw.left) fun a ha => (hf a ha).ends w hw⟩

end Builds

/-! ## Entities that need no setting up -/

lemma run_setUp {p : PartId} {g : Gist} (hg : w.gist? p = some g)
    (hidle : (∃ isOverlay, g = .image isOverlay) ∨ ∃ r, g.register? = some r) :
    (setUp p).runOn w = (.ok (), w) := by
  obtain ⟨o, ho, rfl⟩ := gist?_eq_some.1 hg
  rw [setUp, bind_ok (run_part ho)]
  cases hp : o.part with
  | scrollView | player | enemy | placeholder | probe => rw [hp] at hidle; rcases hidle with ⟨_, h⟩ | ⟨_, h⟩ <;> cases h
  | _ => rfl

lemma run_setUpAll (hids : ∀ p ∈ ids, ∃ g, w.gist? p = some g ∧
      ((∃ isOverlay, g = .image isOverlay) ∨ ∃ r, g.register? = some r)) :
    (ids.forM setUp).runOn w = (.ok ⟨⟩, w) := by
  induction ids with
  | nil => rfl
  | cons p ids ih =>
    obtain ⟨g, hg, hidle⟩ := hids p (.head _)
    rw [run_forM_cons, bind_ok (run_setUp hg hidle)]
    exact ih fun q hq => hids q (.tail _ hq)

lemma Builds.spawn (h0 : w0.AtRest rule)
    (hids : ids = (made.map Prod.fst).reverse) (hregs : regs.Sublist ids)
    (hk : ∀ x ∈ made, x.2 = .image false ∨ x.1 ∈ regs ∧ ∃ r, x.2.register? = some r)
    (x y : Json) : Builds rule w0 made regs (spawn ids x y) := by
  refine ⟨fun w hw => ?_⟩
  subst hids
  have hstg := hw.stage (fun z hz => ?_) x y
  · refine .step (run_placeParts w _ x y) (.step (run_setUpAll fun p hp => ?_) ?_)
    · obtain ⟨z, hz, rfl⟩ := List.mem_map.1 (List.mem_reverse.1 hp)
      exact ⟨z.2, (hstg.mine z (List.mem_reverse.2 hz)).2.2.gist,
        (hk z hz).imp (fun h => ⟨_, h⟩) And.right⟩
    · rw [← List.map_reverse] at hregs
      refine .of_ok rfl (hstg.built h0 hregs fun z hz => ?_)
      have hlists := (hstg.mine z hz).2.2
      rcases hk z (List.mem_reverse.1 hz) with himg | ⟨hmem, r, hr⟩
      · rw [himg] at hlists ⊢
        exact ⟨nofun, fun _ => ⟨⟨rfl, hlists.listed⟩, rfl⟩⟩
      · refine ⟨fun heq => ?_, fun hnot => absurd hmem hnot⟩
        rw [heq] at hr
        cases hr
  · rcases hk z hz with himg | ⟨-, r, hr⟩
    · rw [himg]
      rfl
    · cases hg : z.2 with
      | fighter => rw [hg] at hr; cases hr
      | _ => rfl

/-! ## Factories -/

section Factories

lemma Builds.body (hsmall : hitbox.IsSmall)
    (hf : ∀ id, Builds rule w0 ((id, .body hitbox) :: made) (regs ++ [id]) (f id)) :
    Builds rule w0 made regs (newBody hitbox >>= f) :=
  .enroll (p := .body hitbox) (r := .bodies) hsmall rfl (fun _ _ => rfl) hf

lemma Builds.trigger {form : TriggerForm} (hsmall : hitbox.IsSmall)
    (hf : ∀ id, Builds rule w0 ((id, .trigger hitbox) :: made) (regs ++ [id]) (f id)) :
    Builds rule w0 made regs (newTrigger hitbox form >>= f) :=
  .enroll (p := .trigger hitbox form) (r := .triggers) hsmall rfl (fun _ _ => rfl) hf

lemma Builds.usable {name : Json} {form : UsableForm}
    (hf : ∀ id, Builds rule w0 ((id, .usable) :: made) (regs ++ [id]) (f id)) :
    Builds rule w0 made regs (newUsable name form >>= f) :=
  .enroll (p := .usable { name, form }) (r := .usables) trivial rfl (fun _ _ => rfl) hf

end Factories

lemma sure_loadSound (hf : file ∈ soundFiles) (volume : Json) :
    Sure (loadSound file volume) := by
  intro w
  rw [loadSound, if_neg (not_not_intro hf)]
  exact ⟨_, _, rfl⟩

lemma sure_newSprite (h : Image.load file = .ok image)
    (isOverlay : Bool) : Sure (newSprite file isOverlay) := by
  intro w
  rw [newSprite, loadImage, h]
  cases isOverlay <;> exact ⟨_, _, rfl⟩

lemma builds_makeTree (h0 : w0.AtRest rule) : Builds rule w0 [] [] makeTree := by
  rw [makeTree]
  refine .part (crafts_newSprite _ _) (.inl rfl) fun look => ?_
  refine .body (by decide) fun body => ?_
  simp only [newTree, bind_assoc, pure_bind]
  refine .usable fun usable => ?_
  refine .bind (obeys_loadSound _ _) (.inr (sure_loadSound (by simp [soundFiles]) _)) fun _ => ?_
  refine .spawn h0 rfl (by simp) ?_ 0 0
  simp [Gist.register?]

lemma builds_makeRock (h0 : w0.AtRest rule) : Builds rule w0 [] [] makeRock := by
  rw [makeRock]
  refine .part (crafts_newSprite _ _) (.inl rfl) fun look => ?_
  refine .body (by decide) fun body => ?_
  simp only [newRock, bind_assoc, pure_bind]
  refine .usable fun usable => ?_
  refine .bind (obeys_loadSound _ _) (.inr (sure_loadSound (by simp [soundFiles]) _)) fun _ => ?_
  refine .spawn h0 rfl (by simp) ?_ 0 0
  simp [Gist.register?]

lemma builds_makeTeleporter (h0 : w0.AtRest rule) {icon : String}
    (hi : Image.load icon = .ok image) (args : Json) :
    Builds rule w0 [] [] (makeTeleporter icon args) := by
  rw [makeTeleporter]
  refine .lift fun file _ => .lift fun column _ => .lift fun row _ => ?_
  simp only [newTeleporter, bind_assoc, pure_bind]
  refine .trigger (by decide) fun trigger => ?_
  refine .bind (obeys_print _) (.inr fun w => ⟨_, _, rfl⟩) fun _ => ?_
  refine .part (crafts_newSprite _ _) (.inr (sure_newSprite hi _)) fun look => ?_
  refine .spawn h0 rfl (by simp) ?_ 0 0
  simp [Gist.register?]

lemma exists_image_of_item {item : ItemType} (hi : item ∈ ItemType.all) :
    ∃ image, Image.load item.icon = .ok image := by
  have hall : ∀ item ∈ ItemType.all, (Image.load item.icon).isOk = true := by decide +kernel
  have hok := hall item hi
  cases hl : Image.load item.icon with
  | ok image => exact ⟨image, rfl⟩
  | error fault => rw [hl] at hok; cases hok

lemma builds_makeDropped (h0 : w0.AtRest rule) (args : Json) :
    Builds rule w0 [] [] (makeDropped args) := by
  rw [makeDropped]
  refine .lift fun _ _ => .lift fun _ _ => .lift fun item hi => .lift fun _ _ => .lift fun _ _ => ?_
  obtain ⟨image, himg⟩ := exists_image_of_item (mem_of_entry hi)
  refine .trigger (by decide) fun trigger => ?_
  refine .part (crafts_newSprite _ _) (.inr (sure_newSprite himg _)) fun look => ?_
  refine .spawn h0 rfl (by simp) ?_ 0 0
  simp [Gist.register?]

lemma builds_makeCharacter (h0 : w0.AtRest rule) (args : Json) :
    Builds rule w0 [] [] (makeCharacter args) := by
  rw [makeCharacter]
  refine .lift fun _ _ => .lift fun _ _ => ?_
  refine .part (crafts_newSprite _ _) (.inl rfl) fun look => ?_
  refine .lift fun name _ => .lift fun _ _ => ?_
  refine .usable fun usable => ?_
  refine .spawn h0 rfl (by simp) ?_ 0 0
  simp [Gist.register?]

end Game

end TileQuest
