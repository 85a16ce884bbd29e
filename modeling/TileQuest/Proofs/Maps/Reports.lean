import TileQuest.Proofs.Maps.Crafting

/-!
# Records that are reported

A record of a map file that cannot be made is reported and passed over. What it made before it
failed is not taken back. Most records make nothing until all that can fail has been done. But the
record of a player puts the player among the active objects before it looks for the name of its area,
and the record of a character draws its image before it asks for its third argument
(`MapFile.isTorn`).
-/

namespace TileQuest

variable {p : PartId} {line : String} {w u : World} {a : AreaId}

/-! ## Records -/

namespace MapFile

def asksFor (k : Nat) (line : String) : Bool :=
  match Record.ofLine line with
  | .ok r => match r.factory.toIndex with
    | .ok i => signedIndex? Factory.all.length i == some k
    | .error _ => false
  | .error _ => false

/-- The line is the record of a character with an image that can be loaded, without a third
argument. -/
def isTorn (line : String) : Bool :=
  asksFor 8 line && match Record.ofLine line with
    | .ok r => match r.args with
      | [_, file] => (Image.load file).isOk
      | _ => false
    | .error _ => false

lemma asksFor_eq_true {k : Nat} (h : asksFor k line = true) :
    ∃ r i, Record.ofLine line = .ok r ∧ r.factory.toIndex = .ok i ∧
      signedIndex? Factory.all.length i = some k := by
  rw [asksFor] at h
  cases hr : Record.ofLine line with
  | error fault => rw [hr] at h; cases h
  | ok r =>
    rw [hr] at h
    dsimp only at h
    cases hi : r.factory.toIndex with
    | error fault => rw [hi] at h; cases h
    | ok i =>
      rw [hi] at h
      exact ⟨r, i, rfl, hi, eq_of_beq h⟩

lemma exists_toIndex {r : Record} (h : Record.ofLine line = .ok r) :
    ∃ i, r.factory.toIndex = .ok i := by
  rw [Record.ofLine] at h
  obtain ⟨_, -, h⟩ := bind_eq_ok.1 h
  obtain ⟨n, -, h⟩ := bind_eq_ok.1 h
  obtain ⟨_, -, h⟩ := bind_eq_ok.1 h
  obtain ⟨_, -, h⟩ := bind_eq_ok.1 h
  obtain ⟨_, -, h⟩ := bind_eq_ok.1 h
  obtain ⟨_, -, h⟩ := bind_eq_ok.1 h
  cases h
  exact ⟨n, rfl⟩

lemma isTorn_eq_true (h : isTorn line = true) :
    ∃ r i name file image, Record.ofLine line = .ok r ∧ r.factory.toIndex = .ok i ∧
      signedIndex? Factory.all.length i = some 8 ∧ r.args = [name, file] ∧
        Image.load file = .ok image := by
  rw [isTorn, Bool.and_eq_true] at h
  obtain ⟨r, i, hr, hi, hk⟩ := asksFor_eq_true h.1
  have hargs := h.2
  rw [hr] at hargs
  dsimp only at hargs
  split at hargs
  · rename_i name file heq
    cases hl : Image.load file with
    | ok image => exact ⟨r, i, name, file, image, hr, hi, hk, heq, hl⟩
    | error fault => rw [hl] at hargs; cases hargs
  · cases hargs

end MapFile

namespace Game

open World

section

variable (hplay : w.areas[a.index]?.map Area.isEdited = some false)
include hplay

lemma ends_loadRecord_of_make
    {r : MapFile.Record} (hr : MapFile.Record.ofLine line = .ok r) {i : Int}
    (hi : r.factory.toIndex = .ok i) {P : World → Prop} {E : World → Prop}
    (hmake : Ends w (makeEntity i (.arr (r.args.map .str))) (fun _ => P) E) :
    Ends w (loadRecord a line) (fun _ u' => ∃ u, P u ∧ Tidies u u') E := by
  obtain ⟨ar, har, hedit⟩ := Option.map_eq_some_iff.1 hplay
  rw [loadRecord]
  refine .passed hr (.step (run_area har) ?_)
  rw [if_neg (by simp [hedit])]
  refine .passed hi ?_
  simp only [createEntity, moveToTile, bind_assoc, pure_bind]
  refine hmake.bind fun e u hu => ?_
  refine .passed (a := .num (.int (r.column * 32))) rfl (.step rfl ?_)
  refine .passed (a := .num (.int (r.row * 32))) rfl (.step rfl (.of_ok rfl ⟨u, hu, ?_⟩))
  have hmoved : Tidies u { u with entities := (u.entities.modify e.index ({ · with
      x := .num (.int (r.column * 32)) })).modify e.index ({ · with y := .num (.int (r.row * 32)) }) } :=
    .of_same rfl
  exact hmoved.tidies (.modifyArea fun _ => rfl)

lemma ends_loadRecord_of_torn (htorn : MapFile.isTorn line = true) :
    Ends w (loadRecord a line) (fun _ _ => False)
      fun u => ∃ file image, Image.load file = .ok image ∧ u = w.withSprite file image := by
  obtain ⟨r, i, name, file, image, hr, hi, hk, hargs, himg⟩ := MapFile.isTorn_eq_true htorn
  refine (ends_loadRecord_of_make hplay hr hi (P := fun _ => False) ?_).mono
    (fun _ _ hu => hu.elim fun _ h => h.1) fun _ hu => hu
  rw [makeEntity, hk, hargs]
  refine .passed (a := .str file) rfl (.passed (a := file) rfl (.step (run_newSprite himg) ?_))
  exact .passed (a := .str name) rfl (.of_error (rfl : _ = (Except.error Fault.outOfRange, _)) ⟨file, image, himg, rfl⟩)

lemma ends_loadRecord_of_player (hpl : MapFile.asksFor 0 line = true) :
    Ends w (loadRecord a line) (fun _ => Tidies w)
      (Tidied { w with active := w.active ++ [⟨w.parts.size⟩] } []) := by
  obtain ⟨r, i, hr, hi, hk⟩ := MapFile.asksFor_eq_true hpl
  refine (ends_loadRecord_of_make hplay hr hi (P := Tidies w) ?_).mono
    (fun _ _ ⟨_, hu, hu'⟩ => hu.tidies hu') fun _ hu => hu
  rw [makeEntity, hk]
  exact (ends_makePlayer_tidied w).mono
    (fun _ _ hu => (Tidied.act w ⟨w.parts.size⟩).tidies hu) fun _ hu => hu

lemma ends_loadRecord_of_whole
    (htorn : MapFile.isTorn line = false) (hpl : MapFile.asksFor 0 line = false) :
    Ends w (loadRecord a line) (fun _ => Tidies w) (· = w) := by
  cases hr : MapFile.Record.ofLine line with
  | error fault => exact .lift (fun _ _ => rfl) fun r hr' => by cases hr.symm.trans hr'
  | ok r =>
    obtain ⟨i, hi⟩ := MapFile.exists_toIndex hr
    have hasks {k : Nat} (hk : signedIndex? Factory.all.length i = some k) :
        MapFile.asksFor k line = true := by
      simp [MapFile.asksFor, hr, hi, hk]
    have htele (name : String) {icon : String}
        (h : Factory.teleporter name icon ∈ Factory.all) :
        Ends w (makeTeleporter icon (.arr (r.args.map .str))) (fun _ => Tidies w) (· = w) := by
      obtain ⟨image, himg⟩ := load_icon h
      exact ends_makeTeleporter_tidied w himg _
    refine (ends_loadRecord_of_make hplay hr hi (P := Tidies w) ?_).mono
      (fun _ _ ⟨_, hu, hu'⟩ => hu.tidies hu') fun _ hu => hu
    rw [makeEntity]
    split
    · rename_i hk
      cases hpl.symm.trans (hasks hk)
    · exact (ends_makeTree_tidied w).mono (fun _ _ hu => hu) fun _ hu => hu.elim
    · exact (ends_makeRock_tidied w).mono (fun _ _ hu => hu) fun _ hu => hu.elim
    · exact htele "Teleporter Up" (by simp [Factory.all])
    · exact htele "Teleporter Right" (by simp [Factory.all])
    · exact htele "Teleporter Down" (by simp [Factory.all])
    · exact htele "Teleporter Left" (by simp [Factory.all])
    · exact ends_makeDropped_tidied w _
    · rename_i hk
      refine (ends_makeCharacter_tidied w r.args).mono (fun _ _ hu => hu) ?_
      rintro u (rfl | ⟨name, file, image, hargs, himg, -⟩)
      · rfl
      · have hall : MapFile.isTorn line = true := by
          rw [MapFile.isTorn, hasks hk, hr]
          simp [hargs, himg, Except.isOk, Except.toBool]
        cases htorn.symm.trans hall
    · exact ends_makeEnemy_tidied w _
    · exact .throw rfl

end

/-! ## All records of a file -/

/-- What is done about a line: the fault of its record is noted. -/
def loadLine (a : AreaId) (line : String) : Game Unit :=
  tryCatch (loadRecord a line) fun fault =>
    note (.fault ("Error parsing line: " ++ line ++ ". ") fault "")

end Game

namespace World

variable {w' : World}

/-- Something is drawn that belongs to nobody. -/
structure IsStray (w : World) (p : PartId) : Prop where
  drawn : p ∈ w.drawn
  there : p.index < w.parts.size
  nobody : w.ownerOf? p = none

lemma IsStray.of_tidied {loose : List PartId} (h : w.IsStray p)
    (h' : Tidied w loose w') : w'.IsStray p :=
  ⟨h'.drawn h.drawn, h.there.trans_le h'.parts_le, (h'.owner p h.there).trans h.nobody⟩

lemma IsStray.not_housed (h : w.IsStray p) : ¬ w.Housed := fun hw => by
  obtain ⟨e, he⟩ := hw p (List.mem_append_left _ h.drawn)
  cases h.nobody.symm.trans he

end World

namespace Game

open World

variable {v : World}

lemma exists_loadLine (hplay : w.areas[a.index]?.map Area.isEdited = some false) (line : String) :
    ∃ u strays, (loadLine a line).runOn w = (.ok (), u) ∧ Tidied w strays u ∧
      (∀ p ∈ strays, u.IsStray p) ∧ strays.length = if MapFile.isTorn line then 1 else 0 := by
  have hnote (u : World) (n : Notice) : Tidies u { u with log := n :: u.log } := .of_same rfl
  rcases hrun : (loadRecord a line).runOn w with ⟨fault | _, u⟩
  · let n : Notice := .fault ("Error parsing line: " ++ line ++ ". ") fault ""
    have hl : (loadLine a line).runOn w = (.ok (), { u with log := n :: u.log }) := by
      rw [loadLine, run_tryCatch, hrun]
      rfl
    cases htorn : MapFile.isTorn line with
    | true =>
      obtain ⟨file, image, himg, rfl⟩ := (ends_loadRecord_of_torn hplay htorn).error _ _ hrun
      have hrun' := run_newSprite (w := w) himg
      have htidied := (hangs_newSprite file false w).ok _ _ hrun'
      refine ⟨_, [⟨w.parts.size⟩], hl, htidied.tidies (hnote _ n), fun p hp => ?_, rfl⟩
      obtain rfl := List.mem_singleton.1 hp
      obtain ⟨hnew, hnob⟩ := fresh_newSprite file false w _ _ hrun'
      exact ⟨by simp [withSprite], (hnew _ hp).2, hnob⟩
    | false =>
      refine ⟨_, [], hl, ?_, by simp, rfl⟩
      cases hpl : MapFile.asksFor 0 line with
      | true =>
        have hu := (ends_loadRecord_of_player hplay hpl).error _ _ hrun
        exact ((Tidied.act w ⟨w.parts.size⟩).tidies hu).tidies (hnote u n)
      | false =>
        obtain rfl := (ends_loadRecord_of_whole hplay htorn hpl).error _ _ hrun
        exact hnote _ n
  · have hl : (loadLine a line).runOn w = (.ok (), u) := by
      rw [loadLine, run_tryCatch, hrun]
    cases htorn : MapFile.isTorn line with
    | true => exact ((ends_loadRecord_of_torn hplay htorn).ok _ _ hrun).elim
    | false =>
      refine ⟨u, [], hl, ?_, by simp, rfl⟩
      cases hpl : MapFile.asksFor 0 line with
      | true => exact (ends_loadRecord_of_player hplay hpl).ok _ _ hrun
      | false => exact (ends_loadRecord_of_whole hplay htorn hpl).ok _ _ hrun

lemma exists_loadRecords (lines : List String)
    (hplay : w.areas[a.index]?.map Area.isEdited = some false) :
    ∃ u strays, (loadRecords a lines).runOn w = (.ok (), u) ∧ Tidied w strays u ∧
      (∀ p ∈ strays, u.IsStray p) ∧ strays.length = lines.countP MapFile.isTorn := by
  induction lines generalizing w with
  | nil => exact ⟨w, [], rfl, .refl w, nofun, rfl⟩
  | cons line lines ih =>
    obtain ⟨u, strays, hrun, hu, hstrays, hlen⟩ := exists_loadLine hplay line
    obtain ⟨v, more, hrun', hv, hmore, hlen'⟩ := ih (w := u) ((hu.edited a.index).trans hplay)
    refine ⟨v, strays ++ more, (bind_ok hrun).trans hrun', hu.trans hv, fun p hp => ?_, ?_⟩
    · exact (List.mem_append.1 hp).elim (fun hp => (hstrays p hp).of_tidied hv) (hmore p)
    · rw [List.length_append, hlen, hlen', List.countP_cons, Nat.add_comm]

/-! ## Drawing a stray -/

lemma Ends.homeless {β : Type} (h : w.ownerOf? p = none) {f : Json × Json → Game β}
    {Q : β → World → Prop} : Ends w (place p >>= f) Q fun _ => True where
  ok _ _ hrun := by
    obtain ⟨_, _, hplace, -⟩ := run_bind_eq_ok.1 hrun
    obtain ⟨e, _, hown, -⟩ := run_bind_eq_ok.1 hplace
    cases h.symm.trans (run_owner_eq_ok.1 hown).1
  error _ _ _ := trivial

lemma ends_drawPlain_homeless (h : w.ownerOf? p = none) (target : String) :
    Ends w (drawPlain target p) (fun _ _ => False) fun _ => True := by
  refine .look (obeys_requires p _) trivial fun _ _ => .look (obeys_part p) trivial fun part _ => ?_
  cases part with
  | sprite s => exact .homeless h
  | inputBox width height => exact .homeless h
  | label l => exact .homeless h
  | textField l field => exact .homeless h
  | bar b => exact .lift (fun _ _ => trivial) fun _ _ => .homeless h
  | _ => exact .throw trivial

lemma ends_draw_homeless (hp : p.index < w.parts.size) (h : w.ownerOf? p = none) :
    Ends w (draw p) (fun _ _ => False) fun _ => True := by
  refine .look (obeys_part p) trivial fun part _ => ?_
  cases part with
  | scrollView s =>
    refine .look (obeys_requires p _) trivial fun _ _ => .look (obeys_requires p _) trivial fun _ _ =>
      .look (obeys_requires p _) trivial fun _ _ => ?_
    refine .watch (R := Steady) (obeys_paint _) (fun _ _ => trivial) fun _ u _ hu => ?_
    refine .watch (R := Steady) (.forM (obeys_drawPlain _) _) (fun _ _ => trivial) fun _ v _ hv => ?_
    exact .homeless (((hu.trans hv).ownerOf?_eq hp).trans h)
  | _ => exact ends_drawPlain_homeless h screen

lemma ends_drawAll_stray (h : w.IsStray p) : Ends w drawAll (fun _ _ => False) fun _ => True := by
  have hall (ids : List PartId) (hp : p ∈ ids) (u : World) (hu : Steady w u)
      (f : PUnit → Game Unit) :
      Ends u (ids.forM draw >>= f) (fun _ _ => False) fun _ => True := by
    induction ids generalizing u with
    | nil => cases hp
    | cons q ids ih =>
      change Ends u ((draw q >>= fun _ => ids.forM draw) >>= f) _ _
      rw [bind_assoc]
      by_cases hq : p = q
      · subst hq
        exact (ends_draw_homeless (h.there.trans_le hu.parts_le)
          ((hu.ownerOf?_eq h.there).trans h.nobody)).bind fun _ _ hfalse => hfalse.elim
      · exact .watch (R := Steady) (obeys_draw q) (fun _ _ => trivial) fun _ v _ hv =>
          ih ((List.mem_cons.1 hp).resolve_left hq) v (hu.trans hv)
  refine .watch (R := Steady) (obeys_paint _) (fun _ _ => trivial) fun _ u _ hu => .step (run_get u) ?_
  refine .watch (R := Steady) (.forM obeys_drawScenery _) (fun _ _ => trivial) fun _ v _ hv => ?_
  exact .step (run_get v) (hall _ ((hu.trans hv).drawn p h.drawn h.there) v (hu.trans hv) _)

/-! ## Loading a file -/

lemma tidies_layGround (a : AreaId) (map : TileMap) : Obeys Tidies (layGround a map) :=
  .bind .get fun _ => .bind (tidies_same fun _ => by rfl) fun _ =>
    tidies_modify fun _ => .modifyArea fun _ => rfl

lemma housed_of_reset {u : World} (h : reset.runOn w = (.ok (), u)) : u.Housed := by
  rw [reset, run_get_bind] at h
  dsimp only at h
  split at h
  · obtain ⟨_, _, -, h⟩ := run_bind_eq_ok.1 h
    obtain ⟨_, _, -, h⟩ := run_bind_eq_ok.1 h
    cases h
    rintro _ ⟨⟩
  · cases h
    rintro _ ⟨⟩

/-- Everything that is drawn belongs to an entity, and the area is edited or not as before. -/
structure IsReady (w : World) (a : AreaId) (v : World) : Prop where
  housed : v.Housed
  edited : v.areas[a.index]?.map Area.isEdited = w.areas[a.index]?.map Area.isEdited

lemma IsReady.tidies {v' : World} (h : IsReady w a v) (h' : Tidies v v') : IsReady w a v' :=
  ⟨h'.housed h.housed, (h'.edited a.index).trans h.edited⟩

lemma ends_reset_ready (w : World) (a : AreaId) :
    Ends w reset (fun _ u => IsReady w a u ∧ u.disk = w.disk) fun _ => True where
  ok _ _ hrun :=
    have hshed : Shed w _ := obeys_reset.of_run hrun
    ⟨⟨housed_of_reset hrun, hshed.edited a.index⟩, hshed.disk⟩
  error _ _ _ := trivial

/-- The records of a file are loaded into a world in which everything drawn belongs to an entity. -/
def ReadsRecords (w : World) (a : AreaId) (bytes : List UInt8) (u : World) : Prop :=
  ∃ lines v, MapFile.Lists bytes lines ∧ IsReady w a v ∧ (loadRecords a lines).runOn v = (.ok (), u)

lemma ends_loadBinary_ready (hv : IsReady w a v) (file : String) (bytes : List UInt8) :
    Ends v (loadBinary a file bytes) (fun _ => ReadsRecords w a (0 :: bytes)) fun _ => True := by
  refine .watch (R := Tidies) (tidies_modify fun _ => .modifyArea fun _ => by rfl) (fun _ _ => trivial)
    fun _ v₁ _ hv1 => ?_
  refine .lift (fun _ _ => trivial) fun (map, rest) hts => ?_
  refine .watch (R := Tidies) (tidies_layGround a map) (fun _ _ => trivial) fun _ v₂ _ hv2 => ?_
  refine .lift (fun _ _ => trivial) fun lines hls => ?_
  exact ⟨fun _ _ hrun => ⟨lines, v₂, .binary rfl hts hls, (hv.tidies hv1).tidies hv2, hrun⟩,
    fun _ _ _ => trivial⟩

lemma ends_loadText_ready (hv : IsReady w a v) (hd : v.disk = w.disk) (file : String)
    {data : FileData} (hdata : w.disk.read (mapPath file) = .ok data) :
    Ends v (loadText a file) (fun _ => ReadsRecords w a data.content) fun _ => True := by
  refine .step rfl ((ends_reset_ready _ a).bind fun _ v₁ ⟨hv1, hdisk1⟩ => ?_)
  have hrdy : IsReady w a v₁ := ⟨hv1.housed, hv1.edited.trans hv.edited⟩
  refine .readFile trivial fun data' hdata' => ?_
  rw [hdisk1] at hdata'
  cases hdata.symm.trans ((congrArg (Disk.read · _) hd).symm.trans hdata')
  refine .lift (fun _ _ => trivial) fun text ht => ?_
  refine .watch (R := Tidies) (tidies_modify fun _ => .modifyArea fun _ => by rfl) (fun _ _ => trivial)
    fun _ v₂ _ hv2 => ?_
  refine .lift (fun _ _ => trivial) fun halves hhalf => ?_
  cases TileMap.ofText halves.tiles with
  | error fault => exact .step rfl (.throw trivial)
  | ok map =>
    refine .watch (R := Tidies) (tidies_layGround a map) (fun _ _ => trivial) fun _ v3 _ hv3 => ?_
    refine .watch (R := Tidies) (tidies_modify fun _ => .modifyArea fun _ => by rfl)
      (fun _ _ => trivial) fun _ v4 _ hv4 => ?_
    have hready4 := ((hrdy.tidies hv2).tidies hv3).tidies hv4
    exact ⟨fun _ _ hrun => ⟨_, v4, .text ht hhalf rfl, hready4, hrun⟩, fun _ _ _ => trivial⟩

lemma ends_loadFile_ready (w : World) (a : AreaId) (file : String) :
    Ends w (loadFile a file) (fun _ u => ∃ data, w.disk.read (mapPath file) = .ok data ∧
      ReadsRecords w a data.content u) fun _ => True := by
  refine (ends_reset_ready w a).bind fun _ v ⟨hv, hd⟩ => .readFile trivial fun data hdata => ?_
  rw [hd] at hdata
  cases hbs : data.content with
  | nil => exact .throw trivial
  | cons first bytes =>
    simp only
    split
    · exact .throw trivial
    · split
      · rename_i hfst
        refine (ends_loadBinary_ready hv file bytes).mono (fun _ u hu => ⟨data, hdata, ?_⟩) fun _ h => h
        rwa [hbs, hfst]
      · exact (ends_loadText_ready hv hd file hdata).mono (fun _ u hu => ⟨data, hdata, hu⟩)
          fun _ h => h

end Game

/-! ## What a reported record leaves -/

def World.registers (w : World) (a : AreaId) :
    Option (List EntityId) × List PartId × List PartId × List PartId × List PartId × List PartId ×
      List PartId :=
  (w.areas[a.index]?.map Area.entities, w.active, w.drawn, w.overlay, w.usables, w.bodies, w.triggers)

/-- A report of the record leaves something behind. -/
def MapFile.spills (line : String) : Bool := isTorn line || asksFor 0 line

namespace Game

open World

variable {fault : Fault}

section

variable (hplay : w.areas[a.index]?.map Area.isEdited = some false)
  (hrun : (loadRecord a line).runOn w = (.error fault, u))
include hplay hrun

lemma eq_of_loadRecord_error (hl : MapFile.spills line = false) : u = w := by
  rw [MapFile.spills, Bool.or_eq_false_iff] at hl
  exact (ends_loadRecord_of_whole hplay hl.1 hl.2).error _ _ hrun

lemma registers_ne_of_loadRecord_error (hl : MapFile.spills line = true) :
    u.registers a ≠ w.registers a := by
  intro heq
  simp only [registers, Prod.mk.injEq] at heq
  rw [MapFile.spills, Bool.or_eq_true] at hl
  rcases hl with htorn | hpl
  · obtain ⟨file, image, -, rfl⟩ := (ends_loadRecord_of_torn hplay htorn).error _ _ hrun
    have hdrawn := congrArg List.length heq.2.2.1
    simp [withSprite] at hdrawn
  · have hu := (ends_loadRecord_of_player hplay hpl).error _ _ hrun
    have hact := hu.active.length_le
    rw [heq.2.1, List.length_append, List.length_singleton] at hact
    exact Nat.not_succ_le_self _ hact

end

end Game

namespace World

open Game

variable {file : String}

/-- **When reports are clean.**  In play mode, a record of a map file that is reported leaves the
area and the registers as they were exactly if it is neither the record of a player nor the record
of a character that lacks nothing but its third argument; and then nothing at all was changed. When
the file is loaded, everything that is drawn belongs to an entity exactly if there is no record of
the second sort in it. Otherwise nothing can be drawn to the end. -/
theorem loadFile_clean_iff (hplay : w.areas[a.index]?.map Area.isEdited = some false)
    (hrun : (loadFile a file).runOn w = (.ok (), u)) :
    ∃ data lines v, w.disk.read (mapPath file) = .ok data ∧ MapFile.Lists data.content lines ∧
      v.Housed ∧ (loadRecords a lines).runOn v = (.ok (), u) ∧
      (∀ before line after, lines = before ++ line :: after →
        ∃ v₁, (loadRecords a before).runOn v = (.ok (), v₁) ∧
          ∀ fault v₂, (loadRecord a line).runOn v₁ = (.error fault, v₂) →
            (v₂.registers a = v₁.registers a ↔ MapFile.spills line = false) ∧
            (MapFile.spills line = false → v₂ = v₁)) ∧
      (u.Housed ↔ ∀ line ∈ lines, MapFile.isTorn line = false) ∧
      (¬ u.Housed → ∃ fault u', drawAll.runOn u = (.error fault, u')) := by
  obtain ⟨data, hdata, lines, v, hlists, hv, hrecords⟩ := (ends_loadFile_ready w a file).ok _ _ hrun
  have hplay' : v.areas[a.index]?.map Area.isEdited = some false := hv.edited.trans hplay
  obtain ⟨u', strays, hrun', hu, hstrays, hcount⟩ := exists_loadRecords lines hplay'
  cases hrecords.symm.trans hrun'
  have hhoused : u.Housed ↔ strays = [] := by
    refine ⟨fun h => List.eq_nil_iff_forall_not_mem.2 fun p hp => (hstrays p hp).not_housed h, ?_⟩
    rintro rfl
    exact hu.housed hv.housed
  refine ⟨data, lines, v, hdata, hlists, hv.housed, hrecords, fun before line after _ => ?_, ?_, ?_⟩
  · obtain ⟨v₁, _, hrun1, hv1, -, -⟩ := exists_loadRecords before hplay'
    have hplay1 := (hv1.edited a.index).trans hplay'
    refine ⟨v₁, hrun1, fun fault v₂ hrun2 => ?_⟩
    have hclean := eq_of_loadRecord_error hplay1 hrun2
    refine ⟨⟨fun heq => ?_, fun h => by rw [hclean h]⟩, hclean⟩
    by_contra hspills
    exact registers_ne_of_loadRecord_error hplay1 hrun2 (Bool.not_eq_false _ ▸ hspills) heq
  · rw [hhoused, ← List.length_eq_zero_iff, hcount, List.countP_eq_zero]
    simp
  · intro hnot
    obtain ⟨p, hp⟩ := List.exists_mem_of_ne_nil _ (mt hhoused.2 hnot)
    rcases hdraw : drawAll.runOn u with ⟨fault | _, u'⟩
    · exact ⟨fault, u', rfl⟩
    · exact ((ends_drawAll_stray (hstrays p hp)).ok _ _ hdraw).elim

/-! A map with a factory that does not exist, a character without its third argument and a tree. -/

/-- A game with the map file on its disk. -/
def ruin : World :=
  { disk := Disk.initial.put ["content", "maps", "ruin.map"] (.file (.bytes (Text.encode
      "11\n11\n-entities\n70,1,1\n8,1,1,Amy,npc_male1.png\n1,0,1")))
    areas := #[{}]
    area? := some ⟨0⟩ }

def ruins : World := ((loadFile ⟨0⟩ "ruin.map").runOn ruin).2

def beforeAmy : World := ((loadRecords ⟨0⟩ ["70,1,1"]).runOn ruin).2

lemma ruins_facts : ((loadFile ⟨0⟩ "ruin.map").runOn ruin).1.isOk = true ∧
      ruins.drawn = [⟨0⟩, ⟨1⟩] ∧ ruins.drawn.map ruins.ownerOf? = [none, some ⟨0⟩] ∧
      ((loadRecord ⟨0⟩ "8,1,1,Amy,npc_male1.png").runOn beforeAmy).1.isOk = false ∧
      MapFile.spills "8,1,1,Amy,npc_male1.png" = true := by
  decide +kernel

lemma run_loadFile_ruin : (loadFile ⟨0⟩ "ruin.map").runOn ruin = (.ok (), ruins) := by
  have hok := ruins_facts.1
  rw [ruins]
  generalize (loadFile ⟨0⟩ "ruin.map").runOn ruin = run at hok
  rcases run with ⟨_ | _, u⟩
  · cases hok
  · rfl

theorem loadFile_clean_ruin : ruin.areas[0]?.map Area.isEdited = some false ∧
      (loadFile ⟨0⟩ "ruin.map").runOn ruin = (.ok (), ruins) ∧ ¬ ruins.Housed ∧
      ∃ fault u', drawAll.runOn ruins = (.error fault, u') := by
  have hnot : ¬ ruins.Housed := by
    intro h
    obtain ⟨-, hdrawn, howner, -⟩ := ruins_facts
    rw [hdrawn] at howner
    obtain ⟨e, he⟩ := h ⟨0⟩ (by simp [hdrawn])
    simp [he] at howner
  obtain ⟨_, _, _, -, -, -, -, -, -, hdraw⟩ := loadFile_clean_iff rfl run_loadFile_ruin
  exact ⟨rfl, run_loadFile_ruin, hnot, hdraw hnot⟩

/-- The record of the character is reported, and an image of it stays behind. -/
theorem loadRecord_spills_ruin :
    ∃ fault u, (loadRecord ⟨0⟩ "8,1,1,Amy,npc_male1.png").runOn beforeAmy = (.error fault, u) ∧
      u.registers ⟨0⟩ ≠ beforeAmy.registers ⟨0⟩ := by
  obtain ⟨-, -, -, hfails, hspills⟩ := ruins_facts
  rcases hrun : (loadRecord ⟨0⟩ "8,1,1,Amy,npc_male1.png").runOn beforeAmy with ⟨fault | _, u⟩
  · exact ⟨fault, u, rfl, registers_ne_of_loadRecord_error (by decide +kernel) hrun hspills⟩
  · rw [hrun] at hfails
    cases hfails

end World

end TileQuest
