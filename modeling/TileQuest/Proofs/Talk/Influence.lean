import TileQuest.Proofs.Talk.Sending

/-!
# What a reply can bring about

A reply is a line of the script like any other. So one that starts with an exclamation mark is
carried out, and it can give the player something (`Game.command_reply_gives`). All other replies are
only shown: whatever two of them say, the player carries the same after the frame in which they come
(`Game.shown_replies_give_alike`), since the walk through the script takes both for the same.
-/

namespace TileQuest

variable {text : String} {line' : Json} {reply : Reply}

/-! ## Lines that are shown -/

namespace Line

/-- A line that is shown, by whoever says it. -/
def IsShown (text : String) : Prop := text ≠ "" ∧ text.toList.head? ≠ some '!'

/-- Two lines are the same, or both are shown. -/
inductive Alike : Json → Json → Prop
  | same (line : Json) : Alike line line
  | shown {text text' : String} : IsShown text → IsShown text' → Alike (.str text) (.str text')

instance : Std.Refl Alike := ⟨.same⟩

lemma IsShown.turn?_eq_none (h : IsShown text) (position : Int)
    (draws : List Int) : turn? (.str text) position draws = none := by
  rw [turn?, if_neg h.1, if_neg h.2]

lemma Alike.turn?_eq {line : Json} (h : Alike line line') (position : Int)
    (draws : List Int) : turn? line position draws = turn? line' position draws := by
  cases h with
  | same => rfl
  | shown hshn hshn' => rw [hshn.turn?_eq_none, hshn'.turn?_eq_none]

lemma IsShown.gift_eq (h : IsShown text) (inventory : Inventory) :
    gift text inventory = inventory := if_neg h.2

lemma Alike.gift_eq {line : Json} (h : Alike line line') (inventory : Inventory) :
    (line.str?.map fun text => gift text inventory).getD inventory =
      (line'.str?.map fun text => gift text inventory).getD inventory := by
  cases h with
  | same => rfl
  | shown hshn hshn' => exact (hshn.gift_eq inventory).trans (hshn'.gift_eq inventory).symm

end Line

/-! ## Scripts that are alike -/

section Alike

open Dialogue

variable {lines lines' : List Json}

lemma entry?_rel {α β : Type} {R : α → β → Prop} {xs : List α} {ys : List β}
    (h : List.Forall₂ R xs ys) (i : Int) : Option.Rel R ( entry? xs i) ( entry? ys i) := by
  rw [ entry?, entry?, h.length_eq]
  cases signedIndex? ys.length i with
  | none => exact .none
  | some k =>
    change Option.Rel R xs[k]? ys[k]?
    induction h generalizing k with
    | nil => exact .none
    | cons hxy _ ih =>
      cases k with
      | zero => exact .some hxy
      | succ k => exact ih k

section

variable (h : List.Forall₂ Line.Alike lines lines')
include h

lemma leads?_alike (style : DialogueStyle)
    (s : Int × List Int) : leads? style lines s = leads? style lines' s := by
  rw [leads?, leads?, h.length_eq]
  have he := entry?_rel h (style.position s.1)
  generalize entry? lines (style.position s.1) = line? at he
  generalize entry? lines' (style.position s.1) = line?' at he
  cases he with
  | none => rfl
  | some halike => simp only [Option.bind_some, halike.turn?_eq]

lemma rest?_alike (style : DialogueStyle)
    (s : Int × List Int) : rest? style lines s = rest? style lines' s := by
  have hrest (n : Nat) (s : Int × List Int) : restIn style lines n s = restIn style lines' n s := by
    induction n generalizing s with
    | zero => rfl
    | succ n ih =>
      rw [restIn, restIn, leads?_alike h]
      split
      · rfl
      · exact ih _
  rw [rest?, rest?, hrest, roundsIn, roundsIn, h.length_eq]

lemma gainAt_alike (inventory : Inventory)
    (position : Int) : inventory.gainAt lines position = inventory.gainAt lines' position := by
  rw [Inventory.gainAt, Inventory.gainAt, lineAt?, lineAt?, h.length_eq]
  split
  · rfl
  · have he := entry?_rel h position
    generalize entry? lines position = line? at he
    generalize entry? lines' position = line?' at he
    cases he with
    | none => rfl
    | some halike => exact halike.gift_eq inventory

lemma gainFrom_alike (inventory : Inventory)
    (s : Int × List Int) : inventory.gainFrom lines s = inventory.gainFrom lines' s := by
  rw [Inventory.gainFrom, Inventory.gainFrom, rest?_alike h]
  split
  · rw [gainAt_alike h, gainAt_alike h]
  · rfl

end

end Alike

/-! ## Two replies -/

namespace Game

open World Dialogue Line

variable {w : World} {id : PartId} {d : Dialogue} {bag : Bag} {name : String}
variable {outcomes outcomes' : List Outcome}

lemma Enters.withOutcomes (h : Enters w id d bag name) (outcomes : List Outcome) :
    Enters { w with outcomes } id d bag name :=
  { h with talk := h.talk.congr rfl rfl rfl rfl rfl }

lemma comment_of_heard {line : Json} {rest : List Json}
    (hheard : w.heard d = .ok (some reply)) (hl : reply.response = line :: rest) :
    w.comment d = line :: if w.chats.mode = .readOnly && d.agent?.all (·.backend = .server) then
      [Reply.line (.error .unreachable)] else [] := by
  obtain ⟨response, isSell, toolsUsed⟩ := reply
  cases (hl : response = _)
  rw [comment, loses, hheard]
  simp only [Reply.speaks, Bool.and_true, Reply.line]

lemma sold_congr {reply' : Reply} (h : reply.isSell = reply'.isSell) (name said : String)
    (inventory : Inventory) : Reply.sold name said (.ok (some reply)) inventory =
      Reply.sold name said (.ok (some reply')) inventory := by
  obtain ⟨response, isSell, toolsUsed⟩ := reply
  obtain ⟨response', isSell', toolsUsed'⟩ := reply'
  cases (h : isSell = isSell')
  cases isSell <;> rfl

/-- **What the player carries after a reply does not depend on what it says**, as long as it is no
command: after two replies that both are shown and that both sell something or do not, it is the same.
-/
theorem shown_replies_give_alike (h : Enters w id d bag name) {lines : List Json}
    (hlines : w.lines? d.script = some lines) {reply reply' : Reply}
    (hreply : { w with outcomes }.reply = .ok (some reply))
    (hreply' : { w with outcomes := outcomes' }.reply = .ok (some reply'))
    (hsell : reply.isSell = reply'.isSell) {text text' : String} {rest rest' : List Json}
    (htext : reply.response = .str text :: rest) (htext' : reply'.response = .str text' :: rest')
    (hshown : IsShown text) (hshown' : IsShown text') :
    ∃ r u r' u' inventory, (updateDialogue id).runOn { w with outcomes } = (r, u) ∧
      (updateDialogue id).runOn { w with outcomes := outcomes' } = (r', u') ∧
      u.bags[0]?.map Bag.inventory = some inventory ∧
      u'.bags[0]?.map Bag.inventory = some inventory := by
  obtain ⟨r, u, _, hrun, -, htyping⟩ := exists_enterFrame (h.withOutcomes outcomes) hlines rfl
  obtain ⟨r', u', _, hrun', -, htyping'⟩ := exists_enterFrame (h.withOutcomes outcomes') hlines rfl
  have hbag : u.bags[0]?.map Bag.inventory = some (Inventory.gainFrom _ _ _) := htyping.talk.inventory_eq
  have hbag' : u'.bags[0]?.map Bag.inventory = some (Inventory.gainFrom _ _ _) :=
    htyping'.talk.inventory_eq
  refine ⟨r, u, r', u', _, hrun, hrun', hbag, hbag'.trans ?_⟩
  cases hreaches : w.reaches d with
  | false =>
    -- the character is not asked at all
    have hheard (o : List Outcome) : { w with outcomes := o }.heard d = .error .unreachable := by
      rw [heard, show reaches { w with outcomes := o } d = false from hreaches,
        if_neg (by simp)]
    rw [comment_of_keeps (loses_of_error (hheard _)), comment_of_keeps (loses_of_error (hheard _)),
      hheard, hheard]
  | true =>
    have hheard (o : List Outcome) :
        { w with outcomes := o }.heard d = { w with outcomes := o }.reply := by
      rw [heard, show reaches { w with outcomes := o } d = true from hreaches, if_pos rfl]
    have hheard1 := (hheard outcomes).trans hreply
    have hheard2 := (hheard outcomes').trans hreply'
    rw [comment_of_heard hheard1 htext, comment_of_heard hheard2 htext', hheard1, hheard2,
      sold_congr hsell]
    refine congrArg some (gainFrom_alike (List.rel_append (List.forall₂_refl _) ?_) _ _)
    exact .cons (.shown hshown' hshown) (List.forall₂_refl _)

/-- The model says something and sells nothing, after the service refused once. -/
def replying (line : String) : List Outcome :=
  [.refused "busy", .answer (.obj [("output", .str (replyText line false))])]

lemma exists_greeting : ∃ w id d, Enters w id d { inventory := .empty 20 } "Bob" ∧ w.Keeps ∧
    w.lines? d.script = some [.str "Hello"] ∧ w.random = [] ∧ d.line = -1 ∧ d.typed = "Hi" ∧
    ∀ line, Json.parse (replyText line false) = .ok (.obj [("response", .arr [.str line]),
        ("isSell", .bool false), ("tools_used", .arr [])]) →
      { w with outcomes := replying line }.reply =
        .ok (some { response := [.str line], isSell := false, toolsUsed := [] }) := by
  obtain ⟨w, id, d, hsends, htyped, hl, -, -, hres, hls, hrand⟩ :=
    exists_sends "Bob" "Hi" nofun []
  exact ⟨w, id, d, hsends.toEnters, hsends.keeps, hls, hrand, hl, htyped,
    fun line hprs => reply_of_replyText hprs rfl hres⟩

theorem shown_replies_give_alike_greeting : ∃ w id d r u r' u' inventory,
    Enters w id d { inventory := .empty 20 } "Bob" ∧
    (updateDialogue id).runOn { w with outcomes := replying "Good day" } = (r, u) ∧
    (updateDialogue id).runOn { w with outcomes := replying "$Bob smiles" } = (r', u') ∧
    u.bags[0]?.map Bag.inventory = some inventory ∧
    u'.bags[0]?.map Bag.inventory = some inventory := by
  obtain ⟨w, id, d, henters, -, hlines, -, -, -, hreply⟩ := exists_greeting
  obtain ⟨r, u, r', u', inventory, hruns⟩ := shown_replies_give_alike henters hlines
    (hreply "Good day" (by decide +kernel)) (hreply "$Bob smiles" (by decide +kernel)) rfl rfl rfl
    ⟨by decide, by decide⟩ ⟨by decide, by decide⟩
  exact ⟨w, id, d, r, u, r', u', inventory, henters, hruns⟩

/-- **A reply can be a command.**  After one that says it gives something the player has it, and
twice, and after another that sells as little the player has nothing. -/
theorem command_reply_gives : ∃ w id d reply reply' r u r' u',
    Enters w id d { inventory := .empty 20 } "Bob" ∧
    { w with outcomes := replying "! give 0 1" }.reply = .ok (some reply) ∧
    { w with outcomes := replying "Good day" }.reply = .ok (some reply') ∧
    reply = { reply' with response := [.str "! give 0 1"] } ∧ reply'.response = [.str "Good day"] ∧
    (updateDialogue id).runOn { w with outcomes := replying "! give 0 1" } = (r, u) ∧
    (updateDialogue id).runOn { w with outcomes := replying "Good day" } = (r', u') ∧
    u.bags[0]?.map Bag.inventory = some ((((Inventory.empty 20).add ItemType.all[0] (.ofInt 1)).inventory.add
      ItemType.all[0] (.ofInt 1)).inventory) ∧
    u'.bags[0]?.map Bag.inventory = some (.empty 20) ∧
    u.bags[0]?.map Bag.inventory ≠ u'.bags[0]?.map Bag.inventory := by
  obtain ⟨w, id, d, henters, hkeeps, hlines, hrandom, hline, htyped, hreply⟩ := exists_greeting
  have hframe (line : String) (hparse : Json.parse (replyText line false) =
      .ok (.obj [("response", .arr [.str line]), ("isSell", .bool false), ("tools_used", .arr [])])) :
      ∃ r u, (updateDialogue id).runOn { w with outcomes := replying line } = (r, u) ∧
        u.bags[0]?.map Bag.inventory = some ((Inventory.empty 20).gainFrom [.str "Hello", .str line] (-1, [])) := by
    have hkeeps' : World.Keeps { w with outcomes := replying line } := ⟨hkeeps.writable, hkeeps.folder⟩
    obtain ⟨r, u, _, hrun, -, htyping⟩ :=
      exists_enterFrame (henters.withOutcomes (replying line)) hlines rfl
    refine ⟨r, u, hrun, htyping.talk.inventory_eq.trans ?_⟩
    rw [hkeeps'.comment, hkeeps'.heard, hreply line hparse, hline, htyped, hrandom]
    rfl
  obtain ⟨r, u, hrun, hbag⟩ := hframe "! give 0 1" (by decide +kernel)
  obtain ⟨r', u', hrun', hbag'⟩ := hframe "Good day" (by decide +kernel)
  have hgift : (Inventory.empty 20).gainFrom [.str "Hello", .str "! give 0 1"] (-1, []) =
    (((Inventory.empty 20).add ItemType.all[0] (.ofInt 1)).inventory.add
      ItemType.all[0] (.ofInt 1)).inventory := by decide +kernel
  have hnone : (Inventory.empty 20).gainFrom [.str "Hello", .str "Good day"] (-1, []) = .empty 20 := by
    decide +kernel
  have hne : (((Inventory.empty 20).add ItemType.all[0] (.ofInt 1)).inventory.add
      ItemType.all[0] (.ofInt 1)).inventory ≠ .empty 20 := by decide +kernel
  rw [hgift] at hbag
  rw [hnone] at hbag'
  refine ⟨w, id, d, _, _, r, u, r', u', henters, hreply _ (by decide +kernel),
    hreply _ (by decide +kernel), rfl, rfl, hrun, hrun', hbag, hbag', ?_⟩
  rw [hbag, hbag']
  exact fun heq => hne (Option.some.inj heq)

end Game

end TileQuest
