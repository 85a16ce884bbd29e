import TileQuest.Play.Players
import TileQuest.Proofs.Outcome

/-!
# The steps of a player's frame

A frame of the player falls into a few steps: up or down, to the menu if that is asked for, acting,
across, turning, and at last touching the triggers. `Game.stride` is all but the last of them, and
`Game.updatePlayer_eq` says that nothing else happens.
-/

namespace TileQuest.Game

/-- What is settled about a player when the frame begins. -/
structure Stance where
  me : EntityId
  before : Entity
  look? : Option PartId
  body : PartId
  input : Input

namespace Stance

/-- Where the keys point. -/
def heading? (s : Stance) : Option Direction :=
  pointed (s.input.isDown (.char 'a')) (s.input.isDown (.char 'd')) .left .right
    (pointed (s.input.isDown (.char 'w')) (s.input.isDown (.char 's')) .up .down none)

end Stance

/-- What is shown about the player is brought up to date, and the player walks down or up. -/
def climb (id : PartId) : Game Stance := do
  updateMessage id
  let me ← owner id
  showPlace id me
  let before ← entity me
  let look? ← find? me Part.isSprite
  let body? ← find? me Part.isBody
  showHealth id
  let input := (← get).input
  let y ← moved before.y (input.isDown (.char 'w')) (input.isDown (.char 's'))
  modifyEntity me ({ · with y })
  let body ← orAbsent body?
  if !(← positionIsValid body) then modifyEntity me ({ · with y := before.y })
  return { me, before, look?, body, input }

/-- The player takes in hand what is equipped, and acts on a click. -/
def act (id : PartId) (me : EntityId) : Game Unit := do
  let combat ← orAbsent (← player id).combat?
  followInventory combat
  handleClick me combat

/-- The player walks across, and the camera follows. -/
def cross (s : Stance) : Game Unit := do
  let x ← moved (← entity s.me).x (s.input.isDown (.char 'a')) (s.input.isDown (.char 'd'))
  modifyEntity s.me ({ · with x })
  if !(← positionIsValid s.body) then modifyEntity s.me ({ · with x := s.before.x })
  follow s.me (← sprite (← orAbsent s.look?)).image

/-- The player turns to where the keys point, or stops. -/
def turn (id : PartId) (me : EntityId) : Option Direction → Game Unit
  | some d => startWalking id me d
  | none => do if (← player id).isWalking then stopWalking id me

/-- A frame of the player up to the triggers, with the body that may meet them. -/
def stride (id : PartId) : Game (PartId × EntityId) := do
  let s ← climb id
  if s.input.isDown .escape then switchTo "Menu"
  act id s.me
  cross s
  turn id s.me s.heading?
  return (s.body, s.me)

section Chains

variable {α β γ : Type} {c : Prop} [Decidable c] {x : Game α} {g : Game Unit} {h : β → Game γ}

lemma bind_eq_bind {f : α → Game γ} {f' : α → Game β} (hf : ∀ a, f a = f' a >>= h) :
    x >>= f = (x >>= f') >>= h := by
  rw [bind_assoc]
  exact bind_congr hf

lemma when_eq_bind {k : Unit → Game γ} {k' : Unit → Game β} (hk : k () = k' () >>= h) :
    (if c then g >>= k else k ()) = (if c then g >>= k' else k' ()) >>= h := by
  split
  · exact bind_eq_bind fun _ => hk
  · exact hk

end Chains

lemma turn_bind {α : Type} (id : PartId) (me : EntityId) (d? : Option Direction)
    (k : Unit → Game α) :
    turn id me d? >>= k = match d? with
      | some d => startWalking id me d >>= k
      | none => player id >>= fun p => if p.isWalking then stopWalking id me >>= k else k () := by
  cases d? with
  | some d => rfl
  | none =>
    rw [turn, bind_assoc]
    refine bind_congr fun p => ?_
    split <;> rfl

lemma updatePlayer_eq (id : PartId) :
    updatePlayer id = stride id >>= fun (body, me) => touchAll body me := by
  rw [stride, bind_assoc]
  refine bind_eq_bind fun _ => bind_eq_bind fun me => bind_eq_bind fun _ => bind_eq_bind fun before =>
    bind_eq_bind fun look? => bind_eq_bind fun body? => bind_eq_bind fun _ => bind_eq_bind fun w =>
    bind_eq_bind fun y => bind_eq_bind fun _ => bind_eq_bind fun body => bind_eq_bind fun valid =>
    when_eq_bind ?_
  rw [pure_bind]
  apply when_eq_bind
  rw [bind_assoc]
  refine bind_eq_bind fun p => bind_eq_bind fun combat => bind_eq_bind fun _ => bind_congr fun _ => ?_
  rw [bind_assoc]
  refine bind_eq_bind fun en => bind_eq_bind fun x => bind_eq_bind fun _ => bind_eq_bind fun valid =>
    when_eq_bind ?_
  refine bind_eq_bind fun look => bind_eq_bind fun s => bind_congr fun _ => ?_
  rw [bind_assoc, turn_bind]
  rfl

end TileQuest.Game
