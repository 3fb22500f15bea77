import WebSocket.Proofs.Connection.Guise

/-! # Nobody has to read the events

Dropping the handle that reads the events puts a connection in a guise: nothing is put on the event
stream any more, and nobody holds that handle (`apply_dropSocket`). As long as a sender is held the
guise suits, so that a session goes on as it would with a reader (`seen_dropSocket`).
-/

namespace WebSocket

/-! ## The guise of an unread connection -/

namespace Guise

/-- The guise of a connection whose event stream is not read any more, given what stands on it. -/
def unread (told : Array StreamItem) : Guise where
  held _ := false
  items _ := told
  held_false := rfl
  items_emit _ _ _ := rfl

/-- Somebody is left as long as a sender is held. -/
theorem suits_unread {callers : Callers} (held : callers.senderHeld = true)
    (told : Array StreamItem) : (unread told).Suits callers where
  used := by rw [held, Bool.or_true, Bool.or_true]
  number _ := rfl
  answers more := congrArg (callers.answers ++ ·) (Array.map_id more).symm

end Guise

namespace Connection

open Guise (unread)

theorem apply_dropSocket (connection : Connection) :
    connection.apply .dropSocket = connection.wear (unread connection.items) := by
  have worn := @wear_of_fixed connection (unread connection.items) fun _ _ => rfl
  exact worn.symm

theorem Input.keeps_of_ne {input : Input} (other : input ≠ .dropSender) (guise : Guise) :
    input.Keeps guise := by
  cases input with
  | dropSender => exact absurd rfl other
  | _ => trivial

/-- From the moment at which the reader is gone a session goes on as with a reader. -/
theorem seen_playAll_dropSocket {moment : Connection} (held : moment.callers.senderHeld = true)
    {script : List (List Input)} (kept : ∀ group ∈ script, .dropSender ∉ group) :
    ((moment.apply .dropSocket).playAll script).seen =
      { (moment.playAll script).seen with items := moment.items } := by
  have keeps : ∀ group ∈ script, ∀ input ∈ group, input.Keeps (unread moment.items) := by
    intro group among input member
    refine Input.keeps_of_ne ?_ _
    rintro rfl
    exact kept group among member
  rw [apply_dropSocket, playAll_wear (Guise.suits_unread held _) keeps, seen_wear]
  simp only [unread, id_eq, List.map_id]
  rfl

/-- As long as a sender is held, nothing depends on whether somebody reads the events. Wherever in a
session the reader is dropped, in a group with other inputs or in one of its own, what was written,
the states, the answers, the calls without an answer, and whether the stream is shut and the
connection is over are at every later time what they are with the reader; the event stream stays as
it was. -/
theorem seen_dropSocket (start : Connection) (before : List (List Input)) (early late : List Input)
    (after : List (List Input))
    (held : (early.foldl apply (start.playAll before)).callers.senderHeld = true)
    (kept : ∀ group ∈ late :: after, .dropSender ∉ group) :
    let moment := early.foldl apply (start.playAll before)
    (start.playAll (before ++ (early ++ .dropSocket :: late) :: after)).seen =
        { (start.playAll (before ++ (early ++ late) :: after)).seen with items := moment.items } ∧
      (before ≠ [] → early = [] → late = [] →
        (start.playAll (before ++ [.dropSocket] :: after)).seen =
          { (start.playAll (before ++ after)).seen with items := moment.items }) := by
  intro moment
  have inGroup : (start.playAll (before ++ (early ++ .dropSocket :: late) :: after)).seen =
      { (start.playAll (before ++ (early ++ late) :: after)).seen with items := moment.items } := by
    rw [playAll_from start before early late, playAll_from]
    exact seen_playAll_dropSocket held kept
  refine ⟨inGroup, ?_⟩
  rintro played rfl rfl
  rw [← playAll_skip played start after]
  exact inGroup

/-- The reader is dropped between the two halves of the server's answer. -/
theorem seen_dropSocket_of_half_answer :
    let before : List (List Input) := [[.takeSender]]
    let early : List Input := [.arrive (agreement.take 40)]
    let late : List Input := [.arrive (agreement.drop 40)]
    let after : List (List Input) := [[.call (.text "a"), .arrive [0x89, 0x00]], [.cancel]]
    let moment := early.foldl apply (plainStart.playAll before)
    let dropped := plainStart.playAll (before ++ (early ++ .dropSocket :: late) :: after)
    let kept := plainStart.playAll (before ++ (early ++ late) :: after)
    moment.callers.senderHeld = true ∧ (∀ group ∈ late :: after, .dropSender ∉ group) ∧
      dropped.seen = { kept.seen with items := moment.items } := by
  intro before early late after moment dropped kept
  have held : moment.callers.senderHeld = true := by
    have idle : ((plainStart.apply .takeSender).stepUpTo 1).step? = none := by
      rw [← Option.isNone_iff_eq_none]
      decide +kernel
    have played : plainStart.playAll before = (plainStart.apply .takeSender).stepUpTo 1 :=
      (run_stepUpTo _ 1).symm.trans (run_of_idle idle)
    rw [show moment = (plainStart.playAll before).apply (.arrive (agreement.take 40)) from rfl,
      played]
    decide +kernel
  have sender : ∀ group ∈ late :: after, .dropSender ∉ group := by
    simp [late, after]
  exact ⟨held, sender, (seen_dropSocket plainStart before early late after held sender).1⟩

end Connection

end WebSocket
