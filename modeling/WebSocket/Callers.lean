import WebSocket.Call

/-! # Callers

The users' side of a connection: which handles they still hold, the orders that wait to be taken,
and the answers that were given. The queue has room for `queueCapacity` orders; later ones wait
until the users run again, which they do whenever the connection has nothing left to do. A user
whose call is not finished holds a handle of its own, up to the moment at which it notices the
answer. -/

namespace WebSocket

/-- How many orders the queue holds. -/
def queueCapacity : Nat := 64

/-- An order with the number of its call. -/
structure Command where
  id : Nat
  order : Order
deriving DecidableEq, Repr

/-- What came of a call. -/
structure Answer where
  id : Nat
  /-- The error, unless the call succeeded. -/
  error : Option Error
deriving DecidableEq, Repr

structure Callers where
  /-- Whether the handle that reads the events is held. -/
  socketHeld : Bool := true
  /-- Whether a further handle for sending is held. -/
  senderHeld : Bool := false
  queue : List Command := []
  /-- The orders that found the queue full. -/
  waiting : List Command := []
  /-- How many answers no user has noticed yet. -/
  unnoticed : Nat := 0
  /-- The number of the next call. -/
  nextId : Nat := 0
  answers : Array Answer := #[]
deriving DecidableEq, Repr

namespace Callers

/-- Whether nobody is left who could ask for anything. -/
def areGone (callers : Callers) : Bool :=
  !callers.socketHeld && !callers.senderHeld && callers.queue.isEmpty && callers.waiting.isEmpty
    && callers.unnoticed = 0

/-- Takes a further handle for sending, which only a user with a handle can do. -/
def takeSender (callers : Callers) : Callers :=
  { callers with senderHeld := callers.socketHeld || callers.senderHeld }

/-- Makes a call while the connection is connected or not. -/
def call (callers : Callers) (call : Call) (connected : Bool) : Callers :=
  let id := callers.nextId
  let callers := { callers with nextId := id + 1 }
  match call.check connected with
  | .error error => { callers with answers := callers.answers.push ⟨id, some (.call error)⟩ }
  | .ok none => { callers with answers := callers.answers.push ⟨id, none⟩ }
  | .ok (some order) =>
    if callers.waiting.isEmpty && callers.queue.length < queueCapacity then
      { callers with queue := callers.queue ++ [⟨id, order⟩] }
    else { callers with waiting := callers.waiting ++ [⟨id, order⟩] }

/-- Answers an order that was taken. -/
def answer (callers : Callers) (id : Nat) (error : Option Error) : Callers :=
  { callers with
    answers := callers.answers.push ⟨id, error⟩
    unnoticed := callers.unnoticed + 1 }

/-- Answers all orders that nobody will take any more. -/
def release (callers : Callers) : Callers :=
  (callers.queue ++ callers.waiting).foldl
    (fun callers command => callers.answer command.id (some (.call .notConnected)))
    { callers with queue := [], waiting := [] }

/-- Whether running the users changes anything. -/
def canRun (callers : Callers) : Bool :=
  0 < callers.unnoticed || (!callers.waiting.isEmpty && callers.queue.length < queueCapacity)

/-- Lets the users run: they notice their answers and fill the queue. -/
def run (callers : Callers) : Callers :=
  let room := queueCapacity - callers.queue.length
  { callers with
    queue := callers.queue ++ callers.waiting.take room
    waiting := callers.waiting.drop room
    unnoticed := 0 }

end Callers

end WebSocket
