import BranchChat.Stream.Framing
import BranchChat.Web.ApiError

/-!
# Connections

A connection delivers the events of a turn one at a time, then says once how it ended, and then
nothing more. It ends with a final event, with the end of the bytes, with a fault of the network,
or because its owner has cancelled it. Whatever has been read before the end is delivered first.

## Main definitions

- `Arrival`: what comes over the network
- `Delivery`: what a connection hands to its owner
- `Connection`: a connection, with what has arrived and is not read yet
- `Connection.poll`: asks for the next delivery
- `Watched`: a connection together with its cancellation, driven by `Move`s
-/

namespace BranchChat.Stream

open BranchChat.Web (Fault)

/-- What comes over the network. -/
inductive Arrival where
  | bytes (bs : List UInt8)
  | fault (cause : Fault)
  | finish
deriving DecidableEq, Inhabited

/-- How a connection ended. -/
inductive Ending where
  | closed (aborted : Bool)
  | broken (cause : Fault)
deriving DecidableEq, Inhabited

/-- What a connection hands to its owner. -/
inductive Delivery where
  | event (e : WireEvent)
  | ending (e : Ending)
deriving Inhabited

/-- How far a connection has come. -/
inductive Progress where
  /-- Bytes are read, and the events in the queue are still to be delivered. -/
  | reading (framing : Framing) (queue : List WireEvent)
  /-- Only the ending is still to be delivered. -/
  | closing (ending : Ending)
  | over
deriving Inhabited

/-- A connection, with what has arrived and is not read yet. -/
structure Connection where
  unread : List Arrival
  progress : Progress
deriving Inhabited

/-- The answer to a request for the next delivery. -/
inductive Polled where
  | ready (delivery : Delivery)
  | over
  /-- Nothing can be said before more arrives. -/
  | waiting
deriving Inhabited

namespace Connection

/-- A connection of which these bytes have arrived. -/
def opened (unread : List Arrival) : Connection :=
  ⟨unread, .reading .start []⟩

/-- A connection that was cancelled before it was made. -/
def cancelledEarly : Connection :=
  ⟨[], .closing (.closed true)⟩

/-- The next event of a queue. After a final event only the ending is left. -/
def deliver (framing : Framing) (e : WireEvent) (queue : List WireEvent) (unread : List Arrival) :
    Polled × Connection :=
  (.ready (.event e),
    ⟨unread, if e.isLast then .closing (.closed false) else .reading framing queue⟩)

/-- Reads until there is an event or an ending. -/
def read (framing : Framing) : List Arrival → Polled × Connection
  | [] => (.waiting, ⟨[], .reading framing []⟩)
  | .finish :: rest => (.ready (.ending (.closed false)), ⟨rest, .over⟩)
  | .fault cause :: rest => (.ready (.ending (.broken cause)), ⟨rest, .over⟩)
  | .bytes bs :: rest =>
    match framing.feed bs with
    | (framing, []) => read framing rest
    | (framing, e :: queue) => deliver framing e queue rest

/-- Asks for the next delivery, where `cancelled` says whether the owner has cancelled. What has
been read is delivered all the same, but nothing more is read. -/
def poll (c : Connection) (cancelled : Bool) : Polled × Connection :=
  match c.progress with
  | .over => (.over, c)
  | .closing ending => (.ready (.ending ending), ⟨c.unread, .over⟩)
  | .reading framing (e :: queue) => deliver framing e queue c.unread
  | .reading framing [] =>
    if cancelled then (.ready (.ending (.closed true)), ⟨c.unread, .over⟩)
    else read framing c.unread

/-- More has arrived. -/
def receive (c : Connection) (arrival : Arrival) : Connection :=
  { c with unread := c.unread ++ [arrival] }

end Connection

/-- A connection together with its cancellation. -/
structure Watched where
  connection : Connection
  cancelled : Bool
deriving Inhabited

/-- What can happen to a connection. -/
inductive Move where
  | arrive (arrival : Arrival)
  | cancel
  | poll
deriving Inhabited

namespace Watched

/-- A new connection of which nothing has arrived. -/
def start : Watched :=
  ⟨.opened [], false⟩

/-- Carries a move out, and gives the answer to a poll. -/
def step (w : Watched) : Move → Watched × Option Polled
  | .arrive arrival => ({ w with connection := w.connection.receive arrival }, none)
  | .cancel => ({ w with cancelled := true }, none)
  | .poll =>
    let (answer, connection) := w.connection.poll w.cancelled
    ({ w with connection }, some answer)

/-- Carries moves out, and gives the answers to the polls among them in order. -/
def run (w : Watched) : List Move → Watched × List Polled
  | [] => (w, [])
  | move :: moves =>
    let (w, answer) := w.step move
    let (w, answers) := w.run moves
    (w, answer.toList ++ answers)

/-- The owner lets go of the connection, which cancels it. -/
def release (w : Watched) : Watched :=
  { w with cancelled := true }

end Watched

end BranchChat.Stream
