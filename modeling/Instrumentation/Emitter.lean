import Instrumentation.Power

/-!
# Broadcast of messages

An emitter sends every message to all its receivers. It keeps the latest messages only; a
receiver that falls behind is told how many messages it has missed, and goes on with the oldest
one that is kept.
-/

universe u

namespace Instrumentation

/-- A broadcast channel. Messages are numbered from zero, and a receiver is the number of the
message it reads next. -/
structure Emitter (α : Type u) where
  /-- The number of messages kept. -/
  capacity : Nat
  /-- The number of messages sent to receivers. -/
  sent : Nat
  /-- The latest messages, the last one first. -/
  kept : List α
  /-- The receivers in the order of their subscription, those that left as `none`. -/
  receivers : List (Option Nat)
  /-- The number of messages offered, with or without receivers. -/
  emitted : Nat
deriving Inhabited

/-- What a receiver finds. -/
inductive Received (α : Type u) where
  /-- The next message. -/
  | message (a : α)
  /-- No message yet. -/
  | nothing
  /-- So many messages were missed. -/
  | lagged (count : Nat)
  /-- The receiver has left. -/
  | left
deriving Inhabited

namespace Emitter

variable {α : Type u}

/-- The least power of two that is at least `n`. -/
def roundUp (n : Nat) : Nat := if n ≤ 1 then 1 else powerOfTwo ((n - 1).log2 + 1)

/-- The number of messages that are kept unless told otherwise. -/
def defaultCapacity : Nat := 1024

/-- A channel that keeps at least `capacity` messages, and one at the least. -/
def new (capacity : Nat) : Emitter α :=
  { capacity := roundUp capacity, sent := 0, kept := [], receivers := [], emitted := 0 }

/-- The number of receivers. -/
def subscribers (m : Emitter α) : Nat := m.receivers.countP Option.isSome

/-- The number of receivers that a message reaches, and the channel after it. A message
without receivers is not kept. -/
def emit (m : Emitter α) (a : α) : Nat × Emitter α :=
  let m := { m with emitted := m.emitted + 1 }
  if m.subscribers = 0 then (0, m)
  else (m.subscribers, { m with sent := m.sent + 1, kept := (a :: m.kept).take m.capacity })

/-- The index of a new receiver of the messages to come. -/
def subscribe (m : Emitter α) : Nat × Emitter α :=
  (m.receivers.length, { m with receivers := m.receivers ++ [some m.sent] })

/-- The channel once a receiver has left. -/
def drop (m : Emitter α) (index : Nat) : Emitter α :=
  { m with receivers := m.receivers.set index none }

/-- The channel with a receiver moved to another message. -/
def seek (m : Emitter α) (index next : Nat) : Emitter α :=
  { m with receivers := m.receivers.set index (some next) }

/-- What a receiver finds, and the channel after it has looked. -/
def receive (m : Emitter α) (index : Nat) : Received α × Emitter α :=
  match m.receivers[index]? with
  | some (some next) =>
    if m.sent ≤ next then (.nothing, m)
    else if m.capacity < m.sent - next then
      let oldest := m.sent - m.capacity
      (.lagged (oldest - next), m.seek index oldest)
    else
      match m.kept[m.sent - 1 - next]? with
      | some a => (.message a, m.seek index (next + 1))
      | none => (.nothing, m)
  | _ => (.left, m)

end Emitter

end Instrumentation
