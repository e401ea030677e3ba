/-!
# Bounded channels

A channel holds values on their way from senders to one receiver, the oldest first, and at most as
many as its capacity. A sender first gets a place and then puts its value there; between the two it
holds the place, whatever becomes of the receiver. A channel that is closed to sending still yields
what it holds.
-/

namespace TopicBus

structure Channel (α : Type) where
  capacity : Nat
  queue : List α
  /-- How many places are held for values that are still to be put in. -/
  reserved : Nat
  /-- Whether somebody may still ask for a place. -/
  hasSender : Bool
  /-- Whether somebody may still take what is sent. -/
  hasReceiver : Bool
  deriving DecidableEq, Repr

/-- What becomes of a value, or of the wish for a place, without waiting. -/
inductive Sent
  | accepted
  | full
  | closed
  deriving DecidableEq, Repr

namespace Channel

variable {α : Type}

/-- An empty channel with at least one place. -/
def ofBuffer (buffer : Nat) : Channel α where
  capacity := max buffer 1
  queue := []
  reserved := 0
  hasSender := true
  hasReceiver := true

/-- The most places that a channel can have. -/
def greatestCapacity : Nat := Nat.pow 2 61 - 1

/-- A new channel, if there can be one with so many places. -/
def ofBuffer? (buffer : Nat) : Option (Channel α) :=
  if buffer ≤ greatestCapacity then some (ofBuffer buffer) else none

def hasRoom (channel : Channel α) : Bool :=
  channel.queue.length + channel.reserved < channel.capacity

/-- Whether values may still come, from a sender or into a place that is held. -/
def awaitsMore (channel : Channel α) : Bool :=
  channel.hasSender || 0 < channel.reserved

/-- Whether values may still be sent and taken. -/
def isLive (channel : Channel α) : Bool :=
  channel.hasSender && channel.hasReceiver

def push (channel : Channel α) (value : α) : Channel α :=
  { channel with queue := channel.queue ++ [value] }

/-- Gets a place for a value to come. That nobody receives any more counts before that the channel
is full. -/
def reserve (channel : Channel α) : Sent × Channel α :=
  if !channel.hasReceiver then (.closed, channel)
  else if channel.hasRoom then (.accepted, { channel with reserved := channel.reserved + 1 })
  else (.full, channel)

/-- Puts a value into a place that is held for it. It is not asked again whether anybody
receives. -/
def fill (channel : Channel α) (value : α) : Channel α :=
  { channel.push value with reserved := channel.reserved - 1 }

/-- Sends a value without a pause: a place is got and filled at once. -/
def send (channel : Channel α) (value : α) : Sent × Channel α :=
  match channel.reserve with
  | (.accepted, held) => (.accepted, held.fill value)
  | refused => refused

def pop? (channel : Channel α) : Option (α × Channel α) :=
  match channel.queue with
  | [] => none
  | value :: rest => some (value, { channel with queue := rest })

def dropSender (channel : Channel α) : Channel α :=
  { channel with hasSender := false }

/-- Nothing more is accepted; what is in the channel can still be taken. -/
def closeReceiver (channel : Channel α) : Channel α :=
  { channel with hasReceiver := false }

/-- The receiver is gone, and what is in the channel is lost. -/
def dropReceiver (channel : Channel α) : Channel α :=
  { channel with hasReceiver := false, queue := [] }

/-! ## What each operation does to the queue -/

/-- A place is got just if somebody receives and there is room. -/
theorem reserve_accepted_iff {channel after : Channel α} :
    channel.reserve = (.accepted, after) ↔
      channel.hasReceiver ∧ channel.hasRoom ∧
        { channel with reserved := channel.reserved + 1 } = after := by
  unfold reserve
  cases channel.hasReceiver with
  | false => simp
  | true =>
      cases channel.hasRoom with
      | false => simp
      | true => simp

/-- A place that is refused changes nothing. -/
theorem reserve_refused {channel after : Channel α} {sent : Sent}
    (refused : sent ≠ .accepted) (reserving : channel.reserve = (sent, after)) :
    after = channel := by
  unfold reserve at reserving
  split at reserving
  · simp_all
  · split at reserving <;> simp_all

/-- A value is accepted just if somebody receives and there is room, and then it stands at the
end of the queue. -/
theorem send_accepted_iff {channel after : Channel α} {value : α} :
    channel.send value = (.accepted, after) ↔
      channel.hasReceiver ∧ channel.hasRoom ∧ channel.push value = after := by
  unfold send
  split
  · rename_i held reserving
    obtain ⟨hasReceiver, hasRoom, rfl⟩ := reserve_accepted_iff.mp reserving
    simp [hasReceiver, hasRoom, fill, push]
  · rename_i refused
    constructor
    · intro accepted
      exact absurd accepted (refused after)
    · rintro ⟨hasReceiver, hasRoom, -⟩
      exact absurd (reserve_accepted_iff.mpr ⟨hasReceiver, hasRoom, rfl⟩) (refused _)

/-- A refused value changes nothing. -/
theorem send_refused {channel after : Channel α} {value : α} {sent : Sent}
    (refused : sent ≠ .accepted) (sending : channel.send value = (sent, after)) :
    after = channel := by
  unfold send at sending
  split at sending
  · cases sending
    exact absurd rfl refused
  · exact reserve_refused refused sending

/-- What is taken stood at the head of the queue. -/
theorem pop?_eq_some_iff {channel after : Channel α} {value : α} :
    channel.pop? = some (value, after) ↔
      ∃ rest, channel.queue = value :: rest ∧ { channel with queue := rest } = after := by
  unfold pop?
  split
  · simp_all
  · rename_i head rest shape
    constructor
    · intro taken
      cases taken
      exact ⟨rest, shape, rfl⟩
    · rintro ⟨others, same, rfl⟩
      rw [shape] at same
      cases same
      rfl

theorem pop?_eq_none_iff {channel : Channel α} : channel.pop? = none ↔ channel.queue = [] := by
  unfold pop?
  cases channel.queue <;> simp

end Channel

end TopicBus
