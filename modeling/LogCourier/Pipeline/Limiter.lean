import LogCourier.Pipeline.Message

/-! # The rate limit

A leaky bucket. Every message let through takes a slot, which is free again one window later, each
on its own; a message that finds no free slot is refused and counted. The count is announced before
the next message that is let through, by a notice that takes a slot too.
-/

namespace LogCourier

inductive Admission
  /-- There is room; this many messages were refused since the last admission. -/
  | admitted (refused : Nat)
  | refused
deriving DecidableEq, Repr

structure Limiter where
  limit : Nat
  /-- How long a slot stays taken, in milliseconds. -/
  window : Nat
  /-- When the taken slots are free again, in the order in which they were taken. -/
  slots : List Nat := []
  /-- Messages refused since the last admission. -/
  refused : Nat := 0
deriving DecidableEq, Repr

namespace Limiter

/-- Frees the slots at the front that have run out. -/
def expire (l : Limiter) (now : Nat) : Limiter :=
  { l with slots := l.slots.dropWhile (· ≤ now) }

/-- Asks for room; an admission settles the count of refused messages. -/
def ask (l : Limiter) (now : Nat) : Limiter × Admission :=
  let l := l.expire now
  if l.limit ≤ l.slots.length then ({ l with refused := l.refused + 1 }, .refused)
  else ({ l with refused := 0 }, .admitted l.refused)

def takeSlot (l : Limiter) (now : Nat) : Limiter :=
  { l with slots := l.slots ++ [now + l.window] }

/-- Offers a message; gives what goes out for it. -/
def offer (l : Limiter) (now : Nat) (m : Message) : Limiter × List Message :=
  match l.ask now with
  | (l, .refused) => (l, [])
  | (l, .admitted 0) => (l.takeSlot now, [m])
  | (l, .admitted n) => ((l.takeSlot now).takeSlot now, [.suppressed n, m])

end Limiter

end LogCourier
