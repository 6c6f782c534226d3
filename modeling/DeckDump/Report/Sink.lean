/-!
# Sinks

Where output goes: a sink takes bytes until it fails. It may be muted, and then everything that
is written through the mute switch vanishes.

* `accept_unlimited`: a sink without a limit takes everything
-/

namespace DeckDump

/-- How many more bytes a sink takes, and what happens then. -/
inductive Capacity
  | unlimited
  /-- Takes `room` more bytes; a write that has more fails, and so does every later one. -/
  | upTo (room : Nat)
  /-- Takes `room` more bytes; the first write that has more fails, and no later one does. -/
  | glitchAfter (room : Nat)
deriving DecidableEq, Repr, Inhabited

/-- A place that output is written to. -/
structure Sink where
  /-- The bytes taken so far. -/
  written : ByteArray := .empty
  capacity : Capacity := .unlimited
  muted : Bool := false
  /-- Whether flushing fails. -/
  flushFails : Bool := false
deriving Inhabited

namespace Sink

/-- Writes bytes: whether all of them were taken, and the sink behind the write. Of bytes that do
not all fit, those that do are kept. -/
def accept : Sink → ByteArray → Bool × Sink
  | ⟨written, .unlimited, muted, flushFails⟩, bytes => (true, ⟨written ++ bytes, .unlimited, muted, flushFails⟩)
  | ⟨written, .upTo room, muted, flushFails⟩, bytes =>
    if bytes.size ≤ room then (true, ⟨written ++ bytes, .upTo (room - bytes.size), muted, flushFails⟩)
    else (false, ⟨written ++ bytes.extract 0 room, .upTo 0, muted, flushFails⟩)
  | ⟨written, .glitchAfter room, muted, flushFails⟩, bytes =>
    if bytes.size ≤ room then (true, ⟨written ++ bytes, .glitchAfter (room - bytes.size), muted, flushFails⟩)
    else (false, ⟨written ++ bytes.extract 0 room, .unlimited, muted, flushFails⟩)

theorem accept_unlimited (s : Sink) (b : ByteArray) (h : s.capacity = .unlimited) :
    s.accept b = (true, { s with written := s.written ++ b }) := by
  obtain ⟨w, c, m, f⟩ := s
  simp only at h
  subst h
  rfl

end Sink

end DeckDump
