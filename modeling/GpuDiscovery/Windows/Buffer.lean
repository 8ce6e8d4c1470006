import GpuDiscovery.Outcome

/-!
# Buffers that the system writes to

A buffer has a fixed number of cells, all zero at first. A call overwrites the beginning and leaves
the rest as it was, so a buffer that is used for several answers keeps the tail of a longer one
behind a shorter one. Only what was written matters: the cells behind it are zero, and the buffer
remembers how many there are rather than holding them.
-/

namespace GpuDiscovery

/-- A buffer of so many cells, of which some at the beginning were written. -/
structure Buffer (α : Type) where
  capacity : Nat
  written : List α
  deriving DecidableEq, Repr

namespace Buffer

variable {α : Type}

/-- A fresh buffer. -/
def zeroed (capacity : Nat) : Buffer α := ⟨capacity, []⟩

/-- Overwrites the beginning. -/
def write (buffer : Buffer α) (cells : List α) : Buffer α :=
  { buffer with written := cells ++ buffer.written.drop cells.length }

/-- The first `count` cells. -/
def take [OfNat α 0] (buffer : Buffer α) (count : Nat) : List α :=
  buffer.written.take count ++ List.replicate (count - buffer.written.length) 0

/-- All cells. -/
def cells [OfNat α 0] (buffer : Buffer α) : List α :=
  buffer.take buffer.capacity

/-- The first `count` cells; there is a crash if the buffer has fewer. -/
def slice [OfNat α 0] (buffer : Buffer α) (count : Nat) : Outcome (List α) :=
  if count ≤ buffer.capacity then .value (buffer.take count) else .crashed

/-- What was just written is read back, whatever was there before. -/
@[simp] theorem take_write [OfNat α 0] (buffer : Buffer α) (cells : List α) :
    (buffer.write cells).take cells.length = cells := by
  simp [take, write]

/-- So is any part of it from its beginning on. -/
theorem take_write_of_le [OfNat α 0] (buffer : Buffer α) {cells : List α} {count : Nat}
    (h : count ≤ cells.length) : (buffer.write cells).take count = cells.take count := by
  have hwritten : count - (buffer.write cells).written.length = 0 := by
    rw [write, List.length_append]
    omega
  rw [take, hwritten, List.replicate_zero, List.append_nil]
  exact List.take_append_of_le_length h

end Buffer

end GpuDiscovery
