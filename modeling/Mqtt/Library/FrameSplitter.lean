import Mathlib.Data.List.Basic

/-!
# Splitting a stream into frames

A stream is read from its front: a test recognizes the frame a stream begins with,
once it is complete, and how much of the stream it takes up. What is found must not
depend on what follows. The frames of a stream are then the same however it is cut
into pieces.
-/

namespace Mqtt.Library

universe u v

/-- A test for the frame at the front of a stream. -/
structure FrameSplitter (Symbol : Type u) (Frame : Type v) where
  /-- The frame at the front, and its size. -/
  front : List Symbol → Option (Frame × Nat)
  /-- A frame is not empty, and complete. -/
  sized : ∀ {stream frame size}, front stream = some (frame, size) →
    0 < size ∧ size ≤ stream.length
  /-- What follows a frame does not change it. -/
  stable : ∀ {stream frame size}, front stream = some (frame, size) →
    ∀ more, front (stream ++ more) = some (frame, size)

namespace FrameSplitter

variable {Symbol : Type u} {Frame : Type v} (splitter : FrameSplitter Symbol Frame)

/-- The complete frames of a stream, in order, and what is left behind them. -/
def split (stream : List Symbol) : List Frame × List Symbol :=
  match _found : splitter.front stream with
  | none => ([], stream)
  | some (frame, size) =>
    (frame :: (split (stream.drop size)).1, (split (stream.drop size)).2)
termination_by stream.length
decreasing_by all_goals
  have ⟨positive, complete⟩ := splitter.sized _found
  rw [List.length_drop]
  omega

def frames (stream : List Symbol) : List Frame := (splitter.split stream).1

def leftover (stream : List Symbol) : List Symbol := (splitter.split stream).2

variable {stream : List Symbol}

theorem split_of_none (nothing : splitter.front stream = none) :
    splitter.frames stream = [] ∧ splitter.leftover stream = stream := by
  rw [frames, leftover, split]
  split
  · exact ⟨rfl, rfl⟩
  · rename_i found
    rw [nothing] at found
    cases found

theorem split_of_front {frame : Frame} {size : Nat}
    (found : splitter.front stream = some (frame, size)) :
    splitter.frames stream = frame :: splitter.frames (stream.drop size) ∧
      splitter.leftover stream = splitter.leftover (stream.drop size) := by
  rw [frames, leftover, split]
  split
  · rename_i nothing
    rw [nothing] at found
    cases found
  · rename_i found'
    rw [found'] at found
    obtain ⟨rfl, rfl⟩ := Prod.mk.inj (Option.some.inj found)
    exact ⟨rfl, rfl⟩

/-- A frame at the front comes first, whatever follows. -/
theorem split_append_of_front {frame : Frame} {size : Nat}
    (found : splitter.front stream = some (frame, size)) (more : List Symbol) :
    splitter.frames (stream ++ more) = frame :: splitter.frames (stream.drop size ++ more) ∧
      splitter.leftover (stream ++ more) = splitter.leftover (stream.drop size ++ more) := by
  have later := splitter.split_of_front (splitter.stable found more)
  rwa [List.drop_append_of_le_length (splitter.sized found).2] at later

end FrameSplitter
end Mqtt.Library
