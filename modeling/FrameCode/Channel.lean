/-!
# Output channels

A channel keeps the bytes that were written to it.  It may have room for a limited number of bytes
only; a write that does not fit leaves the bytes that do.

- `Channel`: the bytes written so far and the room that is left
- `Channel.fits`: whether a text can be written whole
- `Channel.write`: appends a text as far as it fits
-/

namespace FrameCode

/-- The bytes written so far, and how many more can be taken (any number if there is no limit). -/
structure Channel where
  written : ByteArray
  room : Option Nat

namespace Channel

/-- An empty channel with room for a given number of bytes. -/
def ofRoom (room : Option Nat) : Channel where
  written := .empty
  room := room

/-- The bytes of a text that fit into the channel. -/
def accepted (channel : Channel) (text : String) : ByteArray :=
  match channel.room with
  | none => text.toUTF8
  | some n => text.toUTF8.extract 0 n

/-- Whether a text can be written whole. -/
def fits (channel : Channel) (text : String) : Bool :=
  match channel.room with
  | none => true
  | some n => text.toUTF8.size ≤ n

/-- Appends a text in UTF-8, as far as it fits. -/
def write (channel : Channel) (text : String) : Channel where
  written := channel.written ++ channel.accepted text
  room := channel.room.map (· - text.toUTF8.size)

end Channel

end FrameCode
