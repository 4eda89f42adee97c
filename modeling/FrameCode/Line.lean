import FrameCode.Fault

/-!
# Lines of input

A line is the bytes up to and including the next line feed, or up to the end of the input.

- `Line.next`: the first line and the input after it
- `Line.content`: a line without its ending
- `Line.decode`: the text of a line
-/

namespace FrameCode
namespace Line

def lineFeed : UInt8 := 10

def carriageReturn : UInt8 := 13

/-- The first line of an input, with its line feed, and what follows it; the line is empty at the
end of the input. -/
def next (input : List UInt8) : List UInt8 × List UInt8 :=
  match input.span (· != lineFeed) with
  | (line, []) => (line, [])
  | (line, feed :: rest) => (line ++ [feed], rest)

/-- A line without its line feed, and without a carriage return before the line feed. -/
def content (line : List UInt8) : List UInt8 :=
  match line.reverse with
  | last :: before =>
    if last = lineFeed then
      match before with
      | previous :: rest =>
        if previous = carriageReturn then rest.reverse else before.reverse
      | [] => []
    else
      line
  | [] => []

/-- The text of a line without its ending; there is none at the end of the input. -/
def decode (line : List UInt8) : Except ChannelFailure (Option String) :=
  if line.isEmpty then
    .ok none
  else
    match String.fromUTF8? ⟨(content line).toArray⟩ with
    | none => .error .notText
    | some text => .ok (some text)

end Line
end FrameCode
