import Multiscan.Text.Utf8
/-!
# Text — byte offsets and character offsets

Engines report matches as byte offsets into the encoding of a text; callers
count characters. An `OffsetMap` is built once per text and translates
both. Where every character is one byte the offsets are the same, and the
map is no more than the length; otherwise it holds, for every byte, the
index of its character and, for every character, its first byte.
-/

namespace Multiscan.Text

/-- The translation between the byte and character offsets of a text. -/
inductive OffsetMap
  /-- Every character is one byte. -/
  | ascii (length : Nat)
  /-- `owners` holds the character index of every byte; `starts` the first
  byte of every character and, last, the length in bytes. -/
  | mapped (owners starts : Array Nat)
  deriving Repr, DecidableEq

namespace OffsetMap

/-- The owner of every byte, the first character having index `k`. -/
def owners (k : Nat) : List Char → List Nat
  | [] => []
  | c :: cs => List.replicate (width c) k ++ owners (k + 1) cs

/-- The first byte of every character and the offset after the last, the
first character starting at byte `at_`. -/
def starts (at_ : Nat) : List Char → List Nat
  | [] => [at_]
  | c :: cs => at_ :: starts (at_ + width c) cs

/-- The map that holds tables, whatever the text. -/
def tabulate (cs : List Char) : OffsetMap :=
  .mapped (owners 0 cs).toArray (starts 0 cs).toArray

/-- The map of a text. -/
def ofText (cs : List Char) : OffsetMap :=
  if cs.all (fun c => decide (c.toNat < 128)) then .ascii cs.length else tabulate cs

/-- The length of the text in bytes. -/
def length : OffsetMap → Nat
  | .ascii n => n
  | .mapped owners _ => owners.size

/-- The length of the text in characters. -/
def charLength : OffsetMap → Nat
  | .ascii n => n
  | .mapped _ starts => starts.size - 1

/-- The index of the character that holds a byte; past the end, the number
of characters. -/
def charAt (m : OffsetMap) (at_ : Nat) : Nat :=
  match m with
  | .ascii n => min at_ n
  | .mapped owners _ => owners[at_]?.getD m.charLength

/-- The half-open range of characters that a match over the bytes from
`start` to `stop` covers. The range ends after the character that holds the
last byte. An empty match has no last byte: its end is raised to one first,
so at the start of a text it covers the first character. -/
def span (m : OffsetMap) (start stop : Nat) : Nat × Nat :=
  let last := max stop 1 - 1
  let stop' := min (m.charAt last + 1) m.charLength
  (min (m.charAt start) stop', stop')

/-- The byte at which a character starts. -/
def byteAt (m : OffsetMap) (k : Nat) : Nat :=
  match m with
  | .ascii _ => k
  | .mapped _ starts => starts[k]?.getD m.length

end OffsetMap

/-- What is left of a text after so many bytes; a character that is cut
goes with the bytes before it. -/
def dropBytes : Nat → List Char → List Char
  | 0, cs => cs
  | _ + 1, [] => []
  | n + 1, c :: cs => dropBytes (n + 1 - width c) cs

/-- The characters of a text that start within so many bytes. -/
def takeBytes : Nat → List Char → List Char
  | 0, _ => []
  | _ + 1, [] => []
  | n + 1, c :: cs => c :: takeBytes (n + 1 - width c) cs

/-- The characters of a text between two character offsets, found by the
bytes at which they start. -/
def OffsetMap.slice (m : OffsetMap) (cs : List Char) (start stop : Nat) : List Char :=
  takeBytes (m.byteAt stop - m.byteAt start) (dropBytes (m.byteAt start) cs)

end Multiscan.Text
