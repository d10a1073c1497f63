import Multiscan.Syntax.Error
import Multiscan.Syntax.Tree
import Multiscan.Text.Utf8
import Multiscan.Unicode.Word
/-!
# Syntax — a place in a pattern

Reading moves a cursor over the pattern. In verbose mode blanks and
comments, which run from `#` to the end of the line, may stand between the
characters of most constructs; moving on then passes over them.
-/

namespace Multiscan.Syntax

open Text (width)
open Unicode (isWhiteSpace)

/-- A place in a pattern and what is known there: the byte offset, the
characters left, whether blanks are passed over, how many capture groups
have been opened and the names they were given. -/
structure Cursor where
  offset : Nat
  rest : List Char
  verbose : Bool
  groups : Nat
  names : List String
  deriving Repr

/-- The start of a pattern. -/
def Cursor.start (pattern : List Char) : Cursor := ⟨0, pattern, false, 0, []⟩

/-- What is left after the blanks and comments at the front, and the offset
there; `inComment` tells whether a comment is open. -/
def passBlanks (offset : Nat) (inComment : Bool) : List Char → Nat × List Char
  | [] => (offset, [])
  | c :: cs =>
    if inComment then passBlanks (offset + width c) (c != '\n') cs
    else if isWhiteSpace c then passBlanks (offset + width c) false cs
    else if c == '#' then passBlanks (offset + width c) true cs
    else (offset, c :: cs)

namespace Cursor

/-- The character at the cursor. -/
def char? (c : Cursor) : Option Char := c.rest.head?

/-- The character after the one at the cursor. -/
def peek? (c : Cursor) : Option Char := c.rest.tail.head?

/-- The cursor after one character. -/
def bump (c : Cursor) : Cursor :=
  match c.rest with
  | [] => c
  | x :: xs => { c with offset := c.offset + width x, rest := xs }

/-- The cursor past blanks and comments, in verbose mode. -/
def skip (c : Cursor) : Cursor :=
  if c.verbose then
    let (offset, rest) := passBlanks c.offset false c.rest
    { c with offset, rest }
  else c

/-- The cursor after one character and the blanks behind it. -/
def next (c : Cursor) : Cursor := c.bump.skip

/-- The cursor after a given text, if that is what stands there. -/
def after? (c : Cursor) (text : String) : Option Cursor :=
  if text.toList.isPrefixOf c.rest then some (text.toList.foldl (fun c _ => c.bump) c) else none

/-- The span of the character at the cursor. -/
def charSpan (c : Cursor) : Span := ⟨c.offset, c.bump.offset⟩

/-- The empty span at the cursor. -/
def here (c : Cursor) : Span := ⟨c.offset, c.offset⟩

/-- The first character that is neither a blank nor the sign of a comment;
what the comment says is looked at as well. -/
def afterBlanks? : List Char → Bool → Option Char
  | [], _ => none
  | c :: cs, inComment =>
    if isWhiteSpace c then afterBlanks? cs inComment
    else if !inComment && c == '#' then afterBlanks? cs true
    else some c

/-- The character after the one at the cursor, blanks passed over in
verbose mode; where only blanks are left, the first of them. -/
def peekPastBlanks? (c : Cursor) : Option Char :=
  if c.verbose then
    match afterBlanks? c.rest.tail false with
    | some x => some x
    | none => c.peek?
  else c.peek?

end Cursor

/-- The longest run of characters with a property, the offset behind it and
what is left. Blanks and comments between and behind the characters of the
run are passed over if `skipping`; `inside` tells whether the run has begun
and `inComment` whether a comment is open. -/
def takeRun (p : Char → Bool) (skipping inside inComment : Bool) (offset : Nat) :
    List Char → List Char × Nat × List Char
  | [] => ([], offset, [])
  | c :: cs =>
    if inComment then takeRun p skipping inside (c != '\n') (offset + width c) cs
    else if skipping && inside && isWhiteSpace c then
      takeRun p skipping inside false (offset + width c) cs
    else if skipping && inside && c == '#' then
      takeRun p skipping inside true (offset + width c) cs
    else if p c then
      let (run, offset', rest) := takeRun p skipping true false (offset + width c) cs
      (c :: run, offset', rest)
    else ([], offset, c :: cs)

/-- The run of characters with a property at the cursor and the cursor
behind it. -/
def Cursor.run (c : Cursor) (p : Char → Bool) : List Char × Cursor :=
  let (run, offset, rest) := takeRun p c.verbose false false c.offset c.rest
  (run, { c with offset, rest })

end Multiscan.Syntax
