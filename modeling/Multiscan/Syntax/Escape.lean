import Multiscan.Syntax.Cursor
import Multiscan.Text.Hexadecimal
/-!
# Syntax — single items: characters, escapes and assertions

What a backslash introduces, and the characters that stand for themselves.
An item of a pattern is a literal, an assertion, any character, or a class
without brackets; inside brackets only literals and classes have a meaning.
-/

namespace Multiscan.Syntax

/-- An item that is not put together from others. -/
inductive Atom
  | literal (l : Literal)
  | assertion (span : Span) (kind : AssertionKind)
  | dot (span : Span)
  | shorthand (c : Shorthand)
  | property (c : PropertyClass)
  deriving Repr

/-- Where an atom stands. -/
def Atom.span : Atom → Span
  | .literal l => l.span
  | .assertion s _ => s
  | .dot s => s
  | .shorthand c => c.span
  | .property c => c.span

/-- The tree of an atom. -/
def Atom.toTree : Atom → Tree
  | .literal l => .literal l
  | .assertion s k => .assertion s k
  | .dot s => .dot s
  | .shorthand c => .shorthand c
  | .property c => .property c

/-- An atom as a member of a bracketed class. -/
def Atom.toClassSet : Atom → Except SyntaxError ClassSet
  | .literal l => .ok (.literal l)
  | .shorthand c => .ok (.shorthand c)
  | .property c => .ok (.property c)
  | a => .error ⟨.classEscapeInvalid, a.span.start⟩

/-- An atom as an end of a range in a bracketed class. -/
def Atom.toRangeEnd : Atom → Except SyntaxError Literal
  | .literal l => .ok l
  | a => .error ⟨.classRangeLiteral, a.span.start⟩

/-- Characters that have a meaning of their own somewhere in a pattern. -/
def isMeta (c : Char) : Bool :=
  ['\\', '.', '+', '*', '?', '(', ')', '|', '[', ']', '\x7b', '\x7d', '^', '$', '#', '&', '-',
    '~'].contains c

/-- Characters that a backslash may stand before to no effect: all of ASCII
but letters, digits and the two angle brackets. -/
def isEscapable (c : Char) : Bool :=
  isMeta c || (decide (c.toNat < 128) && !c.isAlphanum && c != '<' && c != '>')

/-- The character whose code point has the given hexadecimal digits. -/
def charOfHex? (digits : List Char) : Option Char :=
  let code := Text.hexNumber digits
  if code.isValidChar then some (Char.ofNat code) else none

/-- Exactly so many hexadecimal digits, the cursor at the first. -/
def hexDigits (c : Cursor) : Nat → Except SyntaxError (List Char × Cursor)
  | 0 => .ok ([], c)
  | n + 1 =>
    match c.char? with
    | none => .error ⟨.escapeUnexpectedEnd, c.offset⟩
    | some x =>
      if Text.isHexDigit x then do
        let (digits, c) ← hexDigits c.next n
        .ok (x :: digits, c)
      else .error ⟨.escapeHexInvalidDigit, c.offset⟩

/-- A character by its code point, the cursor at the letter that says how:
two, four or eight digits, or any number of them in braces. -/
def hexEscape (start : Nat) (c : Cursor) : Except SyntaxError (Literal × Cursor) := do
  let count := match c.char? with
    | some 'x' => 2
    | some 'u' => 4
    | _ => 8
  let c := c.next
  match c.char? with
  | none => .error ⟨.escapeUnexpectedEnd, c.offset⟩
  | some '\x7b' =>
    let brace := c.offset
    let first := c.bump.offset
    let (digits, c) := c.next.run Text.isHexDigit
    match c.char? with
    | none => .error ⟨.escapeUnexpectedEnd, brace⟩
    | some '\x7d' =>
      let c := c.next
      if digits.isEmpty then .error ⟨.escapeHexEmpty, brace⟩
      else match charOfHex? digits with
        | none => .error ⟨.escapeHexInvalid, first⟩
        | some x => .ok (⟨⟨start, c.offset⟩, .hexCode, x⟩, c)
    | some _ => .error ⟨.escapeHexInvalidDigit, c.offset⟩
  | some _ =>
    let first := c.offset
    let (digits, c) ← hexDigits c count
    match charOfHex? digits with
    | none => .error ⟨.escapeHexInvalid, first⟩
    | some x =>
      .ok (⟨⟨start, c.offset⟩, if count = 2 then .hexByte else .hexCode, x⟩, c)

/-- The text before and after the first occurrence of a mark. -/
def cutAt? (mark : List Char) : List Char → Option (List Char × List Char)
  | [] => if mark.isEmpty then some ([], []) else none
  | c :: cs =>
    if mark.isPrefixOf (c :: cs) then some ([], (c :: cs).drop mark.length)
    else (cutAt? mark cs).map fun (before, behind) => (c :: before, behind)

/-- What the text in the braces of a property class asks for. -/
def propertyQuery (name : List Char) : PropertyQuery :=
  let valued (sign : PropertySign) (cut : List Char × List Char) :=
    PropertyQuery.valued sign (String.ofList cut.1) (String.ofList cut.2)
  match cutAt? ['!', '='] name with
  | some cut => valued .notEqual cut
  | none =>
    match cutAt? [':'] name with
    | some cut => valued .colon cut
    | none =>
      match cutAt? ['='] name with
      | some cut => valued .equal cut
      | none => .named (String.ofList name)

/-- A property class, the cursor at the letter `p` or `P`. -/
def propertyEscape (start : Nat) (c : Cursor) : Except SyntaxError (PropertyClass × Cursor) := do
  let negated := c.char? == some 'P'
  let c := c.next
  match c.char? with
  | none => .error ⟨.escapeUnexpectedEnd, c.offset⟩
  | some '\x7b' =>
    let (name, c) := c.next.run (· != '\x7d')
    match c.char? with
    | none => .error ⟨.escapeUnexpectedEnd, c.offset⟩
    | some _ =>
      let c := c.bump
      .ok (⟨⟨start, c.offset⟩, negated, propertyQuery name⟩, c)
  | some '\\' => .error ⟨.unicodeClassInvalid, c.offset⟩
  | some x =>
    let c := c.next
    .ok (⟨⟨start, c.offset⟩, negated, .letter x⟩, c)

/-- The kind of assertion that a word in braces after `\b` names. -/
def specialBoundary? (word : String) : Option AssertionKind :=
  if word = "start" then some .wordStart
  else if word = "end" then some .wordEnd
  else if word = "start-half" then some .wordStartHalf
  else if word = "end-half" then some .wordEndHalf
  else none

/-- Letters and hyphens, of which such words consist. -/
def isBoundaryLetter (c : Char) : Bool := c.isAlpha || c == '-'

/-- What the brace at the cursor makes of the `\b` before it, which started
at `start`: a special assertion, or nothing if the brace does not open one
and is left for a repetition. -/
def specialBoundary (start : Nat) (c : Cursor) :
    Except SyntaxError (Option (AssertionKind × Cursor)) :=
  let brace := c.offset
  let c := c.next
  match c.char? with
  | none => .error ⟨.specialWordOrRepetitionUnexpectedEnd, start⟩
  | some x =>
    if isBoundaryLetter x then
      let first := c.offset
      let (word, c) := c.run isBoundaryLetter
      if c.char? = some '\x7d' then
        match specialBoundary? (String.ofList word) with
        | some kind => .ok (some (kind, c.bump))
        | none => .error ⟨.specialWordBoundaryUnrecognized, first⟩
      else .error ⟨.specialWordBoundaryUnclosed, brace⟩
    else .ok none

/-- The shorthand class that a letter names, negated if it is a capital. -/
def shorthand? : Char → Option (ShorthandKind × Bool)
  | 'd' => some (.digit, false)
  | 's' => some (.space, false)
  | 'w' => some (.word, false)
  | 'D' => some (.digit, true)
  | 'S' => some (.space, true)
  | 'W' => some (.word, true)
  | _ => none

/-- The control character that a letter names. -/
def control? : Char → Option Char
  | 'a' => some '\x07'
  | 'f' => some '\x0c'
  | 't' => some '\t'
  | 'n' => some '\n'
  | 'r' => some '\r'
  | 'v' => some '\x0b'
  | _ => none

/-- The assertion that a letter or an angle bracket names. -/
def assertion? : Char → Option AssertionKind
  | 'A' => some .startText
  | 'z' => some .endText
  | 'b' => some .wordBoundary
  | 'B' => some .notWordBoundary
  | '<' => some .wordStartAngle
  | '>' => some .wordEndAngle
  | _ => none

/-- What a backslash introduces, the cursor at the backslash. -/
def escape (c : Cursor) : Except SyntaxError (Atom × Cursor) := do
  let start := c.offset
  let c := c.bump
  match c.char? with
  | none => .error ⟨.escapeUnexpectedEnd, start⟩
  | some x =>
    if x.isDigit then .error ⟨.unsupportedBackreference, start⟩
    else if x == 'x' || x == 'u' || x == 'U' then
      let (l, c) ← hexEscape start c
      .ok (.literal l, c)
    else if x == 'p' || x == 'P' then
      let (p, c) ← propertyEscape start c
      .ok (.property p, c)
    else
      let c := c.bump
      let span : Span := ⟨start, c.offset⟩
      match shorthand? x with
      | some (kind, negated) => .ok (.shorthand ⟨span, kind, negated⟩, c)
      | none =>
        if isEscapable x then .ok (.literal ⟨span, .escaped, x⟩, c)
        else match control? x with
          | some y => .ok (.literal ⟨span, .control, y⟩, c)
          | none =>
            match assertion? x with
            | none => .error ⟨.escapeUnrecognized, start⟩
            | some .wordBoundary =>
              if c.char? = some '\x7b' then do
                match ← specialBoundary start c with
                | some (kind, c') => .ok (.assertion ⟨start, c'.offset⟩ kind, c')
                | none => .ok (.assertion span .wordBoundary, c)
              else .ok (.assertion span .wordBoundary, c)
            | some kind => .ok (.assertion span kind, c)

/-- An atom outside brackets, the cursor at its first character `x`. -/
def atom (c : Cursor) (x : Char) : Except SyntaxError (Atom × Cursor) :=
  match x with
  | '\\' => escape c
  | '.' => .ok (.dot c.charSpan, c.bump)
  | '^' => .ok (.assertion c.charSpan .startLine, c.bump)
  | '$' => .ok (.assertion c.charSpan .endLine, c.bump)
  | x => .ok (.literal ⟨c.charSpan, .verbatim, x⟩, c.bump)

/-- An atom inside brackets, the cursor at its first character `x`. -/
def classAtom (c : Cursor) (x : Char) : Except SyntaxError (Atom × Cursor) :=
  if x == '\\' then escape c else .ok (.literal ⟨c.charSpan, .verbatim, x⟩, c.bump)

end Multiscan.Syntax
