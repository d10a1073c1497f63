import Multiscan.Syntax.Cursor
import Multiscan.Unicode.GeneralCategory
import Multiscan.Unicode.BinaryProperty
import Multiscan.Unicode.Word
/-!
# Syntax — what opens a group

After an opening parenthesis stand, for some groups, a name or flags. A
flag list can also stand alone, in which case it holds for the rest of the
group around it.
-/

namespace Multiscan.Syntax

open Text (width)

/-- The alphabetic characters. -/
def alphabetic : List (Nat × Nat) := (Unicode.binaryRanges "Alphabetic").getD []

/-- The characters with a numeric general category. -/
def numeric : List (Nat × Nat) := Unicode.categoryRanges "N"

/-- Alphabetic characters. -/
def isAlphabetic (c : Char) : Bool :=
  if c.toNat < 128 then c.isAlpha else Unicode.inRanges alphabetic c.toNat

/-- Characters with a numeric general category. -/
def isNumeric (c : Char) : Bool :=
  if c.toNat < 128 then c.isDigit else Unicode.inRanges numeric c.toNat

/-- Characters that a group name may start with. -/
def isNameStart (c : Char) : Bool := c == '_' || isAlphabetic c

/-- Characters that may follow in a group name. -/
def isNamePart (c : Char) : Bool :=
  c == '_' || c == '.' || c == '[' || c == ']' || isAlphabetic c || isNumeric c

/-- The characters of a name. -/
def nameChars : List Char → List Char
  | [] => []
  | c :: cs => if isNameStart c then c :: cs.takeWhile isNamePart else []

/-- A group name up to and including the bracket that closes it. -/
def groupName (c : Cursor) : Except SyntaxError (Span × String × Cursor) :=
  let start := c.offset
  let name := nameChars c.rest
  let c := name.foldl (fun c _ => c.bump) c
  match c.char? with
  | none => .error ⟨.groupNameUnexpectedEnd, c.offset⟩
  | some '>' =>
    let text := String.ofList name
    if name.isEmpty then .error ⟨.groupNameEmpty, start⟩
    else if c.names.contains text then .error ⟨.groupNameDuplicate, start⟩
    else .ok (⟨start, c.offset⟩, text, { c.bump with names := text :: c.names })
  | some _ => .error ⟨.groupNameInvalid, c.offset⟩

/-- The flag that a letter names. -/
def inlineFlag? : Char → Option InlineFlag
  | 'i' => some .caseless
  | 's' => some .dotAll
  | 'm' => some .multiLine
  | 'U' => some .swapGreed
  | 'u' => some .unicode
  | 'R' => some .crlf
  | 'x' => some .verbose
  | _ => none

/-- One item of a flag list. -/
def flagItemKind? : Char → Option FlagItemKind
  | '-' => some .negation
  | c => (inlineFlag? c).map .flag

/-- The flags up to the character that ends the list, with the offset of
that character and what is left from it on; `items` are those before. -/
def flagList (items : List FlagItem) (offset : Nat) :
    List Char → Except SyntaxError (List FlagItem × Nat × List Char)
  | [] => .error ⟨.flagUnexpectedEnd, offset⟩
  | c :: cs =>
    if c == ':' || c == ')' then
      match items.getLast? with
      | some ⟨span, .negation⟩ => .error ⟨.flagDanglingNegation, span.start⟩
      | _ => .ok (items, offset, c :: cs)
    else match flagItemKind? c with
      | none => .error ⟨.flagUnrecognized, offset⟩
      | some kind =>
        if items.any (·.kind = kind) then
          .error ⟨if kind = .negation then .flagRepeatedNegation else .flagDuplicate, offset⟩
        else flagList (items ++ [⟨⟨offset, offset + width c⟩, kind⟩]) (offset + width c) cs

/-- What an opening parenthesis introduces. -/
inductive Opening
  /-- Flags for the rest of the group around. -/
  | flags (span flagSpan : Span) (items : List FlagItem)
  /-- A group, opened at `start`. -/
  | group (start : Nat) (kind : GroupKind)

/-- The number of the next capture group. -/
def Cursor.nextGroup (c : Cursor) : Nat × Cursor :=
  (c.groups + 1, { c with groups := c.groups + 1 })

/-- What the parenthesis at the cursor introduces. -/
def opening (c : Cursor) : Except SyntaxError (Opening × Cursor) := do
  let start := c.offset
  let c := c.next
  let isThere (text : String) := (c.after? text).isSome
  if isThere "?=" || isThere "?!" || isThere "?<=" || isThere "?<!" then
    throw ⟨.unsupportedLookAround, start⟩
  match c.after? "?P<" <|> c.after? "?<" with
  | some c =>
    let (index, c) := c.nextGroup
    let (span, name, c) ← groupName c
    return (.group start (.named index span name), c)
  | none =>
    match c.after? "?" with
    | none =>
      let (index, c) := c.nextGroup
      return (.group start (.numbered index), c)
    | some f =>
      if f.char?.isNone then throw ⟨.groupUnclosed, start⟩
      let (items, offset, rest) ← flagList [] f.offset f.rest
      let flagSpan : Span := ⟨f.offset, offset⟩
      let f := { f with offset, rest }
      if f.char? == some ')' then
        if items.isEmpty then throw ⟨.repetitionMissing, c.offset⟩
        let f := f.bump
        return (.flags ⟨start, f.offset⟩ flagSpan items, f)
      else return (.group start (.plain flagSpan items), f.bump)

end Multiscan.Syntax
