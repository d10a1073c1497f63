import Multiscan.Regex.Intervals
import Multiscan.Regex.Look
/-!
# Regex — regular expressions over bytes

What a pattern means, with its flags applied: a regular expression whose
matches are stretches of bytes. Sets of characters match the encoding of
one character. Patterns are built with the functions at the end of the
module, which bring expressions into a simple form: sequences and
alternations are flat, adjacent literals are one, alternations of single
symbols are a set, and a common front of alternatives stands before them.
-/

namespace Multiscan

open Regex

/-- A regular expression over bytes. -/
inductive Regex
  /-- Matches the empty stretch. -/
  | empty
  /-- Matches these bytes. -/
  | literal (bytes : List UInt8)
  /-- Matches one byte, or the encoding of one character, of a set. -/
  | oneOf (alphabet : Alphabet) (set : SymbolSet)
  /-- Matches the empty stretch where an assertion holds. -/
  | look (l : Look)
  /-- Matches so many stretches that `sub` matches, one behind the other;
  more of them are tried first if `greedy`. -/
  | repetition (min : Nat) (max : Option Nat) (greedy : Bool) (sub : Regex)
  /-- Matches what `sub` matches, and numbers it. -/
  | capture (index : Nat) (name : Option String) (sub : Regex)
  /-- Matches stretches of the parts, one behind the other. -/
  | concat (parts : List Regex)
  /-- Matches what one of the alternatives matches, earlier ones first. -/
  | alternation (alternatives : List Regex)
  deriving Repr

namespace Regex

mutual

/-- Whether two expressions are equal. -/
def beq : Regex → Regex → Bool
  | .empty, .empty => true
  | .literal bytes, .literal bytes' => bytes == bytes'
  | .oneOf a s, .oneOf a' s' => a == a' && s == s'
  | .look l, .look l' => l == l'
  | .repetition min max greedy sub, .repetition min' max' greedy' sub' =>
    min == min' && max == max' && greedy == greedy' && beq sub sub'
  | .capture index name sub, .capture index' name' sub' =>
    index == index' && name == name' && beq sub sub'
  | .concat parts, .concat parts' => allBeq parts parts'
  | .alternation alts, .alternation alts' => allBeq alts alts'
  | _, _ => false

/-- Whether two lists of expressions are equal. -/
def allBeq : List Regex → List Regex → Bool
  | [], [] => true
  | r :: rs, r' :: rs' => beq r r' && allBeq rs rs'
  | _, _ => false

end

mutual

theorem beq_iff : (r r' : Regex) → (beq r r' = true ↔ r = r')
  | .empty, r' => by cases r' <;> simp [beq]
  | .literal _, r' => by cases r' <;> simp [beq]
  | .oneOf _ _, r' => by cases r' <;> simp [beq]
  | .look _, r' => by cases r' <;> simp [beq]
  | .repetition _ _ _ sub, r' => by
    cases r' <;> simp [beq, and_assoc, beq_iff sub]
  | .capture _ _ sub, r' => by
    cases r' <;> simp [beq, and_assoc, beq_iff sub]
  | .concat parts, r' => by
    cases r' <;> simp [beq, allBeq_iff parts]
  | .alternation alts, r' => by
    cases r' <;> simp [beq, allBeq_iff alts]

theorem allBeq_iff : (rs rs' : List Regex) → (allBeq rs rs' = true ↔ rs = rs')
  | [], rs' => by cases rs' <;> simp [allBeq]
  | r :: rs, rs' => by
    cases rs' <;> simp [allBeq, beq_iff r, allBeq_iff rs]

end

instance : DecidableEq Regex := fun r r' => decidable_of_iff _ (beq_iff r r')

/-- The least length of a match in bytes that a symbol set allows. -/
def setMinLen? (a : Alphabet) (s : SymbolSet) : Option Nat :=
  match a, s.intervals with
  | _, [] => none
  | .byte, _ => some 1
  | .character, r :: _ => some (Text.width (Char.ofNat r.1))

/-- The greatest length of a match in bytes that a symbol set allows. -/
def setMaxLen? (a : Alphabet) (s : SymbolSet) : Option Nat :=
  match a, s.intervals.getLast? with
  | _, none => none
  | .byte, _ => some 1
  | .character, some r => some (Text.width (Char.ofNat r.2))

mutual

/-- The least length of a match; none for an expression that is thought to
have no match. -/
def minLen? : Regex → Option Nat
  | .empty => some 0
  | .literal bytes => some bytes.length
  | .oneOf a s => setMinLen? a s
  | .look _ => some 0
  | .repetition min _ _ sub => sub.minLen?.map (· * min)
  | .capture _ _ sub => sub.minLen?
  | .concat parts => concatMinLen? parts
  | .alternation alts => leastLen? alts

/-- The sum of the least lengths, if each part has one. -/
def concatMinLen? : List Regex → Option Nat
  | [] => some 0
  | r :: rs =>
    match r.minLen?, concatMinLen? rs with
    | some m, some n => some (m + n)
    | _, _ => none

/-- The least of the least lengths, if each alternative has one. -/
def leastLen? : List Regex → Option Nat
  | [] => none
  | [r] => r.minLen?
  | r :: rs =>
    match r.minLen?, leastLen? rs with
    | some m, some n => some (Nat.min m n)
    | _, _ => none

end

mutual

/-- The greatest length of a match; none if there is no bound, or no match
at all. -/
def maxLen? : Regex → Option Nat
  | .empty => some 0
  | .literal bytes => some bytes.length
  | .oneOf a s => setMaxLen? a s
  | .look _ => some 0
  | .repetition _ max _ sub =>
    match max, sub.maxLen? with
    | some n, some m => some (m * n)
    | _, _ => none
  | .capture _ _ sub => sub.maxLen?
  | .concat parts => concatMaxLen? parts
  | .alternation alts => greatestLen? alts

/-- The sum of the greatest lengths, if each part has one. -/
def concatMaxLen? : List Regex → Option Nat
  | [] => some 0
  | r :: rs =>
    match r.maxLen?, concatMaxLen? rs with
    | some m, some n => some (m + n)
    | _, _ => none

/-- The greatest of the greatest lengths, if each alternative has one. -/
def greatestLen? : List Regex → Option Nat
  | [] => none
  | [r] => r.maxLen?
  | r :: rs =>
    match r.maxLen?, greatestLen? rs with
    | some m, some n => some (Nat.max m n)
    | _, _ => none

end

mutual

/-- Whether an assertion occurs anywhere. -/
def mentions (l : Look) : Regex → Bool
  | .look l' => l == l'
  | .repetition _ _ _ sub => sub.mentions l
  | .capture _ _ sub => sub.mentions l
  | .concat parts => anyMentions l parts
  | .alternation alts => anyMentions l alts
  | _ => false

/-- The same for any of several expressions. -/
def anyMentions (l : Look) : List Regex → Bool
  | [] => false
  | r :: rs => r.mentions l || anyMentions l rs

end

/-- Whether an expression can match more than the empty stretch, as far as
its greatest length tells. -/
def canConsume (r : Regex) : Bool := r.maxLen? != some 0

mutual

/-- Whether every match ends where an assertion holds, as far as the last
parts tell. -/
def endsWith (l : Look) : Regex → Bool
  | .look l' => l == l'
  | .repetition min _ _ sub => min != 0 && sub.endsWith l
  | .capture _ _ sub => sub.endsWith l
  | .concat parts => (lastEndsWith l parts).1
  | .alternation alts => allEndWith l alts
  | _ => false

/-- Whether one of the parts behind the last that can consume, or that part
itself, ends with the assertion; and whether there is such a part. -/
def lastEndsWith (l : Look) : List Regex → Bool × Bool
  | [] => (false, false)
  | r :: rs =>
    let (found, stopped) := lastEndsWith l rs
    if stopped then (found, true) else (found || r.endsWith l, r.canConsume)

/-- Whether each of the alternatives ends with the assertion. -/
def allEndWith (l : Look) : List Regex → Bool
  | [] => true
  | r :: rs => r.endsWith l && allEndWith l rs

end

/-! ## Building expressions

The functions by which patterns are built. Each returns an expression with
the matches that its name promises. -/

/-- An expression that has no match. -/
def fail : Regex := .oneOf .byte .empty

/-- The expression that matches these bytes. -/
def ofBytes (bytes : List UInt8) : Regex := if bytes.isEmpty then .empty else .literal bytes

/-- The bytes that the only member of a set stands for. -/
def onlyMember? (a : Alphabet) (s : SymbolSet) : Option (List UInt8) :=
  match a, s.intervals with
  | .byte, [(lo, hi)] => if lo = hi then some [UInt8.ofNat lo] else none
  | .character, [(lo, hi)] => if lo = hi then some (Text.encodeChar (Char.ofNat lo)) else none
  | _, _ => none

/-- The expression that matches one symbol of a set. -/
def ofSet (a : Alphabet) (s : SymbolSet) : Regex :=
  if s.intervals.isEmpty then fail
  else match onlyMember? a s with
    | some bytes => ofBytes bytes
    | none => .oneOf a s

/-- The expression that repeats another. What only matches the empty
stretch need not be repeated more than once. -/
def ofRepetition (min : Nat) (max : Option Nat) (greedy : Bool) (sub : Regex) : Regex :=
  let (min, max) :=
    if sub.maxLen? = some 0 then (Nat.min min 1, some ((max.map (Nat.min · 1)).getD 1))
    else (min, max)
  if min = 0 ∧ max = some 0 then .empty
  else if min = 1 ∧ max = some 1 then sub
  else .repetition min max greedy sub

/-- A literal not yet put down, before the parts behind it. -/
def withLiteral (pending : List UInt8) (parts : List Regex) : List Regex :=
  if pending.isEmpty then parts else .literal pending :: parts

/-- Parts in which adjacent literals are joined and nothing is empty;
`pending` are the bytes of the literal that may still grow. -/
def joinLiterals (pending : List UInt8) : List Regex → List Regex
  | [] => withLiteral pending []
  | .literal bytes :: rest => joinLiterals (pending ++ bytes) rest
  | .empty :: rest => joinLiterals pending rest
  | r :: rest => withLiteral pending (r :: joinLiterals [] rest)

/-- The parts of a sequence with the sequences among them opened. -/
def openConcats (parts : List Regex) : List Regex :=
  parts.flatMap fun
    | .concat inner => inner
    | r => [r]

/-- The expression that matches several in sequence. -/
def ofConcat (parts : List Regex) : Regex :=
  match joinLiterals [] (openConcats parts) with
  | [] => .empty
  | [r] => r
  | rs => .concat rs

/-- The alternatives of an alternation with the alternations among them
opened. -/
def openAlternations (alts : List Regex) : List Regex :=
  alts.flatMap fun
    | .alternation inner => inner
    | r => [r]

/-- The one character whose encoding a literal is. -/
def literalChar? (bytes : List UInt8) : Option Char :=
  match Text.decodeAt bytes.toArray 0 with
  | some c => if Text.width c = bytes.length then some c else none
  | none => none

/-- A set of characters as one. A set of bytes is one if all of them are in
ASCII. -/
def asCharacters? : Regex → Option SymbolSet
  | .oneOf .character s => some s
  | .oneOf .byte s => if s.isAscii then some s else none
  | _ => none

/-- A set of bytes as one. A set of characters is one if all of them are in
ASCII. -/
def asBytes? : Regex → Option SymbolSet
  | .oneOf .byte s => some s
  | .oneOf .character s => if s.isAscii then some s else none
  | _ => none

/-- A literal of one character as a set. -/
def literalCharacter? : Regex → Option SymbolSet
  | .literal bytes => (literalChar? bytes).map fun c => .interval c.toNat c.toNat
  | _ => none

/-- A literal of one byte as a set. -/
def literalByte? : Regex → Option SymbolSet
  | .literal [b] => some (.interval b.toNat b.toNat)
  | _ => none

/-- The union of the sets that all the alternatives are under one reading. -/
def unionOf? (reading : Regex → Option SymbolSet) (alts : List Regex) : Option SymbolSet :=
  (alts.mapM reading).map fun sets => .ofIntervals (sets.flatMap (·.intervals))

/-- How many parts two sequences have in common at the front. -/
def commonFront : List Regex → List Regex → Nat
  | r :: rs, q :: qs => if r == q then commonFront rs qs + 1 else 0
  | _, _ => 0

/-- The parts of a sequence. -/
def partsOf? : Regex → Option (List Regex)
  | .concat parts => some parts
  | _ => none

/-- Several alternatives as one set of symbols, if all of them are single
symbols or all of them are sets. -/
def asOneSet? (alts : List Regex) : Option Regex :=
  (unionOf? literalCharacter? alts).map (ofSet .character)
    <|> (unionOf? literalByte? alts).map (ofSet .byte)
    <|> (unionOf? asCharacters? alts).map (ofSet .character)
    <|> (unionOf? asBytes? alts).map (ofSet .byte)

mutual

/-- The number of nodes of an expression. -/
def size : Regex → Nat
  | .repetition _ _ _ sub => sub.size + 1
  | .capture _ _ sub => sub.size + 1
  | .concat parts => totalSize parts + 1
  | .alternation alts => totalSize alts + 1
  | _ => 1

/-- The number of nodes of several expressions. -/
def totalSize : List Regex → Nat
  | [] => 0
  | r :: rs => r.size + totalSize rs

end

/-- The expression that matches what one of several matches. Alternatives
that are all sequences with a common front are that front before the
alternatives of what is left of them, which are built in the same way;
`fuel` bounds how often. -/
def factorAlternation : Nat → List Regex → Regex
  | fuel, alts =>
    match openAlternations alts with
    | [] => fail
    | [r] => r
    | alts =>
      match asOneSet? alts with
      | some r => r
      | none =>
        match fuel, alts.mapM partsOf? with
        | fuel + 1, some (first :: rest) =>
          match rest.foldl (fun n ps => Nat.min n (commonFront first ps)) first.length with
          | 0 => .alternation alts
          | n + 1 =>
            -- What is left of the alternatives may be factored once more.
            let tails := (first :: rest).map fun ps => ofConcat (ps.drop (n + 1))
            ofConcat (first.take (n + 1) ++ [factorAlternation fuel tails])
        | _, _ => .alternation alts

/-- The expression that matches what one of several matches, earlier ones
first. -/
def ofAlternation (alts : List Regex) : Regex := factorAlternation (totalSize alts) alts

end Regex

end Multiscan
