import Multiscan.Pattern
import Multiscan.Proofs.Regex.Shorthand
/-!
# Regex — what classes and assertions stand for in a pattern

The tree of a pattern is rewritten before it is translated when its classes are
to stay ASCII. A `Reading` says the same without the rewriting: which set each
shorthand class stands for, and which assertion each written one, under the
flags in force where it stands. A pattern means what its reading makes of the
tree that was read (`parse_eq`), so what a reading says of a class or an
assertion holds at every place of every pattern.
-/

namespace Multiscan.Regex

open Syntax

/-- What the shorthand classes and the assertions of a pattern stand for under
a setting of flags. -/
structure Reading where
  shorthand : Setting → Shorthand → SymbolSet
  look : Setting → AssertionKind → Look

namespace Reading

variable {R : Reading}

/-- Classes and assertions follow the setting alone. -/
def plain : Reading := ⟨shorthandSet, lookOf⟩

/-- Shorthand classes are named classes of ASCII, and `\b` and `\B` are about
bytes. -/
def ascii : Reading where
  shorthand f c := asciiSet f c.toAscii
  look f
    | .wordBoundary => .wordAscii
    | .notWordBoundary => .wordAsciiNegate
    | kind => lookOf f kind

mutual

/-- The members of what stands between brackets. -/
def members (R : Reading) (f : Setting) : ClassSet → Except SyntaxError SymbolSet
  | .shorthand c => .ok (R.shorthand f c)
  | .bracketed _ negated inner => do
    return foldThenNegate f negated (← members R f inner)
  | .union _ items => do
    return .ofIntervals (← unionMembers R f items)
  | .op _ kind lhs rhs => do
    let s ← members R f lhs
    let t ← members R f rhs
    return applySetOp f kind s t
  | set => classMembers f set

/-- The members of several sets, as intervals in no order. -/
def unionMembers (R : Reading) (f : Setting) :
    List ClassSet → Except SyntaxError (List (Nat × Nat))
  | [] => .ok []
  | set :: sets => do
    let s ← members R f set
    let rest ← unionMembers R f sets
    return s.intervals ++ rest

end

mutual

/-- The expression of a tree under a setting, and the setting behind it. -/
def regex (R : Reading) (f : Setting) : Tree → Except SyntaxError (Regex × Setting)
  | .assertion _ kind => .ok (.look (R.look f kind), f)
  | .shorthand c => .ok (ofSet f.alphabet (R.shorthand f c), f)
  | .bracketed _ negated set => do
    return (ofSet f.alphabet (foldThenNegate f negated (← members R f set)), f)
  | .repetition _ _ kind greedy sub => do
    let (r, f') ← regex R f sub
    let (min, max) := kind.counts
    return (ofRepetition min max (greedy != f'.swapGreed) r, f')
  | .group _ kind sub => do
    let inside := (kind.flags?.map f.withFlags).getD f
    let (r, _) ← regex R inside sub
    return (groupRegex kind r, f)
  | .alternation _ ts => do
    let (rs, f') ← regexes R f ts
    return (ofAlternation rs, f')
  | .concat _ ts => do
    let (rs, f') ← regexes R f ts
    return (ofConcat rs, f')
  | t => ofTree f t

/-- The expressions of several trees, each under the setting behind the one
before it. -/
def regexes (R : Reading) (f : Setting) : List Tree → Except SyntaxError (List Regex × Setting)
  | [] => .ok ([], f)
  | t :: ts => do
    let (r, f) ← regex R f t
    let (rs, f) ← regexes R f ts
    return (r :: rs, f)

end

/-- The reading of the patterns under a word of flags. -/
def ofWord (word : UInt32) : Reading :=
  if FlagWord.has word .utf8 && !FlagWord.has word .ucp then ascii else plain

/-- What a reading makes of a pattern under a word of flags. -/
def parse (R : Reading) (pattern : List Char) (word : UInt32) : Except SyntaxError Regex := do
  let tree ← Tree.ofPattern? (Pattern.spelled pattern word)
  let (r, _) ← R.regex (Pattern.setting word) tree
  return r

/-! ## A reading says what the rewriting does -/

mutual

theorem members_plain (f : Setting) : (set : ClassSet) → plain.members f set = classMembers f set
  | .empty _ | .literal _ | .range _ _ _ | .ascii _ | .property _ | .shorthand _ => rfl
  | .bracketed _ negated inner => by
    rw [members, classMembers, members_plain f inner]
  | .union _ items => by
    rw [members, classMembers, unionMembers_plain f items]
  | .op _ kind lhs rhs => by
    rw [members, classMembers, members_plain f lhs, members_plain f rhs]

theorem unionMembers_plain (f : Setting) :
    (sets : List ClassSet) → plain.unionMembers f sets = Regex.unionMembers f sets
  | [] => rfl
  | set :: sets => by
    rw [unionMembers, Regex.unionMembers, members_plain f set, unionMembers_plain f sets]

end

mutual

theorem members_ascii (f : Setting) :
    (set : ClassSet) → ascii.members f set = classMembers f set.toAscii
  | .empty _ | .literal _ | .range _ _ _ | .ascii _ | .property _ | .shorthand _ => rfl
  | .bracketed _ negated inner => by
    rw [members, ClassSet.toAscii, classMembers, members_ascii f inner]
  | .union _ items => by
    rw [members, ClassSet.toAscii, classMembers, unionMembers_ascii f items]
  | .op _ kind lhs rhs => by
    rw [members, ClassSet.toAscii, classMembers, members_ascii f lhs, members_ascii f rhs]

theorem unionMembers_ascii (f : Setting) : (sets : List ClassSet) →
    ascii.unionMembers f sets = Regex.unionMembers f (ClassSet.allToAscii sets)
  | [] => rfl
  | set :: sets => by
    rw [unionMembers, ClassSet.allToAscii, Regex.unionMembers, members_ascii f set,
      unionMembers_ascii f sets]

end

mutual

theorem regex_plain (f : Setting) : (t : Tree) → plain.regex f t = ofTree f t
  | .empty _ | .flags _ _ _ | .literal _ | .dot _ | .assertion _ _ | .shorthand _ => rfl
  | .property _ => rfl
  | .bracketed _ negated set => by
    rw [regex, ofTree, members_plain f set]
  | .repetition _ _ kind greedy sub => by
    rw [regex, ofTree, regex_plain f sub]
  | .group _ kind sub => by
    rw [regex, ofTree, regex_plain _ sub]
  | .alternation _ ts => by
    rw [regex, ofTree, regexes_plain f ts]
  | .concat _ ts => by
    rw [regex, ofTree, regexes_plain f ts]

theorem regexes_plain (f : Setting) : (ts : List Tree) → plain.regexes f ts = ofTrees f ts
  | [] => rfl
  | t :: ts => by
    rw [regexes, ofTrees, regex_plain f t]
    simp only [regexes_plain _ ts]

end

mutual

theorem regex_ascii (f : Setting) : (t : Tree) → ascii.regex f t = ofTree f t.toAscii
  | .empty _ | .flags _ _ _ | .literal _ | .dot _ | .property _ => rfl
  | .assertion s kind => by
    cases kind <;> rfl
  | .shorthand c => by
    have hset := foldThenNegate_asciiSet f c
    rw [regex, Tree.toAscii, ofTree, classMembers]
    exact congrArg (fun s => Except.ok (ofSet f.alphabet s, f)) hset.symm
  | .bracketed _ negated set => by
    rw [regex, Tree.toAscii, ofTree, members_ascii f set]
  | .repetition _ _ kind greedy sub => by
    rw [regex, Tree.toAscii, ofTree, regex_ascii f sub]
  | .group _ kind sub => by
    rw [regex, Tree.toAscii, ofTree, regex_ascii _ sub]
  | .alternation _ ts => by
    rw [regex, Tree.toAscii, ofTree, regexes_ascii f ts]
  | .concat _ ts => by
    rw [regex, Tree.toAscii, ofTree, regexes_ascii f ts]

theorem regexes_ascii (f : Setting) :
    (ts : List Tree) → ascii.regexes f ts = ofTrees f (Tree.allToAscii ts)
  | [] => rfl
  | t :: ts => by
    rw [regexes, Tree.allToAscii, ofTrees, regex_ascii f t]
    simp only [regexes_ascii _ ts]

end

/-- **A pattern means what its reading makes of it.** -/
theorem parse_eq (pattern : List Char) (word : UInt32) :
    Pattern.parse pattern word = (ofWord word).parse pattern word := by
  rw [Pattern.parse, parse, ofWord]
  refine bind_congr fun tree => ?_
  rw [Pattern.adapted]
  split
  · rw [regex_ascii]
  · rw [regex_plain]

theorem parse_eq_ascii (pattern : List Char) {word : UInt32}
    (hutf8 : FlagWord.has word .utf8 = true) (hucp : FlagWord.has word .ucp = false) :
    Pattern.parse pattern word = ascii.parse pattern word := by
  rw [parse_eq, ofWord, hutf8, hucp]
  rfl

/-! ## Shorthand classes -/

/-- **Shorthand classes are ASCII but for two variants.** In a pattern for
characters without Unicode classes, every shorthand class, wherever it stands
and whichever flags are in force there, has the members that ASCII gives it, or
negated the other symbols. Only where case does not count among characters, the
class of word characters has the long s and the Kelvin sign, too. -/
theorem shorthand_ascii_or_variant (pattern : List Char) (word : UInt32)
    (hutf8 : FlagWord.has word .utf8 = true) (hucp : FlagWord.has word .ucp = false) :
    Pattern.parse pattern word = ascii.parse pattern word ∧
      ∀ (f : Setting) (c : Shorthand) (n : Nat), f.alphabet.IsSymbol n →
        ((ascii.shorthand f c).contains n = true ↔
          (c.negated = true ↔ ¬ (c.kind.HasAscii n ∨
            f.caseless = true ∧ f.unicode = true ∧ c.kind.HasVariant n))) :=
  ⟨parse_eq_ascii pattern hutf8 hucp, fun _ _ _ hn => contains_asciiSet hn⟩

/-- The long s is matched by the class of word characters. -/
theorem shorthand_ascii_or_variant_of_long_s :
    ∃ s, Pattern.parse ['\\', 'w'] (Flag.caseless.bit ||| Flag.utf8.bit) =
        .ok (ofSet .character s) ∧
      s.contains 'ſ'.toNat = true ∧ ¬ ShorthandKind.word.HasAscii 'ſ'.toNat := by
  obtain ⟨hparse, hmembers⟩ := shorthand_ascii_or_variant ['\\', 'w']
    (Flag.caseless.bit ||| Flag.utf8.bit) (by decide) (by decide)
  refine ⟨ascii.shorthand (Pattern.setting (Flag.caseless.bit ||| Flag.utf8.bit))
    ⟨⟨0, 2⟩, .word, false⟩, hparse, ?_, by decide⟩
  exact (hmembers _ _ 'ſ'.toNat (by decide)).2 (by decide)

/-! ## Word boundaries -/

/-- What a word boundary asks of its two sides, of which each may be a word
character or not; nothing for assertions about something else. -/
def wordRule? : AssertionKind → Option (Bool → Bool → Bool)
  | .wordBoundary => some fun before behind => before != behind
  | .notWordBoundary => some fun before behind => before == behind
  | .wordStart | .wordStartAngle => some fun before behind => !before && behind
  | .wordEnd | .wordEndAngle => some fun before behind => before && !behind
  | .wordStartHalf => some fun before _ => !before
  | .wordEndHalf => some fun _ behind => !behind
  | .startLine | .endLine | .startText | .endText => none

/-- The word boundaries that are about bytes in every setting. -/
def IsPlainBoundary (kind : AssertionKind) : Prop :=
  kind = .wordBoundary ∨ kind = .notWordBoundary

/-- The reading of ASCII puts these into a setting for bytes. -/
theorem look_ascii_of_plain {kind : AssertionKind} (h : IsPlainBoundary kind) (f : Setting) :
    ascii.look f kind = lookOf { f with unicode := false } kind := by
  rcases h with rfl | rfl
  · rfl
  · rfl

/-- It leaves all other assertions as they are. -/
theorem look_ascii_of_not_plain {kind : AssertionKind} (h : ¬ IsPlainBoundary kind)
    (f : Setting) : ascii.look f kind = lookOf f kind := by
  cases kind with
  | wordBoundary => exact absurd (.inl rfl) h
  | notWordBoundary => exact absurd (.inr rfl) h
  | _ => rfl

/-- In a setting for bytes, assertions about words are about bytes. -/
theorem holds_lookOf_bytes {f : Setting} {kind : AssertionKind} {rule : Bool → Bool → Bool}
    (hrule : wordRule? kind = some rule) (hbytes : f.unicode = false) (bs : Text.Bytes) (i : Nat) :
    (lookOf f kind).holds bs i = rule (wordByteBefore bs i) (wordByteAt bs i) := by
  cases kind
  all_goals simp only [wordRule?, Option.some.injEq, reduceCtorEq] at hrule
  all_goals
    rw [← hrule, lookOf, hbytes]
    rfl

/-- Without a word character on a side that can be read, there is none at it. -/
theorem getD_wordCharBefore? {bs : Text.Bytes} {i : Nat} {before : Bool}
    (h : sideBefore? bs i = some before) : (wordCharBefore? bs i).getD false = before := by
  rw [sideBefore?] at h
  split at h
  · next hzero =>
    rw [wordCharBefore?, Text.decodeBefore, if_pos hzero]
    exact Option.some.inj h
  · rw [h]
    rfl

theorem getD_wordCharAt? {bs : Text.Bytes} {i : Nat} {behind : Bool}
    (h : sideAt? bs i = some behind) : (wordCharAt? bs i).getD false = behind := by
  rw [sideAt?] at h
  split at h
  · next hend =>
    have hnone : Text.decodeAt bs i = none := by
      rcases hc : Text.decodeAt bs i with _ | c
      · rfl
      · have hle := Text.decodeWithin_le hc
        have hpos := Text.width_pos c
        omega
    rw [wordCharAt?, hnone]
    exact Option.some.inj h
  · rw [h]
    rfl

/-- In a setting for characters they are about the characters on both sides. -/
theorem holds_lookOf_characters {f : Setting} {kind : AssertionKind} {rule : Bool → Bool → Bool}
    (hrule : wordRule? kind = some rule) (hunicode : f.unicode = true) {bs : Text.Bytes} {i : Nat}
    {before behind : Bool} (hbefore : sideBefore? bs i = some before)
    (hbehind : sideAt? bs i = some behind) :
    (lookOf f kind).holds bs i = rule before behind := by
  have hcharBefore := getD_wordCharBefore? hbefore
  have hcharAt := getD_wordCharAt? hbehind
  cases kind
  all_goals simp only [wordRule?, Option.some.injEq, reduceCtorEq] at hrule
  all_goals
    rw [← hrule, lookOf, hunicode, if_pos rfl, Look.holds]
    simp [hcharBefore, hcharAt, hbefore, hbehind]

/-- **Plain word boundaries are about bytes.** In a pattern for characters
without Unicode classes, `\b` and `\B` ask for the bytes on their two sides,
wherever they stand and whichever flags are in force there, and the other word
boundaries do where an inline flag makes characters bytes. Elsewhere these ask
for the characters on their two sides, in ASCII or not. -/
theorem plain_boundary_asks_bytes (pattern : List Char) (word : UInt32)
    (hutf8 : FlagWord.has word .utf8 = true) (hucp : FlagWord.has word .ucp = false) :
    Pattern.parse pattern word = ascii.parse pattern word ∧
      ∀ (f : Setting) (kind : AssertionKind) (rule : Bool → Bool → Bool),
        wordRule? kind = some rule → ∀ (bs : Text.Bytes) (i : Nat),
          (IsPlainBoundary kind ∨ f.unicode = false →
            (ascii.look f kind).holds bs i = rule (wordByteBefore bs i) (wordByteAt bs i)) ∧
          (¬ IsPlainBoundary kind → f.unicode = true → ∀ before behind : Bool,
            sideBefore? bs i = some before → sideAt? bs i = some behind →
              (ascii.look f kind).holds bs i = rule before behind) := by
  refine ⟨parse_eq_ascii pattern hutf8 hucp, fun f kind rule hrule bs i => ⟨?_, ?_⟩⟩
  · intro hbytes
    by_cases hplain : IsPlainBoundary kind
    · rw [look_ascii_of_plain hplain]
      exact holds_lookOf_bytes hrule rfl bs i
    · rw [look_ascii_of_not_plain hplain]
      exact holds_lookOf_bytes hrule (hbytes.resolve_left hplain) bs i
  · intro hplain hunicode before behind hbefore hbehind
    rw [look_ascii_of_not_plain hplain]
    exact holds_lookOf_characters hrule hunicode hbefore hbehind

/-- A word starts at a letter outside ASCII, though no byte there is one of a
word. -/
theorem plain_boundary_asks_bytes_not_start :
    ∃ l, Pattern.parse "\\b\x7bstart\x7d".toList Flag.utf8.bit = .ok (.look l) ∧
      wordByteBefore (Text.bytesOf "é") 0 = false ∧ wordByteAt (Text.bytesOf "é") 0 = false ∧
      l.holds (Text.bytesOf "é") 0 = true := by
  obtain ⟨hparse, hboundaries⟩ := plain_boundary_asks_bytes "\\b\x7bstart\x7d".toList
    Flag.utf8.bit (by decide) (by decide)
  obtain ⟨-, hcharacters⟩ := hboundaries (Pattern.setting Flag.utf8.bit) .wordStart _ rfl
    (Text.bytesOf "é") 0
  refine ⟨_, hparse, by decide +kernel, by decide +kernel, ?_⟩
  refine hcharacters ?_ (by decide) false true (by decide +kernel) (by decide +kernel)
  rintro (h | h)
  · exact nomatch h
  · exact nomatch h

end Reading

end Multiscan.Regex
