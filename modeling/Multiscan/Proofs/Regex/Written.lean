import Multiscan.Proofs.Regex.AsciiItems
import Multiscan.Proofs.Syntax.Literals
/-!
# Regex — patterns as they are written

What patterns are built with brings expressions into a simple form, and that form
depends on what symbols are: a set of one byte is a literal, one of many
characters is not. As it is written, a pattern has one shape in all readings
(`Reading.written`). So whether symbols are bytes or characters, and whatever its
shorthand classes are, it comes to expressions that are alike in ASCII
(`alike_written`), unless it says otherwise itself: a literal for the long s or the
Kelvin sign has variants in ASCII among characters only (`Tree.KeepsCase`).
-/

namespace Multiscan.Regex

open Syntax
open Text (AllAscii Bytes)

variable {bs : Bytes} {r r' : Regex} {f f' : Setting} {t : Tree} {ts : List Tree}

/-! ## Settings -/

mutual

/-- The setting behind a tree. Inline flags count for what follows them; only
groups restore it. -/
def Setting.behind (f : Setting) : Tree → Setting
  | .flags _ _ items => f.withFlags items
  | .repetition _ _ _ _ sub => f.behind sub
  | .alternation _ ts => f.behindAll ts
  | .concat _ ts => f.behindAll ts
  | _ => f

/-- The setting behind several trees. -/
def Setting.behindAll (f : Setting) : List Tree → Setting
  | [] => f
  | t :: ts => (f.behind t).behindAll ts

end

/-- The setting inside a group. -/
def Setting.inside (f : Setting) (kind : GroupKind) : Setting :=
  (kind.flags?.map f.withFlags).getD f

theorem Setting.Like.withFlags (h : f.Like f') (items : List FlagItem) :
    (f.withFlags items).Like (f'.withFlags items) := by
  rw [Setting.Like, h]
  rfl

theorem Setting.Like.inside (h : f.Like f') (kind : GroupKind) :
    (f.inside kind).Like (f'.inside kind) := by
  cases kind with
  | numbered | named => exact h
  | plain _ items => exact h.withFlags items

theorem Setting.Like.swapGreed (h : f.Like f') : f'.swapGreed = f.swapGreed := by rw [h]

mutual

theorem Setting.Like.behind :
    (t : Tree) → ∀ {f f' : Setting}, f.Like f' → (f.behind t).Like (f'.behind t)
  | .flags _ _ items, _, _, h => h.withFlags items
  | .repetition _ _ _ _ sub, _, _, h => Setting.Like.behind sub h
  | .alternation _ ts, _, _, h => Setting.Like.behindAll ts h
  | .concat _ ts, _, _, h => Setting.Like.behindAll ts h
  | .empty _, _, _, h | .literal _, _, _, h | .dot _, _, _, h | .assertion _ _, _, _, h => h
  | .shorthand _, _, _, h | .property _, _, _, h | .bracketed _ _ _, _, _, h => h
  | .group _ _ _, _, _, h => h

theorem Setting.Like.behindAll :
    (ts : List Tree) → ∀ {f f' : Setting}, f.Like f' → (f.behindAll ts).Like (f'.behindAll ts)
  | [], _, _, h => h
  | t :: ts, _, _, h => Setting.Like.behindAll ts (Setting.Like.behind t h)

end

/-! ## Patterns as they are written -/

/-- A repetition as it is written. Without bound from none on it is left out, or
made once and more. -/
def writtenRepetition (min : Nat) (max : Option Nat) (greedy : Bool) (r : Regex) : Regex :=
  match max, min with
  | none, 0 => .repetition 0 (some 1) greedy (.repetition 1 none greedy r)
  | _, _ => .repetition min max greedy r

theorem alike_writtenRepetition (min : Nat) (max : Option Nat) (greedy : Bool)
    (h : Alike bs r r') :
    Alike bs (writtenRepetition min max greedy r) (writtenRepetition min max greedy r') := by
  cases max with
  | some max => exact .bounded min max greedy h
  | none =>
    cases min with
    | zero => exact .bounded 0 1 greedy (.unbounded 0 greedy h)
    | succ min => exact .unbounded min greedy h

theorem alike_groupRegex (kind : GroupKind) (h : Alike bs r r') :
    Alike bs (groupRegex kind r) (groupRegex kind r') := by
  cases kind with
  | numbered index => exact .capture index none h
  | named index _ name => exact .capture index (some name) h
  | plain => exact h

theorem alike_empty (bs : Bytes) : Alike bs .empty .empty :=
  .single some (fun _ _ _ => rfl) (fun _ _ _ => rfl)

namespace Reading

variable {R R' : Reading}

mutual

/-- The expression of a tree as it is written: sequences and alternations are of
all their parts, and nothing is joined or left out. -/
def written (R : Reading) (f : Setting) : Tree → Except SyntaxError Regex
  | .repetition _ _ kind greedy sub => do
    let r ← written R f sub
    let (min, max) := kind.counts
    return writtenRepetition min max (greedy != (f.behind sub).swapGreed) r
  | .group _ kind sub => do
    return groupRegex kind (← written R (f.inside kind) sub)
  | .alternation _ ts => do
    return .alternation (← writtens R f ts)
  | .concat _ ts => do
    return .concat (← writtens R f ts)
  | t => do
    return (← R.regex f t).1

/-- The expressions of several trees as they are written. -/
def writtens (R : Reading) (f : Setting) : List Tree → Except SyntaxError (List Regex)
  | [] => .ok []
  | t :: ts => do
    let r ← written R f t
    let rs ← writtens R (f.behind t) ts
    return r :: rs

end

/-- The expression of a pattern as it is written, under a word of flags. -/
def parseWritten (R : Reading) (pattern : List Char) (word : UInt32) :
    Except SyntaxError Regex := do
  let tree ← Tree.ofPattern? (Pattern.spelled pattern word)
  R.written (Pattern.setting word) tree

mutual

/-- **What has a meaning has one as it is written**, and the setting behind it is
known. -/
theorem written_of_regex : (t : Tree) → ∀ {f f' : Setting} {r : Regex},
    R.regex f t = .ok (r, f') → f' = f.behind t ∧ ∃ s, R.written f t = .ok s
  | .empty _, f, f', r, h | .flags _ _ _, f, f', r, h | .literal _, f, f', r, h
  | .dot _, f, f', r, h | .assertion _ _, f, f', r, h | .shorthand _, f, f', r, h => by
    obtain ⟨-, rfl⟩ := Prod.mk.inj (Except.ok.inj h)
    exact ⟨rfl, _, rfl⟩
  | .property c, f, f', r, h | .bracketed _ _ _, f, f', r, h => by
    obtain ⟨s, -, hs⟩ := bind_eq_ok.1 h
    obtain ⟨-, rfl⟩ := Prod.mk.inj (Except.ok.inj hs)
    exact ⟨rfl, r, bind_eq_ok.2 ⟨_, h, rfl⟩⟩
  | .repetition _ _ kind greedy sub, f, f', r, h => by
    obtain ⟨⟨q, f₁⟩, hq, h⟩ := bind_eq_ok.1 h
    obtain ⟨-, rfl⟩ := Prod.mk.inj (Except.ok.inj h)
    obtain ⟨hbehind, s, hs⟩ := written_of_regex sub hq
    exact ⟨hbehind, _, bind_eq_ok.2 ⟨s, hs, rfl⟩⟩
  | .group _ kind sub, f, f', r, h => by
    obtain ⟨⟨q, f₁⟩, hq, h⟩ := bind_eq_ok.1 h
    obtain ⟨-, rfl⟩ := Prod.mk.inj (Except.ok.inj h)
    obtain ⟨-, s, hs⟩ := written_of_regex sub hq
    exact ⟨rfl, _, bind_eq_ok.2 ⟨s, hs, rfl⟩⟩
  | .alternation _ ts, f, f', r, h | .concat _ ts, f, f', r, h => by
    obtain ⟨⟨rs, f₁⟩, hrs, h⟩ := bind_eq_ok.1 h
    obtain ⟨-, rfl⟩ := Prod.mk.inj (Except.ok.inj h)
    obtain ⟨hbehind, ss, hss⟩ := writtens_of_regexes ts hrs
    exact ⟨hbehind, _, bind_eq_ok.2 ⟨ss, hss, rfl⟩⟩

theorem writtens_of_regexes : (ts : List Tree) → ∀ {f f' : Setting} {rs : List Regex},
    R.regexes f ts = .ok (rs, f') → f' = f.behindAll ts ∧ ∃ ss, R.writtens f ts = .ok ss
  | [], f, f', rs, h => by
    obtain ⟨-, rfl⟩ := Prod.mk.inj (Except.ok.inj h)
    exact ⟨rfl, [], rfl⟩
  | t :: ts, f, f', rs, h => by
    obtain ⟨⟨r, f₁⟩, hr, h⟩ := bind_eq_ok.1 h
    obtain ⟨⟨rest, f₂⟩, hrest, h⟩ := bind_eq_ok.1 h
    obtain ⟨-, rfl⟩ := Prod.mk.inj (Except.ok.inj h)
    obtain ⟨rfl, s, hs⟩ := written_of_regex t hr
    obtain ⟨hbehind, ss, hss⟩ := writtens_of_regexes ts hrest
    exact ⟨hbehind, s :: ss, bind_eq_ok.2 ⟨s, hs, bind_eq_ok.2 ⟨ss, hss, rfl⟩⟩⟩

end

theorem exists_parseWritten {pattern : List Char} {word : UInt32}
    (h : R.parse pattern word = .ok r) : ∃ s, R.parseWritten pattern word = .ok s := by
  obtain ⟨tree, htree, h⟩ := bind_eq_ok.1 h
  obtain ⟨⟨r, f⟩, hregex, -⟩ := bind_eq_ok.1 h
  obtain ⟨-, s, hs⟩ := written_of_regex tree hregex
  exact ⟨s, bind_eq_ok.2 ⟨tree, htree, hs⟩⟩

end Reading

/-! ## Two readings of one tree -/

mutual

/-- Where case does not count and symbols are characters under one of two settings
only, no literal is for one of the two characters with variants in ASCII. -/
def KeepsCase (f f' : Setting) : Tree → Prop
  | .literal l => f.caseless = true → f.unicode ≠ f'.unicode →
    l.char.toNat ≠ 0x17F ∧ l.char.toNat ≠ 0x212A
  | .repetition _ _ _ _ sub => KeepsCase f f' sub
  | .group _ kind sub => KeepsCase (f.inside kind) (f'.inside kind) sub
  | .alternation _ ts => AllKeepCase f f' ts
  | .concat _ ts => AllKeepCase f f' ts
  | _ => True

/-- The same for several trees, each under the settings behind the one before it. -/
def AllKeepCase (f f' : Setting) : List Tree → Prop
  | [] => True
  | t :: ts => KeepsCase f f' t ∧ AllKeepCase (f.behind t) (f'.behind t) ts

end

namespace Reading

variable {R R' : Reading}

theorem valid_shorthand (hR : R.Standard) (f : Setting) (c : Shorthand) :
    SymbolSet.Valid f.alphabet (R.shorthand f c).intervals := by
  rcases hR with rfl | rfl
  · exact (proper_shorthandSet f c).valid
  · have hnamed := SymbolSet.valid_ofIntervals (valid_asciiIntervals f.alphabet c.toAscii.kind)
    exact (proper_foldThenNegate c.toAscii.negated hnamed).valid

mutual

/-- **Two readings of one tree** come to expressions that are alike in ASCII, as
long as they do not differ on the case of a literal. -/
theorem alike_written (hbs : AllAscii bs) (hR : R.Standard) (hR' : R'.Standard) :
    (t : Tree) → t.NamesBytes → ∀ {f f' : Setting} {r r' : Regex}, f.Like f' → KeepsCase f f' t →
    R.written f t = .ok r → R'.written f' t = .ok r' → Alike bs r r'
  | .empty _, _, f, f', r, r', _, _, h, h' | .flags _ _ _, _, f, f', r, r', _, _, h, h' => by
    obtain rfl := Except.ok.inj h
    obtain rfl := Except.ok.inj h'
    exact alike_empty bs
  | .literal l, _, f, f', r, r', hlike, hcase, h, h' => by
    obtain rfl := Except.ok.inj h
    obtain rfl := Except.ok.inj h'
    exact alike_literalRegex hbs hlike hcase
  | .dot _, _, f, f', r, r', hlike, _, h, h' => by
    obtain rfl := Except.ok.inj h
    obtain rfl := Except.ok.inj h'
    exact alike_dotRegex hbs hlike
  | .assertion _ kind, _, f, f', r, r', hlike, _, h, h' => by
    obtain rfl := Except.ok.inj h
    obtain rfl := Except.ok.inj h'
    exact alike_look hbs hR hR' hlike
  | .shorthand c, _, f, f', r, r', hlike, _, h, h' => by
    obtain rfl := Except.ok.inj h
    obtain rfl := Except.ok.inj h'
    exact alike_ofSet hbs (valid_shorthand hR f c) (valid_shorthand hR' f' c)
      (sameOnAscii_shorthand hR hR' hlike c)
  | .property c, _, f, f', r, r', hlike, _, h, h' => by
    obtain ⟨_, h, hr⟩ := bind_eq_ok.1 h
    obtain ⟨_, h', hr'⟩ := bind_eq_ok.1 h'
    obtain ⟨s, hs, h⟩ := bind_eq_ok.1 h
    obtain ⟨s', hs', h'⟩ := bind_eq_ok.1 h'
    obtain rfl := Except.ok.inj h
    obtain rfl := Except.ok.inj h'
    obtain rfl := Except.ok.inj hr
    obtain rfl := Except.ok.inj hr'
    exact alike_ofSet hbs (proper_propertySet hs).valid (proper_propertySet hs').valid
      (sameOnAscii_propertySet hlike hs hs')
  | .bracketed _ negated set, hbytes, f, f', r, r', hlike, _, h, h' => by
    obtain ⟨_, h, hr⟩ := bind_eq_ok.1 h
    obtain ⟨_, h', hr'⟩ := bind_eq_ok.1 h'
    obtain ⟨s, hs, h⟩ := bind_eq_ok.1 h
    obtain ⟨s', hs', h'⟩ := bind_eq_ok.1 h'
    obtain rfl := Except.ok.inj h
    obtain rfl := Except.ok.inj h'
    obtain rfl := Except.ok.inj hr
    obtain rfl := Except.ok.inj hr'
    have hvalid := valid_members hR hs
    have hvalid' := valid_members hR' hs'
    have hsame := sameOnAscii_members hR hR' hlike set hbytes hs hs'
    exact alike_ofSet hbs (proper_foldThenNegate negated hvalid).valid
      (proper_foldThenNegate negated hvalid').valid (hsame.foldThenNegate hvalid hvalid')
  | .repetition _ _ kind greedy sub, hbytes, f, f', r, r', hlike, hcase, h, h' => by
    obtain ⟨q, hq, h⟩ := bind_eq_ok.1 h
    obtain ⟨q', hq', h'⟩ := bind_eq_ok.1 h'
    obtain rfl := Except.ok.inj h
    obtain rfl := Except.ok.inj h'
    have hsub := alike_written hbs hR hR' sub hbytes hlike hcase hq hq'
    have hgreed : (f'.behind sub).swapGreed = (f.behind sub).swapGreed :=
      (hlike.behind sub).swapGreed
    rw [hgreed]
    exact alike_writtenRepetition _ _ _ hsub
  | .group _ kind sub, hbytes, f, f', r, r', hlike, hcase, h, h' => by
    obtain ⟨q, hq, h⟩ := bind_eq_ok.1 h
    obtain ⟨q', hq', h'⟩ := bind_eq_ok.1 h'
    obtain rfl := Except.ok.inj h
    obtain rfl := Except.ok.inj h'
    exact alike_groupRegex kind
      (alike_written hbs hR hR' sub hbytes (hlike.inside kind) hcase hq hq')
  | .alternation _ ts, hbytes, f, f', r, r', hlike, hcase, h, h' => by
    obtain ⟨rs, hrs, h⟩ := bind_eq_ok.1 h
    obtain ⟨rs', hrs', h'⟩ := bind_eq_ok.1 h'
    obtain rfl := Except.ok.inj h
    obtain rfl := Except.ok.inj h'
    exact .alternation (alike_writtens hbs hR hR' ts hbytes hlike hcase hrs hrs')
  | .concat _ ts, hbytes, f, f', r, r', hlike, hcase, h, h' => by
    obtain ⟨rs, hrs, h⟩ := bind_eq_ok.1 h
    obtain ⟨rs', hrs', h'⟩ := bind_eq_ok.1 h'
    obtain rfl := Except.ok.inj h
    obtain rfl := Except.ok.inj h'
    exact .concat (alike_writtens hbs hR hR' ts hbytes hlike hcase hrs hrs')

theorem alike_writtens (hbs : AllAscii bs) (hR : R.Standard) (hR' : R'.Standard) :
    (ts : List Tree) → Tree.AllNameBytes ts → ∀ {f f' : Setting} {rs rs' : List Regex}, f.Like f' →
    AllKeepCase f f' ts → R.writtens f ts = .ok rs → R'.writtens f' ts = .ok rs' →
    List.Forall₂ (Alike bs) rs rs'
  | [], _, f, f', rs, rs', _, _, h, h' => by
    obtain rfl := Except.ok.inj h
    obtain rfl := Except.ok.inj h'
    exact .nil
  | t :: ts, ⟨ht, hts⟩, f, f', rs, rs', hlike, ⟨hcase, hcases⟩, h, h' => by
    obtain ⟨r, hr, h⟩ := bind_eq_ok.1 h
    obtain ⟨rest, hrest, h⟩ := bind_eq_ok.1 h
    obtain ⟨r', hr', h'⟩ := bind_eq_ok.1 h'
    obtain ⟨rest', hrest', h'⟩ := bind_eq_ok.1 h'
    obtain rfl := Except.ok.inj h
    obtain rfl := Except.ok.inj h'
    exact .cons (alike_written hbs hR hR' t ht hlike hcase hr hr')
      (alike_writtens hbs hR hR' ts hts (hlike.behind t) hcases hrest hrest')

end

end Reading

/-! ## Patterns in ASCII -/

variable {pattern : List Char} {word word' : UInt32}

/-- Words that have the same flags but those for symbols and classes. -/
theorem like_setting (h : ∀ f ∈ [Flag.caseless, .multiLine, .dotAll],
    FlagWord.has word f = FlagWord.has word' f) :
    (Pattern.setting word).Like (Pattern.setting word') := by
  simp only [List.forall_mem_cons, List.not_mem_nil, false_imp_iff, implies_true, and_true] at h
  obtain ⟨hcaseless, hmultiLine, hdotAll⟩ := h
  rw [Setting.Like, Pattern.setting, Pattern.setting, hcaseless, hmultiLine, hdotAll]

theorem spelled_of_ascii (h : ∀ c ∈ pattern, c.toNat < 128) (word : UInt32) :
    Pattern.spelled pattern word = pattern := by
  rw [Pattern.spelled]
  split
  · rfl
  · exact spellInBytes_of_ascii h

/-- **A pattern in ASCII finds the same of ASCII** under both words, as it is
written. -/
theorem findAll_parseWritten (hbs : AllAscii bs) (hpattern : ∀ c ∈ pattern, c.toNat < 128)
    (hlike : (Pattern.setting word).Like (Pattern.setting word'))
    (hcase : ∀ tree, Tree.ofPattern? pattern = .ok tree →
      KeepsCase (Pattern.setting word) (Pattern.setting word') tree)
    (h : (Reading.ofWord word).parseWritten pattern word = .ok r)
    (h' : (Reading.ofWord word').parseWritten pattern word' = .ok r') (whole whole' : Bool) :
    findAll bs whole r = findAll bs whole' r' := by
  obtain ⟨tree, htree, hr⟩ := bind_eq_ok.1 h
  obtain ⟨tree', htree', hr'⟩ := bind_eq_ok.1 h'
  rw [spelled_of_ascii hpattern] at htree htree'
  obtain rfl := Except.ok.inj (htree.symm.trans htree')
  have halike := Reading.alike_written hbs (Reading.standard_ofWord word)
    (Reading.standard_ofWord word') tree (namesBytes_ofPattern? htree) hlike (hcase tree htree) hr hr'
  exact findAll_alike hbs halike whole whole'

end Multiscan.Regex
