import Multiscan.Proofs.Regex.AsciiMembers
import Multiscan.Proofs.Regex.Characters
import Multiscan.Proofs.Regex.Lockstep
/-!
# Regex — what single items do in ASCII

Among bytes in ASCII a literal, a set or any-character takes one byte of which
something holds, or stops the machine (`Takes`), and an assertion asks for bytes.
So an item does the same whether symbols are bytes or characters, and whichever
its shorthand classes are (`alike_ofSet`, `alike_dotRegex`, `alike_look`). Only a
literal for the long s or the Kelvin sign does not, where case does not count
(`alike_literalRegex`).
-/

namespace Multiscan.Regex

open Syntax SymbolSet
open Text (AllAscii Bytes encodeChar)

variable {bs : Bytes} {p q : Nat → Prop} {r r' : Regex} {a : Alphabet} {s s' : SymbolSet}
variable {f f' : Setting} {i n : Nat}

/-! ## Taking one byte -/

/-- An item that takes one byte of which something holds, and nothing else. -/
structure Takes (bs : Bytes) (p : Nat → Prop) (r : Regex) : Prop where
  takes {pos : Nat} {b : UInt8} (k : List Frame) (hb : bs[pos]? = some b) (hp : p b.toNat) :
    runStep bs pos r k = .move k (pos + 1)
  stops {pos : Nat} (k : List Frame) (h : ∀ b, bs[pos]? = some b → ¬ p b.toNat) :
    runStep bs pos r k = .dead

/-- Only the bytes that there are count. -/
theorem Takes.congr_of_mem (hr : Takes bs p r)
    (h : ∀ (i : Nat) (b : UInt8), bs[i]? = some b → (p b.toNat ↔ q b.toNat)) : Takes bs q r where
  takes k hb hq := hr.takes k hb ((h _ _ hb).2 hq)
  stops k hq := hr.stops k fun b hb hp => hq b hb ((h _ _ hb).1 hp)

theorem Takes.congr (hbs : AllAscii bs) (hr : Takes bs p r) (h : ∀ n < 128, (p n ↔ q n)) :
    Takes bs q r :=
  hr.congr_of_mem fun i b hb => h b.toNat (hbs i b hb)

open Classical in
/-- Items that take the same are alike. -/
theorem Takes.alike (hr : Takes bs p r) (hr' : Takes bs p r') : Alike bs r r' := by
  let next (pos : Nat) : Option Nat :=
    if ∃ b, bs[pos]? = some b ∧ p b.toNat then some (pos + 1) else none
  have hnext : ∀ {r : Regex}, Takes bs p r → ∀ pos ≤ bs.size, ∀ k,
      runStep bs pos r k = goOn (next pos) k := by
    intro r hr pos _ k
    by_cases h : ∃ b, bs[pos]? = some b ∧ p b.toNat
    · obtain ⟨b, hb, hp⟩ := h
      have hsome : next pos = some (pos + 1) := if_pos ⟨b, hb, hp⟩
      rw [hr.takes k hb hp, hsome, goOn]
    · have hnone : next pos = none := if_neg h
      rw [hr.stops k fun b hb hp => h ⟨b, hb, hp⟩, hnone, goOn]
  exact .single next (hnext hr) (hnext hr')

/-! ## Literals -/

theorem takes_byte (bs : Bytes) (b : UInt8) : Takes bs (· = b.toNat) (.literal [b]) where
  takes {pos c} k hc hp := by
    obtain rfl := UInt8.toNat_inj.1 hp
    have hlt := (Array.getElem?_eq_some_iff.1 hc).1
    have hbytes : bytesAt bs pos [c] = true := by
      rw [bytesAt, hc, beq_self_eq_true, Bool.true_and]
      exact decide_eq_true hlt
    rw [runStep, if_pos hbytes]
    rfl
  stops {pos} k h := by
    have hbytes : ¬ bytesAt bs pos [b] = true := by
      intro hthere
      exact h b (getElem?_of_bytesAt (j := 0) hthere rfl) rfl
    rw [runStep, if_neg hbytes]

/-- A byte outside ASCII stands nowhere. -/
theorem takes_high (hbs : AllAscii bs) {b : UInt8} {rest : List UInt8} (hb : 128 ≤ b.toNat)
    (hp : ∀ n < 128, ¬ p n) : Takes bs p (.literal (b :: rest)) where
  takes k hc hpc := absurd hpc (hp _ (hbs _ _ hc))
  stops {pos} k h := by
    have hbytes : ¬ bytesAt bs pos (b :: rest) = true := by
      intro hthere
      have hlt := hbs pos b (getElem?_of_bytesAt (j := 0) hthere rfl)
      omega
    rw [runStep, if_neg hbytes]

theorem takes_encodeChar (hbs : AllAscii bs) (c : Char) :
    Takes bs (· = c.toNat) (.literal (encodeChar c)) := by
  by_cases hascii : c.toNat < 128
  · have htake := takes_byte bs (UInt8.ofNat c.toNat)
    rw [Text.toNat_ofNat_byte (by omega)] at htake
    rw [Text.encodeChar_of_ascii hascii]
    exact htake
  · obtain ⟨b, rest, henc, hb⟩ := Text.encodeChar_of_not_ascii hascii
    rw [henc]
    exact takes_high hbs hb fun n hn hsame => by omega

theorem ofBytes_encodeChar (c : Char) : ofBytes (encodeChar c) = .literal (encodeChar c) := by
  obtain ⟨b, rest, henc, -⟩ := Text.exists_cons_encodeChar c
  rw [henc]
  rfl

/-! ## Sets -/

/-- Among bytes in ASCII, a symbol is a byte. -/
theorem symbolAt?_of_ascii (hbs : AllAscii bs) {b : UInt8} (hb : bs[i]? = some b) :
    symbolAt? bs i a s = if s.contains b.toNat then some (i + 1) else none := by
  cases a with
  | byte => rw [symbolAt?, hb]
  | character =>
    have hnumber := Text.toNat_charOfNat (Text.isValidChar_toNat b)
    have hlt := hbs i b hb
    have hwidth : Text.width (Char.ofNat b.toNat) = 1 := by
      rw [Text.width, if_pos (by omega)]
    rw [symbolAt?, Text.decodeAt_of_ascii hbs hb]
    dsimp only
    rw [hnumber, hwidth]

theorem symbolAt?_eq_none (h : bs[i]? = none) : symbolAt? bs i a s = none := by
  cases a with
  | byte => rw [symbolAt?, h]
  | character =>
    rw [symbolAt?, Text.decodeAt_eq_none (Array.getElem?_eq_none_iff.1 h)]

theorem takes_oneOf (hbs : AllAscii bs) (a : Alphabet) (s : SymbolSet) :
    Takes bs (s.contains · = true) (.oneOf a s) where
  takes k hb hp := by
    rw [runStep, symbolAt?_of_ascii hbs hb, if_pos hp]
  stops {pos} k h := by
    rcases hb : bs[pos]? with _ | b
    · rw [runStep, symbolAt?_eq_none hb]
    · rw [runStep, symbolAt?_of_ascii hbs hb, if_neg (h b hb)]

/-- The expression of a set takes its members. -/
theorem takes_ofSet (hbs : AllAscii bs) (hs : Valid a s.intervals) :
    Takes bs (s.contains · = true) (ofSet a s) := by
  obtain ⟨rfl, hset⟩ | ⟨n, rfl, hset⟩ | hset := ofSet_cases a s
  · exact hset ▸ takes_oneOf hbs .byte .empty
  · have hsymbol := (hs (n, n) (List.mem_singleton_self _)).1
    have htake : Takes bs (· = n) (.literal (symbolBytes a n)) := by
      cases a with
      | byte =>
        have hbyte := takes_byte bs (UInt8.ofNat n)
        rwa [Text.toNat_ofNat_byte (Nat.lt_succ_of_le (isSymbol_byte.1 hsymbol))] at hbyte
      | character =>
        have hchar := takes_encodeChar hbs (Char.ofNat n)
        rwa [toNat_ofNat hsymbol] at hchar
    exact hset ▸ htake.congr hbs fun m _ => contains_single.symm
  · exact hset ▸ takes_oneOf hbs a s

/-- **Sets that are the same on ASCII** are alike. -/
theorem alike_ofSet (hbs : AllAscii bs) (hs : Valid f.alphabet s.intervals)
    (hs' : Valid f'.alphabet s'.intervals) (h : SameOnAscii f f' s s') :
    Alike bs (ofSet f.alphabet s) (ofSet f'.alphabet s') :=
  (takes_ofSet hbs hs).alike
    ((takes_ofSet hbs hs').congr hbs fun n hn => (h n hn).1.symm)

/-! ## The items of a pattern -/

theorem takes_literalBytes (hbs : AllAscii bs) (f : Setting) (l : Literal) :
    Takes bs (· = l.char.toNat) (ofBytes (literalBytes f l)) := by
  have hchar := takes_encodeChar hbs l.char
  rw [← ofBytes_encodeChar] at hchar
  rw [literalBytes]
  split
  · next b hb =>
    split
    · next hhigh =>
      obtain ⟨-, hhigh⟩ := Bool.and_eq_true_iff.1 hhigh
      have hge : 128 ≤ b.toNat := UInt8.le_iff_toNat_le.1 (of_decide_eq_true hhigh)
      refine takes_high hbs hge fun n hn hsame => ?_
      -- The byte would be the character itself.
      obtain ⟨-, hb⟩ := Option.ite_none_right_eq_some.1 hb
      obtain rfl := Option.some.inj hb
      rw [← hsame, Text.toNat_ofNat_byte (by omega)] at hge
      omega
    · exact hchar
  · exact hchar

/-- A literal takes the variants of its character. -/
theorem takes_literalRegex (hbs : AllAscii bs) (f : Setting) (l : Literal) :
    Takes bs (f.Variants l.char.toNat) (literalRegex f l) := by
  have hplain := takes_literalBytes hbs f l
  rw [literalRegex_eq]
  dsimp only
  split
  · next hfold =>
    obtain ⟨hcase, hfoldable⟩ := Bool.and_eq_true_iff.1 hfold
    have hfolded : ∀ n < 128,
        ((interval l.char.toNat l.char.toNat).caseFold f.alphabet).contains n = true ↔
          f.Variants l.char.toNat n := by
      intro n hn
      have hmembers := contains_folded (f := f) (s := interval l.char.toNat l.char.toNat)
        (.inl hn : f.alphabet.Near n)
      rw [foldThenNegate, if_neg Bool.false_ne_true, if_pos hcase, Setting.Meets] at hmembers
      simp only [contains_single, exists_eq_right] at hmembers
      exact hmembers
    split
    · next hsame =>
      refine hplain.congr hbs fun n hn => ?_
      rw [← hfolded n hn, hsame, contains_single]
    · have hvariants := valid_caseFold (valid_single (isSymbol_of_foldable hfoldable))
      exact (takes_ofSet hbs hvariants).congr hbs hfolded
  · next hplainly =>
    refine hplain.congr hbs fun n hn => ?_
    constructor
    · exact fun h => .inl h.symm
    · rintro (h | ⟨hcase, ⟨hletter, hbyte⟩, -, -⟩)
      · exact h.symm
      · -- A letter that is one where it stands would have been folded.
        refine absurd (Bool.and_eq_true_iff.2 ⟨hcase, ?_⟩) hplainly
        by_cases hunicode : f.unicode = true
        · rw [hunicode, Bool.true_or]
        · rw [Bool.or_eq_true, decide_eq_true_eq]
          exact .inr (hbyte (if_neg hunicode))

/-- **A literal does the same** whatever symbols are, unless it is one of the two
characters with variants in ASCII. -/
theorem alike_literalRegex (hbs : AllAscii bs) (hlike : f.Like f') {l : Literal}
    (h : f.caseless = true → f.unicode ≠ f'.unicode →
      l.char.toNat ≠ 0x17F ∧ l.char.toNat ≠ 0x212A) :
    Alike bs (literalRegex f l) (literalRegex f' l) :=
  (takes_literalRegex hbs f l).alike
    ((takes_literalRegex hbs f' l).congr hbs fun _ hn => (variants_iff hlike h hn).symm)

/-- Any-character takes what does not end a line. -/
theorem takes_dotRegex (hbs : AllAscii bs) (f : Setting) :
    Takes bs (fun n => ¬ Holds (lineEnds f) n) (dotRegex f) := by
  obtain ⟨hvalid, hapart⟩ := lineEnds_joined f f.alphabet
  refine (takes_ofSet hbs (proper_compl hvalid hapart).valid).congr hbs fun n hn => ?_
  rw [contains_compl (isSymbol_of_ascii _ (by omega)) hvalid hapart fun _ => by omega, contains_iff]
  exact .rfl

theorem alike_dotRegex (hbs : AllAscii bs) (hlike : f.Like f') :
    Alike bs (dotRegex f) (dotRegex f') := by
  have hends : lineEnds f' = lineEnds f := by rw [hlike]; rfl
  have htake := takes_dotRegex hbs f'
  rw [hends] at htake
  exact (takes_dotRegex hbs f).alike htake

/-! ## Assertions -/

theorem isWordCharacter_of_ascii {b : UInt8} (h : b.toNat < 128) :
    Unicode.isWordCharacter (Char.ofNat b.toNat) = isWordByte b := by
  have hall : ∀ n < 128, Unicode.isWordCharacter (Char.ofNat n) = isWordByte (UInt8.ofNat n) := by
    decide +kernel
  rw [hall b.toNat h, UInt8.ofNat_toNat]

theorem sideBefore?_of_ascii (hbs : AllAscii bs) (hi : i ≤ bs.size) :
    sideBefore? bs i = some (wordByteBefore bs i) := by
  rw [sideBefore?, wordByteBefore]
  split
  · rfl
  · next hpos =>
    obtain ⟨j, rfl⟩ := Nat.exists_eq_succ_of_ne_zero hpos
    have hb : bs[j]? = some bs[j] := Array.getElem?_eq_getElem hi
    rw [wordCharBefore?, Text.decodeBefore_of_ascii hbs hb, Nat.succ_sub_one, hb, Option.map_some,
      Option.map_some, isWordCharacter_of_ascii (hbs j _ hb)]
    rfl

theorem sideAt?_of_ascii (hbs : AllAscii bs) : sideAt? bs i = some (wordByteAt bs i) := by
  rw [sideAt?, wordByteAt]
  split
  · next hle =>
    rw [Array.getElem?_eq_none hle]
    rfl
  · next hlt =>
    have hb : bs[i]? = some bs[i] := Array.getElem?_eq_getElem (Nat.not_le.1 hlt)
    rw [wordCharAt?, Text.decodeAt_of_ascii hbs hb, hb, Option.map_some, Option.map_some,
      isWordCharacter_of_ascii (hbs i _ hb)]
    rfl

namespace Reading

variable {R R' : Reading} {kind : AssertionKind}

/-- **An assertion about words asks for bytes** in ASCII. -/
theorem holds_look (hbs : AllAscii bs) (hR : R.Standard) (hi : i ≤ bs.size)
    {rule : Bool → Bool → Bool} (hrule : wordRule? kind = some rule) :
    (R.look f kind).holds bs i = rule (wordByteBefore bs i) (wordByteAt bs i) := by
  have hplain : ∀ f : Setting,
      (lookOf f kind).holds bs i = rule (wordByteBefore bs i) (wordByteAt bs i) := by
    intro f
    by_cases hunicode : f.unicode = true
    · exact holds_lookOf_characters hrule hunicode (sideBefore?_of_ascii hbs hi)
        (sideAt?_of_ascii hbs)
    · exact holds_lookOf_bytes hrule (eq_false_of_ne_true hunicode) bs i
  rcases hR with rfl | rfl
  · exact hplain f
  · by_cases hbytes : IsPlainBoundary kind
    · rw [look_ascii_of_plain hbytes]
      exact hplain _
    · rw [look_ascii_of_not_plain hbytes]
      exact hplain f

/-- The other assertions do not ask what symbols are. -/
theorem look_eq (hR : R.Standard) (hR' : R'.Standard) (hlike : f.Like f')
    (hrule : wordRule? kind = none) : R.look f kind = R'.look f' kind := by
  have hplain : lookOf f kind = lookOf f' kind := by
    rw [hlike]
    cases kind
    all_goals first | rfl | cases hrule
  have hlook : ∀ {R : Reading} {f : Setting}, R.Standard → R.look f kind = lookOf f kind := by
    rintro R f (rfl | rfl)
    · rfl
    · refine look_ascii_of_not_plain ?_ f
      rintro (rfl | rfl) <;> cases hrule
  rw [hlook hR, hlook hR', hplain]

theorem alike_look (hbs : AllAscii bs) (hR : R.Standard) (hR' : R'.Standard) (hlike : f.Like f') :
    Alike bs (.look (R.look f kind)) (.look (R'.look f' kind)) := by
  have hsame : ∀ pos ≤ bs.size,
      (R'.look f' kind).holds bs pos = (R.look f kind).holds bs pos := by
    intro pos hpos
    rcases hrule : wordRule? kind with _ | rule
    · rw [look_eq hR hR' hlike hrule]
    · rw [holds_look hbs hR hpos hrule, holds_look hbs hR' hpos hrule]
  refine .single (fun pos => if (R.look f kind).holds bs pos then some pos else none) ?_ ?_
  · intro pos hpos k
    rw [runStep]
    split <;> rfl
  · intro pos hpos k
    rw [runStep, hsame pos hpos]
    split <;> rfl

end Reading

end Multiscan.Regex
