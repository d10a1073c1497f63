import Multiscan.Proofs.Regex.Characters
import Multiscan.Proofs.Regex.Reading
import Multiscan.Proofs.Regex.OfTree
/-!
# Regex — patterns about text

A pattern for characters is about text as long as it does not go back to bytes
with an inline flag, and where it does, as long as it says nothing of bytes
outside ASCII (`StaysText`). Single items of such a pattern are about text, and
that is kept by what is built of them (`closed_textOnly`). So the pattern means
an expression about text (`textOnly_regex`).
-/

namespace Multiscan

namespace Regex

open Syntax SymbolSet
open Text (encode encodeChar)

variable {r : Regex} {rs : List Regex} {s : SymbolSet} {f : Setting} {n : Nat}

/-! ## Single items -/

theorem textOnly_ofBytes {bytes : List UInt8} (h : ∃ cs, bytes = encode cs) :
    (ofBytes bytes).TextOnly := by
  rw [ofBytes]
  split
  · trivial
  · exact h

theorem textOnly_fail : fail.TextOnly := fun _ h => by cases h

/-- A character is one of a text of its own. -/
theorem exists_encode (c : Char) : ∃ cs, encodeChar c = encode cs :=
  ⟨[c], (List.append_nil _).symm⟩

/-- A byte in ASCII is one, too. -/
theorem exists_encode_of_ascii {b : UInt8} (h : b.toNat < 0x80) : ∃ cs, [b] = encode cs := by
  have hnat := Text.toNat_charOfNat (Text.isValidChar_toNat b)
  refine ⟨[Char.ofNat b.toNat], ?_⟩
  rcases Text.encodeChar_cases (Char.ofNat b.toNat) with ⟨-, henc⟩ | hwide | hwide | hwide
  · rw [Text.encode_cons, Text.encode_nil, List.append_nil, henc, hnat, UInt8.ofNat_toNat]
  all_goals omega

/-- No other byte is. -/
theorem ascii_of_encode {b : UInt8} (h : ∃ cs, [b] = encode cs) : b.toNat < 0x80 := by
  obtain ⟨_ | ⟨c, cs⟩, hcs⟩ := h
  · cases hcs
  rw [Text.encode_cons] at hcs
  -- The encoding of a longer character is no single byte.
  rcases Text.encodeChar_cases c with ⟨hle, henc⟩ | ⟨-, -, henc⟩ | ⟨-, -, henc⟩ | ⟨-, -, henc⟩
  all_goals
    rw [henc] at hcs
    injection hcs with hb hrest
  · rw [hb, Text.toNat_ofNat_byte (by omega)]
    omega
  all_goals cases hrest

theorem textOnly_ofSet_character (s : SymbolSet) : (ofSet .character s).TextOnly := by
  obtain ⟨-, hset⟩ | ⟨n, -, hset⟩ | hset := ofSet_cases .character s
  · exact hset ▸ textOnly_fail
  · exact hset ▸ exists_encode (Char.ofNat n)
  · exact hset ▸ trivial

theorem textOnly_ofSet_byte (hs : ∀ n, s.contains n = true → n < 0x80) :
    (ofSet .byte s).TextOnly := by
  obtain ⟨-, hset⟩ | ⟨n, rfl, hset⟩ | hset := ofSet_cases .byte s
  · exact hset ▸ textOnly_fail
  · have hlt := hs n (contains_single.2 rfl)
    have hbyte : ∃ cs, [UInt8.ofNat n] = encode cs := by
      refine exists_encode_of_ascii ?_
      rwa [Text.toNat_ofNat_byte (by omega)]
    exact hset ▸ hbyte
  · exact hset ▸ hs

/-! ## What is built -/

/-- A byte of text that is one symbol is in ASCII. -/
theorem OneSymbol.lt_of_textOnly {n : Nat} (h : OneSymbol .byte r s) (hr : r.TextOnly)
    (hn : s.contains n = true) : n < 0x80 := by
  cases h with
  | set => exact hr n hn
  | ascii _ b hascii =>
    obtain ⟨k, hk, -, hle⟩ := contains_iff.1 hn
    have hlast : k.2 ≤ 0x7F := of_decide_eq_true (List.all_eq_true.1 hascii k hk)
    omega
  | byte b => exact contains_single.1 hn ▸ ascii_of_encode hr

/-- Several alternatives as one set. -/
theorem textOnly_asOneSet? (h : ∀ r ∈ rs, r.TextOnly) (hset : asOneSet? rs = some r) :
    r.TextOnly := by
  obtain ⟨a, reading, s, hreads, hs, rfl⟩ := exists_of_asOneSet? hset
  cases a with
  | character => exact textOnly_ofSet_character s
  | byte =>
    refine textOnly_ofSet_byte fun n hn => ?_
    obtain ⟨q, hq, t, ht, hmem⟩ := (contains_unionOf? hs).1 hn
    exact (hreads q t ht).lt_of_textOnly (h q hq) hmem

/-- **Being about text is kept** by all that is built. -/
theorem closed_textOnly : Closed TextOnly where
  empty := trivial
  fail := textOnly_fail
  append := by
    rintro _ _ ⟨cs, rfl⟩ ⟨ds, rfl⟩
    exact ⟨cs ++ ds, (Text.encode_append cs ds).symm⟩
  oneSet := textOnly_asOneSet?
  parts := allTextOnly_iff.1
  concat _ _ := allTextOnly_iff.2
  alternation _ h := allTextOnly_iff.2 h
  alternatives h := allTextOnly_iff.1 h

/-! ## Patterns -/

theorem textOnly_ofSet (h : f.unicode = false → ∀ n, s.contains n = true → n < 0x80) :
    (ofSet f.alphabet s).TextOnly := by
  rw [Setting.alphabet]
  split
  · exact textOnly_ofSet_character s
  · next hbytes => exact textOnly_ofSet_byte (h (Bool.eq_false_iff.2 hbytes))

/-- A literal is about text unless it is a byte outside ASCII. -/
theorem textOnly_literalRegex {l : Literal}
    (h : f.unicode = false → ∀ b ∈ l.byte?, b.toNat < 0x80) : (literalRegex f l).TextOnly := by
  have hplain : ∃ cs, literalBytes f l = encode cs := by
    rw [literalBytes]
    split
    · next b hb =>
      split
      · next hhigh =>
        -- Such a byte is not written where there are bytes only.
        rw [Bool.and_eq_true, Bool.not_eq_true', decide_eq_true_eq, UInt8.le_iff_toNat_le] at hhigh
        have hlow := h hhigh.1 b hb
        exact absurd hhigh.2 (Nat.not_le.2 hlow)
      · exact exists_encode l.char
    · exact exists_encode l.char
  rw [literalRegex_eq]
  dsimp only
  split
  · next hfold =>
    obtain ⟨-, hfoldable⟩ := Bool.and_eq_true_iff.1 hfold
    split
    · exact textOnly_ofBytes hplain
    · refine textOnly_ofSet fun hbytes n hn => ?_
      rw [hbytes, Bool.false_or, decide_eq_true_eq] at hfoldable
      rw [Setting.alphabet, hbytes, if_neg Bool.false_ne_true, contains_caseFold_byte] at hn
      have hsingle : ∀ m, (interval l.char.toNat l.char.toNat).contains m = true →
          m = l.char.toNat := by
        intro m hm
        obtain ⟨k, hk, hle, hge⟩ := contains_iff.1 hm
        obtain rfl := List.mem_singleton.1 hk
        exact Nat.le_antisymm hge hle
      rcases hn with hn | ⟨m, hm, hletter⟩
      · rw [hsingle n hn]
        exact hfoldable
      · omega
  · exact textOnly_ofBytes hplain

namespace Reading

variable {R : Reading}

mutual

/-- Where a pattern goes back to bytes, it says nothing of bytes outside ASCII. -/
def StaysText (R : Reading) (f : Setting) : Tree → Prop
  | .literal l => f.unicode = false → ∀ b ∈ l.byte?, b.toNat < 0x80
  | .dot _ => f.unicode = true
  | .shorthand c => f.unicode = false → ∀ n, (R.shorthand f c).contains n = true → n < 0x80
  | .bracketed _ negated set => f.unicode = false → ∀ s, R.members f set = .ok s →
    ∀ n, (foldThenNegate f negated s).contains n = true → n < 0x80
  | .repetition _ _ _ _ sub => StaysText R f sub
  | .group _ kind sub => StaysText R ((kind.flags?.map f.withFlags).getD f) sub
  | .alternation _ ts => AllStayText R f ts
  | .concat _ ts => AllStayText R f ts
  | _ => True

/-- The same for several trees, each under the setting behind the one before
it. -/
def AllStayText (R : Reading) (f : Setting) : List Tree → Prop
  | [] => True
  | t :: ts => StaysText R f t ∧ ∀ r f', R.regex f t = .ok (r, f') → AllStayText R f' ts

end

mutual

/-- **What a pattern about text means** is an expression about text. -/
theorem textOnly_regex : (t : Tree) → t.Counted → ∀ {f : Setting} {r : Regex} {f' : Setting},
    R.StaysText f t → R.regex f t = .ok (r, f') → r.TextOnly
  | .empty _, _, f, r, f', _, h => by
    obtain ⟨rfl, -⟩ := Prod.mk.inj (Except.ok.inj h)
    trivial
  | .flags _ _ _, _, f, r, f', _, h => by
    obtain ⟨rfl, -⟩ := Prod.mk.inj (Except.ok.inj h)
    trivial
  | .literal l, _, f, r, f', ht, h => by
    obtain ⟨rfl, -⟩ := Prod.mk.inj (Except.ok.inj h)
    exact textOnly_literalRegex ht
  | .dot _, _, f, r, f', ht, h => by
    obtain ⟨rfl, -⟩ := Prod.mk.inj (Except.ok.inj h)
    have hunicode : f.unicode = true := ht
    exact textOnly_ofSet fun hbytes => by
      rw [hunicode] at hbytes
      cases hbytes
  | .assertion _ _, _, f, r, f', _, h => by
    obtain ⟨rfl, -⟩ := Prod.mk.inj (Except.ok.inj h)
    trivial
  | .shorthand c, _, f, r, f', ht, h => by
    obtain ⟨rfl, -⟩ := Prod.mk.inj (Except.ok.inj h)
    exact textOnly_ofSet ht
  | .property c, _, f, r, f', _, h => by
    obtain ⟨s, hs, h⟩ := bind_eq_ok.1 h
    obtain ⟨rfl, -⟩ := Prod.mk.inj (Except.ok.inj h)
    -- Among bytes there are no property classes.
    refine textOnly_ofSet fun hbytes => ?_
    rw [propertySet, hbytes] at hs
    cases hs
  | .bracketed _ negated set, _, f, r, f', ht, h => by
    obtain ⟨s, hs, h⟩ := bind_eq_ok.1 h
    obtain ⟨rfl, -⟩ := Prod.mk.inj (Except.ok.inj h)
    exact textOnly_ofSet fun hbytes => ht hbytes s hs
  | .repetition _ _ kind greedy sub, hcounted, f, r, f', ht, h => by
    obtain ⟨⟨q, f₁⟩, hq, h⟩ := bind_eq_ok.1 h
    obtain ⟨rfl, -⟩ := Prod.mk.inj (Except.ok.inj h)
    have hsub := textOnly_regex sub hcounted.2 ht hq
    exact closed_textOnly.ofRepetition hsub (counts_of_isValid hcounted.1) fun _ _ => hsub
  | .group _ kind sub, hcounted, f, r, f', ht, h => by
    obtain ⟨⟨q, f₁⟩, hq, h⟩ := bind_eq_ok.1 h
    obtain ⟨rfl, -⟩ := Prod.mk.inj (Except.ok.inj h)
    have hsub := textOnly_regex sub hcounted ht hq
    cases kind <;> exact hsub
  | .alternation _ ts, hcounted, f, r, f', ht, h => by
    obtain ⟨⟨rs, f₁⟩, hrs, h⟩ := bind_eq_ok.1 h
    obtain ⟨rfl, -⟩ := Prod.mk.inj (Except.ok.inj h)
    exact closed_textOnly.ofAlternation (allTextOnly_iff.1 (textOnly_regexes ts hcounted ht hrs))
  | .concat _ ts, hcounted, f, r, f', ht, h => by
    obtain ⟨⟨rs, f₁⟩, hrs, h⟩ := bind_eq_ok.1 h
    obtain ⟨rfl, -⟩ := Prod.mk.inj (Except.ok.inj h)
    exact closed_textOnly.ofConcat (allTextOnly_iff.1 (textOnly_regexes ts hcounted ht hrs))

theorem textOnly_regexes : (ts : List Tree) → Tree.AllCounted ts →
    ∀ {f : Setting} {rs : List Regex} {f' : Setting}, R.AllStayText f ts →
    R.regexes f ts = .ok (rs, f') → AllTextOnly rs
  | [], _, f, rs, f', _, h => by
    obtain ⟨rfl, -⟩ := Prod.mk.inj (Except.ok.inj h)
    trivial
  | t :: ts, hcounted, f, rs, f', ht, h => by
    obtain ⟨⟨r, f₁⟩, hr, h⟩ := bind_eq_ok.1 h
    obtain ⟨⟨rest, f₂⟩, hrest, h⟩ := bind_eq_ok.1 h
    obtain ⟨rfl, -⟩ := Prod.mk.inj (Except.ok.inj h)
    exact ⟨textOnly_regex t hcounted.1 ht.1 hr,
      textOnly_regexes ts hcounted.2 (ht.2 r f₁ hr) hrest⟩

end

end Reading

end Regex

end Multiscan
