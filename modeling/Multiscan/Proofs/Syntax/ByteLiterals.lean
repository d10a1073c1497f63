import Mathlib.Logic.Basic
import Multiscan.Proofs.Syntax.Reader
import Multiscan.Proofs.Text.Utf8
/-!
# Syntax — literals that can stand for a byte

A character written with two hexadecimal digits is one of the first 256, and the
byte with the same number is what it stands for where characters are bytes. Both
numbers are the same for all that a class has between its brackets
(`namesBytes_ofPattern?`), so a class that can be read in both ways has the same
symbols in both.
-/

namespace Multiscan

/-! ## Two hexadecimal digits -/

/-- A hexadecimal digit is less than sixteen. -/
theorem Text.hexDigit?_lt {c : Char} {n : Nat} (h : Text.hexDigit? c = some n) : n < 16 := by
  have htoNat : ∀ d : Char, d.toNat = d.val.toNat := fun _ => rfl
  unfold Text.hexDigit? at h
  simp only [Bool.and_eq_true, decide_eq_true_eq, Char.le_def, UInt32.le_iff_toNat_le,
    ← htoNat] at h
  split at h
  · next hdigit =>
    obtain rfl := Option.some.inj h
    simp only [Char.reduceToNat] at hdigit
    omega
  · split at h
    · next hcapital =>
      obtain rfl := Option.some.inj h
      simp only [Char.reduceToNat] at hcapital
      omega
    · split at h
      · next hsmall =>
        obtain rfl := Option.some.inj h
        simp only [Char.reduceToNat] at hsmall
        omega
      · cases h

theorem Text.hexDigit_lt (c : Char) : (Text.hexDigit? c).getD 0 < 16 := by
  rcases h : Text.hexDigit? c with _ | n
  · decide
  · exact Text.hexDigit?_lt h

/-- Two of them are a byte. -/
theorem Text.hexNumber_lt {digits : List Char} (h : digits.length = 2) :
    Text.hexNumber digits < 256 := by
  obtain ⟨d, e, rfl⟩ : ∃ d e, digits = [d, e] := by
    rcases digits with _ | ⟨d, _ | ⟨e, _ | ⟨x, rest⟩⟩⟩
    · cases h
    · cases h
    · exact ⟨d, e, rfl⟩
    · cases h
  have hd := Text.hexDigit_lt d
  have he := Text.hexDigit_lt e
  show 16 * (16 * 0 + (Text.hexDigit? d).getD 0) + (Text.hexDigit? e).getD 0 < 256
  omega

namespace Syntax

theorem length_hexDigits {c c' : Cursor} {n : Nat} {digits : List Char}
    (h : hexDigits c n = .ok (digits, c')) : digits.length = n := by
  induction n generalizing c c' digits with
  | zero =>
    obtain ⟨rfl, -⟩ := Prod.mk.inj (Except.ok.inj h)
    rfl
  | succ n ih =>
    rw [hexDigits] at h
    split at h
    · cases h
    · split at h
      · obtain ⟨⟨rest, c₁⟩, hrest, h⟩ := bind_eq_ok.1 h
        obtain ⟨rfl, -⟩ := Prod.mk.inj (Except.ok.inj h)
        rw [List.length_cons, ih hrest]
      · cases h

/-- The number that digits stand for is that of the character. -/
theorem toNat_of_charOfHex? {digits : List Char} {x : Char} (h : charOfHex? digits = some x) :
    x.toNat = Text.hexNumber digits := by
  obtain ⟨hvalid, hx⟩ := Option.ite_none_right_eq_some.1 h
  obtain rfl := Option.some.inj hx
  exact Text.toNat_charOfNat hvalid

/-! ## Literals -/

/-- The byte that a literal can stand for has the number of its character. -/
def Literal.NamesByte (l : Literal) : Prop := ∀ b ∈ l.byte?, b.toNat = l.char.toNat

variable {l : Literal} {c c' : Cursor}

theorem namesByte_of_form (h : l.form ≠ .hexByte) : l.NamesByte := by
  intro b hb
  rw [Literal.byte?, if_neg h] at hb
  cases hb

theorem namesByte_of_lt (h : l.char.toNat < 256) : l.NamesByte := by
  intro b hb
  obtain ⟨-, hb⟩ := Option.ite_none_right_eq_some.1 hb
  obtain rfl := Option.some.inj hb
  exact UInt8.toNat_ofNat_of_lt' h

theorem namesByte_hexEscape {start : Nat} (h : hexEscape start c = .ok (l, c')) :
    l.NamesByte := by
  unfold hexEscape at h
  dsimp only at h
  split at h
  · cases h
  · split at h
    · cases h
    · split at h
      · cases h
      · split at h
        · cases h
        · obtain ⟨rfl, -⟩ := Prod.mk.inj (Except.ok.inj h)
          exact namesByte_of_form LiteralForm.noConfusion
    · cases h
  · obtain ⟨⟨digits, c₁⟩, hdigits, h⟩ := bind_eq_ok.1 h
    dsimp only at h
    split at h
    · cases h
    · next x hx =>
      obtain ⟨rfl, -⟩ := Prod.mk.inj (Except.ok.inj h)
      have hlength := length_hexDigits hdigits
      intro b hb
      -- It has this form if there were two digits.
      have hform := (Option.ite_none_right_eq_some.1 hb).1
      have htwo := not_not.1 fun hmore => LiteralForm.noConfusion (ite_eq_left_iff.1 hform hmore)
      refine namesByte_of_lt ?_ b hb
      rw [toNat_of_charOfHex? hx]
      exact Text.hexNumber_lt (hlength.trans htwo)

theorem namesByte_escape (h : escape c = .ok (.literal l, c')) : l.NamesByte := by
  unfold escape at h
  dsimp only at h
  split at h
  · cases h
  · split at h
    · cases h
    · split at h
      · obtain ⟨⟨k, c₁⟩, hk, h⟩ := bind_eq_ok.1 h
        cases h
        exact namesByte_hexEscape hk
      · split at h
        · obtain ⟨⟨p, c₁⟩, -, h⟩ := bind_eq_ok.1 h
          cases h
        · split at h
          · cases h
          · split at h
            · cases h
              exact namesByte_of_form LiteralForm.noConfusion
            · split at h
              · cases h
                exact namesByte_of_form LiteralForm.noConfusion
              · split at h
                · cases h
                · split at h
                  · obtain ⟨special, -, h⟩ := bind_eq_ok.1 h
                    split at h <;> cases h
                  · cases h
                · cases h

theorem namesByte_classAtom {x : Char} (h : classAtom c x = .ok (.literal l, c')) :
    l.NamesByte := by
  rw [classAtom] at h
  split at h
  · exact namesByte_escape h
  · cases h
    exact namesByte_of_form LiteralForm.noConfusion

/-! ## Classes -/

mutual

/-- All literals of a class name bytes. -/
def ClassSet.NamesBytes : ClassSet → Prop
  | .literal l => l.NamesByte
  | .range _ lo hi => lo.NamesByte ∧ hi.NamesByte
  | .bracketed _ _ inner => inner.NamesBytes
  | .union _ items => ClassSet.AllNameBytes items
  | .op _ _ lhs rhs => lhs.NamesBytes ∧ rhs.NamesBytes
  | _ => True

/-- The same for several classes. -/
def ClassSet.AllNameBytes : List ClassSet → Prop
  | [] => True
  | set :: sets => set.NamesBytes ∧ ClassSet.AllNameBytes sets

end

theorem ClassSet.allNameBytes_iff {sets : List ClassSet} :
    ClassSet.AllNameBytes sets ↔ ∀ set ∈ sets, set.NamesBytes := by
  induction sets with
  | nil => exact ⟨fun _ set hset => (nomatch hset), fun _ => trivial⟩
  | cons set sets ih => rw [ClassSet.AllNameBytes, ih, List.forall_mem_cons]

theorem namesByte_of_toRangeEnd {a : Atom} {x : Char} (ha : classAtom c x = .ok (a, c'))
    (h : a.toRangeEnd = .ok l) : l.NamesByte := by
  cases a with
  | literal k =>
    obtain rfl := Except.ok.inj h
    exact namesByte_classAtom ha
  | _ => cases h

theorem keptInside_namesBytes : KeptInside ClassSet.NamesBytes where
  empty _ := trivial
  verbatim _ _ := namesByte_of_form LiteralForm.noConfusion
  atom {_ _ _ a _} ha hset := by
    cases a with
    | literal l =>
      obtain rfl := Except.ok.inj hset
      exact namesByte_classAtom ha
    | shorthand | property =>
      obtain rfl := Except.ok.inj hset
      trivial
    | assertion | dot => cases hset
  range _ hlo hhi hfirst hlast :=
    ⟨namesByte_of_toRangeEnd hlo hfirst, namesByte_of_toRangeEnd hhi hlast⟩
  ascii _ := trivial
  bracketed _ _ _ h := h
  union _ _ h := ClassSet.allNameBytes_iff.2 h
  op _ _ _ _ hlhs hrhs := ⟨hlhs, hrhs⟩

/-! ## Patterns -/

mutual

/-- All classes of a tree name bytes. -/
def Tree.NamesBytes : Tree → Prop
  | .bracketed _ _ set => set.NamesBytes
  | .repetition _ _ _ _ sub => sub.NamesBytes
  | .group _ _ sub => sub.NamesBytes
  | .alternation _ ts => Tree.AllNameBytes ts
  | .concat _ ts => Tree.AllNameBytes ts
  | _ => True

/-- The same for several trees. -/
def Tree.AllNameBytes : List Tree → Prop
  | [] => True
  | t :: ts => t.NamesBytes ∧ Tree.AllNameBytes ts

end

theorem Tree.allNameBytes_iff {ts : List Tree} :
    Tree.AllNameBytes ts ↔ ∀ t ∈ ts, t.NamesBytes := by
  induction ts with
  | nil => exact ⟨fun _ t ht => (nomatch ht), fun _ => trivial⟩
  | cons t ts ih => rw [Tree.AllNameBytes, ih, List.forall_mem_cons]

theorem kept_namesBytes : Kept Tree.NamesBytes where
  empty _ := trivial
  flags _ _ _ := trivial
  atom a := by
    cases a <;> trivial
  bracketed h := by
    obtain ⟨span, negated, set, rfl, hset⟩ := keptInside_namesBytes.bracketedClass h
    exact hset
  repetition _ _ _ _ _ _ h := h
  group _ _ _ h := h
  alternation _ _ h := Tree.allNameBytes_iff.2 h
  concat _ _ h := Tree.allNameBytes_iff.2 h

/-- **The classes of a pattern** name bytes. -/
theorem namesBytes_ofPattern? {pattern : List Char} {t : Tree}
    (h : Tree.ofPattern? pattern = .ok t) : t.NamesBytes :=
  kept_namesBytes.ofPattern? h

end Syntax

end Multiscan
