import Mathlib.Data.List.Forall2
import Multiscan.Proofs.Text.Ascii
import Multiscan.Syntax.Nesting
import Multiscan.Syntax.Spelling
/-!
# Syntax — patterns that stand for a text

A pattern is read piece by piece. A character without a meaning, a character
with one behind a backslash, and the escape of a byte are each read as one
literal (`Piece.Reads`). A quoted text is made of such pieces, and so is what
it is spelled in bytes (`quote_eq`, `spellInBytes_quote`). So the tree of such a
pattern is its literals in sequence (`ofPattern?_pieces`).
-/

namespace Multiscan.Syntax

open Text (encodeChar)

variable {c : Cursor} {items : Items} {b : UInt8}

/-! ## Pieces -/

/-- A piece of a pattern with the character that it stands for, and how that is
written. -/
structure Piece where
  text : List Char
  form : LiteralForm
  char : Char

/-- The literal of a piece is read as it should be. -/
def Piece.Of (p : Piece) (l : Literal) : Prop := l.form = p.form ∧ l.char = p.char

/-- The characters that do not start an atom. -/
def operators : List Char := ['(', ')', '|', '[', '\x7b', '?', '*', '+']

/-- **A piece is read as one literal**, whatever stands behind it. -/
def Piece.Reads (p : Piece) : Prop := ∃ x xs, p.text = x :: xs ∧ x ∉ operators ∧
  ∀ (c : Cursor) (rest : List Char), c.verbose = false → c.rest = p.text ++ rest →
    ∃ l c', atom c x = .ok (.literal l, c') ∧ p.Of l ∧ c'.rest = rest ∧ c'.verbose = false

theorem skip_of_plain (h : c.verbose = false) : c.skip = c := by
  rw [Cursor.skip, h, if_neg Bool.false_ne_true]

/-- Where neither a blank nor a comment stands, nothing is passed over. -/
theorem skip_of_solid {x : Char} (hx : c.char? = some x) (hblank : Unicode.isWhiteSpace x = false)
    (hsign : x ≠ '#') : c.skip = c := by
  obtain ⟨xs, hrest⟩ := List.head?_eq_some_iff.1 hx
  rcases c with ⟨offset, rest, verbose, groups, names⟩
  obtain rfl : rest = _ := hrest
  cases verbose with
  | false => rfl
  | true =>
    simp only [Cursor.skip, passBlanks, hblank, beq_eq_false_iff_ne.2 hsign, Bool.false_eq_true,
      if_false, if_true]

/-- Reading goes on behind the piece, with its literal among the items. -/
theorem Piece.Reads.patternRest {p : Piece} (hp : p.Reads) {rest : List Char}
    (hplain : c.verbose = false) (hrest : c.rest = p.text ++ rest) (fuel : Nat)
    (stack : List OpenItem) (items : Items) :
    ∃ l c', p.Of l ∧ c'.rest = rest ∧ c'.verbose = false ∧
      patternRest (fuel + 1) stack items c =
        Syntax.patternRest fuel stack { items with trees := items.trees ++ [.literal l] } c' := by
  obtain ⟨x, xs, htext, hx, hread⟩ := hp
  obtain ⟨l, c', hatom, hl, hrest', hplain'⟩ := hread c rest hplain hrest
  have hchar : c.char? = some x := by
    rw [Cursor.char?, hrest, htext]
    rfl
  refine ⟨l, c', hl, hrest', hplain', ?_⟩
  simp only [operators, List.mem_cons, List.not_mem_nil, or_false, not_or] at hx
  obtain ⟨hopen, hclose, hbar, hbracket, hbrace, hquestion, hstar, hplus⟩ := hx
  rw [Syntax.patternRest]
  simp only [skip_of_plain hplain, hchar]
  rw [hatom]
  rfl

/-- **A pattern made of such pieces** is read as their literals. -/
theorem patternRest_pieces {pieces : List Piece} (hpieces : ∀ p ∈ pieces, p.Reads) {fuel : Nat}
    (hfuel : pieces.length < fuel) (hplain : c.verbose = false)
    (hrest : c.rest = pieces.flatMap Piece.text) (items : Items) :
    ∃ ls stop, List.Forall₂ Piece.Of pieces ls ∧
      patternRest fuel [] items c =
        .ok ({ items with trees := items.trees ++ ls.map Tree.literal }.toTree stop) := by
  induction pieces generalizing fuel c items with
  | nil =>
    obtain ⟨fuel, rfl⟩ := Nat.exists_eq_succ_of_ne_zero (Nat.ne_of_gt hfuel)
    have hend : c.char? = none := by
      rw [Cursor.char?, hrest]
      rfl
    refine ⟨[], c.offset, .nil, ?_⟩
    rw [patternRest]
    simp only [skip_of_plain hplain, hend]
    rw [List.map_nil, List.append_nil]
    rfl
  | cons p pieces ih =>
    obtain ⟨hp, hpieces⟩ := List.forall_mem_cons.1 hpieces
    rw [List.length_cons] at hfuel
    obtain ⟨fuel, rfl⟩ := Nat.exists_eq_succ_of_ne_zero (Nat.ne_of_gt (Nat.zero_lt_of_lt hfuel))
    rw [List.flatMap_cons] at hrest
    obtain ⟨l, c', hl, hrest', hplain', hstep⟩ := hp.patternRest hplain hrest fuel [] items
    obtain ⟨ls, stop, hls, hread⟩ := ih hpieces (Nat.lt_of_succ_lt_succ hfuel) hplain' hrest'
      { items with trees := items.trees ++ [.literal l] }
    refine ⟨l :: ls, stop, .cons hl hls, ?_⟩
    rw [hstep, hread, List.append_assoc, List.map_cons, List.singleton_append]

/-- Literals in sequence are not too deep. -/
theorem tooDeep?_literals (ls : List Literal) (start stop : Nat) :
    (Items.toTree ⟨start, ls.map Tree.literal⟩ stop).tooDeep? nestLimit 0 = none := by
  have hall : ∀ (depth : Nat) (ls : List Literal),
      Tree.anyTooDeep? nestLimit depth (ls.map Tree.literal) = none := by
    intro depth ls
    induction ls with
    | nil => rfl
    | cons l ls ih =>
      rw [List.map_cons, Tree.anyTooDeep?, ih]
      rfl
  rcases ls with _ | ⟨l, _ | ⟨l', ls⟩⟩
  · rfl
  · rfl
  · exact hall 1 (l :: l' :: ls)

/-- The tree of such a pattern. -/
theorem ofPattern?_pieces {pieces : List Piece} (hpieces : ∀ p ∈ pieces, p.Reads) :
    ∃ ls stop, List.Forall₂ Piece.Of pieces ls ∧
      Tree.ofPattern? (pieces.flatMap Piece.text) = .ok (Items.toTree ⟨0, ls.map Tree.literal⟩ stop) := by
  have hlength : pieces.length ≤ (pieces.flatMap Piece.text).length := by
    induction pieces with
    | nil => exact Nat.le_refl 0
    | cons p pieces ih =>
      obtain ⟨⟨x, xs, htext, -⟩, hpieces⟩ := List.forall_mem_cons.1 hpieces
      have hle := ih hpieces
      rw [List.flatMap_cons, htext, List.length_append, List.length_cons, List.length_cons]
      omega
  obtain ⟨ls, stop, hls, hread⟩ := patternRest_pieces hpieces (Nat.lt_succ_of_le hlength)
    (c := Cursor.start (pieces.flatMap Piece.text)) rfl rfl ⟨0, []⟩
  refine ⟨ls, stop, hls, ?_⟩
  rw [List.nil_append] at hread
  have hdepth := tooDeep?_literals ls 0 stop
  rw [Tree.ofPattern?, hread]
  simp only [bind, Except.bind, hdepth]
  rfl

/-! ## The pieces of a text -/

/-- A character of a text as it is quoted. -/
def quotedPiece (x : Char) : Piece :=
  if isMeta x then ⟨['\\', x], .escaped, x⟩ else ⟨[x], .verbatim, x⟩

/-- A byte by its escape. -/
def bytePiece (b : UInt8) : Piece := ⟨byteEscape b, .hexByte, Char.ofNat b.toNat⟩

/-- A character of a text as it is spelled in bytes. -/
def spelledPieces (x : Char) : List Piece :=
  if x.toNat < 128 then [quotedPiece x] else (encodeChar x).map bytePiece

theorem reads_quotedPiece (x : Char) : (quotedPiece x).Reads := by
  rw [quotedPiece]
  by_cases hmeta : isMeta x = true
  · rw [if_pos hmeta]
    refine ⟨'\\', [x], rfl, by decide, ?_⟩
    rintro ⟨offset, _, _, groups, names⟩ rest rfl rfl
    -- Behind a backslash each of them is itself.
    rw [isMeta, List.contains_iff_mem] at hmeta
    simp only [List.mem_cons, List.not_mem_nil, or_false] at hmeta
    rcases hmeta with rfl | rfl | rfl | rfl | rfl | rfl | rfl | rfl | rfl | rfl | rfl | rfl | rfl |
      rfl | rfl | rfl | rfl | rfl
    all_goals exact ⟨_, _, rfl, ⟨rfl, rfl⟩, rfl, rfl⟩
  · rw [if_neg hmeta]
    rw [isMeta, List.contains_iff_mem] at hmeta
    simp only [List.mem_cons, List.not_mem_nil, or_false, not_or] at hmeta
    obtain ⟨hbackslash, hdot, hplus, hstar, hquestion, hopen, hclose, hbar, hbracket, -, hbrace, -,
      hcaret, hdollar, -⟩ := hmeta
    refine ⟨x, [], rfl, ?_, ?_⟩
    · simp only [operators, List.mem_cons, List.not_mem_nil, or_false, not_or]
      exact ⟨hopen, hclose, hbar, hbracket, hbrace, hquestion, hstar, hplus⟩
    · rintro ⟨offset, _, _, groups, names⟩ rest rfl rfl
      unfold atom
      split
      · exact absurd rfl hbackslash
      · exact absurd rfl hdot
      · exact absurd rfl hcaret
      · exact absurd rfl hdollar
      · exact ⟨_, _, rfl, ⟨rfl, rfl⟩, rfl, rfl⟩

/-- The digits of a byte say the byte. -/
theorem charOfHex?_byteDigits (b : UInt8) :
    charOfHex? (Text.byteDigits b) = some (Char.ofNat b.toNat) := by
  have hlt := b.toNat_lt
  have hnumber : Text.hexNumber (Text.byteDigits b) = b.toNat := by
    simp only [Text.hexNumber, Text.byteDigits, List.foldl_cons, List.foldl_nil,
      Text.hexDigit?_capitalDigit (n := b.toNat / 16) (by omega),
      Text.hexDigit?_capitalDigit (n := b.toNat % 16) (by omega), Option.getD_some]
    omega
  rw [charOfHex?, hnumber]
  exact if_pos (Text.isValidChar_toNat b)

/-- A capital digit is one, and neither a blank nor the sign of a comment. -/
theorem solid_capitalDigit {n : Nat} (h : n < 16) :
    Text.isHexDigit (Text.capitalDigit n) = true ∧
      Unicode.isWhiteSpace (Text.capitalDigit n) = false ∧ Text.capitalDigit n ≠ '#' := by
  have all_digits : ∀ m : Fin 16, Text.isHexDigit (Text.capitalDigit m.val) = true ∧
      Unicode.isWhiteSpace (Text.capitalDigit m.val) = false ∧ Text.capitalDigit m.val ≠ '#' := by
    decide
  exact all_digits ⟨n, h⟩

/-- The escape of a byte is read as its digits say, and blanks behind it are passed over. -/
theorem hexEscape_byteDigits (b : UInt8) (start offset : Nat) (verbose : Bool) (groups : Nat)
    (names : List String) (rest : List Char) :
    ∃ l offset',
      hexEscape start ⟨offset, 'x' :: (Text.byteDigits b ++ rest), verbose, groups, names⟩ =
        .ok (l, (Cursor.mk offset' rest verbose groups names).skip) ∧ (bytePiece b).Of l := by
  have hlt := b.toNat_lt
  obtain ⟨hfirst, hsolid⟩ := solid_capitalDigit (n := b.toNat / 16) (by omega)
  obtain ⟨hsecond, hsolid'⟩ := solid_capitalDigit (n := b.toNat % 16) (by omega)
  have hchar := charOfHex?_byteDigits b
  rw [Text.byteDigits] at hchar ⊢
  generalize Text.capitalDigit (b.toNat / 16) = d at *
  generalize Text.capitalDigit (b.toNat % 16) = e at *
  have hbrace : d ≠ '\x7b' := by
    rintro rfl
    cases hfirst
  -- No blank stands before either digit.
  have hskip (offset : Nat) : (Cursor.mk offset (d :: e :: rest) verbose groups names).skip =
      ⟨offset, d :: e :: rest, verbose, groups, names⟩ := skip_of_solid rfl hsolid.1 hsolid.2
  have hskip' (offset : Nat) : (Cursor.mk offset (e :: rest) verbose groups names).skip =
      ⟨offset, e :: rest, verbose, groups, names⟩ := skip_of_solid rfl hsolid'.1 hsolid'.2
  have hdigits : ∀ offset, ∃ offset',
      hexDigits ⟨offset, d :: e :: rest, verbose, groups, names⟩ 2 =
        .ok ([d, e], (Cursor.mk offset' rest verbose groups names).skip) := by
    intro offset
    refine ⟨offset + Text.width d + Text.width e, ?_⟩
    simp [hexDigits, Cursor.char?, Cursor.next, Cursor.bump, hskip', hfirst, hsecond]
    rfl
  obtain ⟨offset', hdigits⟩ := hdigits (offset + Text.width 'x')
  refine ⟨⟨⟨start, (Cursor.mk offset' rest verbose groups names).skip.offset⟩, .hexByte,
    Char.ofNat b.toNat⟩, offset', ?_, ⟨rfl, rfl⟩⟩
  rw [hexEscape]
  simp [Cursor.char?, Cursor.next, Cursor.bump, hskip, hdigits, bind, Except.bind, hchar]

theorem reads_bytePiece (b : UInt8) : (bytePiece b).Reads := by
  refine ⟨'\\', _, rfl, by decide, ?_⟩
  rintro ⟨offset, _, _, groups, names⟩ rest rfl rfl
  obtain ⟨l, offset', hread, hl⟩ :=
    hexEscape_byteDigits b offset (offset + Text.width '\\') false groups names rest
  refine ⟨l, ⟨offset', rest, false, groups, names⟩, ?_, hl, rfl, rfl⟩
  change (hexEscape offset ⟨offset + Text.width '\\', 'x' :: (Text.byteDigits b ++ rest), false,
    groups, names⟩ >>= fun x => Except.ok (Atom.literal x.1, x.2)) = _
  rw [hread]
  rfl

/-- **A quoted text** is made of the pieces of its characters. -/
theorem quote_eq (cs : List Char) : quote cs = (cs.map quotedPiece).flatMap Piece.text := by
  rw [quote, List.flatMap_map]
  refine List.flatMap_congr fun x _ => ?_
  rw [quotedPiece]
  split
  · rfl
  · rfl

/-- A character outside ASCII has no meaning. -/
theorem isMeta_of_not_ascii {x : Char} (h : ¬ x.toNat < 128) : isMeta x = false := by
  rw [Bool.eq_false_iff]
  intro hmeta
  have hall : ∀ y ∈ ['\\', '.', '+', '*', '?', '(', ')', '|', '[', ']', '\x7b', '\x7d', '^', '$',
      '#', '&', '-', '~'], y.toNat < 128 := Text.ascii_of_all (by decide)
  exact h (hall x (List.contains_iff_mem.1 hmeta))

theorem spellInBytes_cons {x : Char} (hx : x ≠ '\\') (cs : List Char) :
    spellInBytes (x :: cs) = if x.toNat < 128 then x :: spellInBytes cs
      else charInBytes x ++ spellInBytes cs := by
  rw [spellInBytes]
  exact fun _ _ h _ => hx h

/-- A pattern in ASCII is spelled as it is. -/
theorem spellInBytes_of_ascii {cs : List Char} (h : ∀ c ∈ cs, c.toNat < 128) :
    spellInBytes cs = cs := by
  fun_induction spellInBytes cs with
  | case1 => rfl
  | case2 c cs hascii ih => rw [ih fun x hx => h x (by simp [hx])]
  | case3 c cs hwide => exact absurd (h c (by simp)) hwide
  | case4 c cs _ hascii ih => rw [ih fun x hx => h x (by simp [hx])]
  | case5 c cs _ hwide => exact absurd (h c (by simp)) hwide

/-- **Spelled in bytes** it is made of the same pieces for characters in ASCII
and of the escapes of their bytes for the others. -/
theorem spellInBytes_quote (cs : List Char) :
    spellInBytes (quote cs) = (cs.flatMap spelledPieces).flatMap Piece.text := by
  induction cs with
  | nil => rfl
  | cons x cs ih =>
    have hquote : quote (x :: cs) = (quotedPiece x).text ++ quote cs := by
      rw [quote_eq, quote_eq, List.map_cons, List.flatMap_cons]
    rw [hquote, List.flatMap_cons, List.flatMap_append, ← ih, spelledPieces, quotedPiece]
    by_cases hascii : x.toNat < 128
    · rw [if_pos hascii]
      by_cases hmeta : isMeta x = true
      · rw [if_pos hmeta]
        change spellInBytes ('\\' :: x :: quote cs) = '\\' :: x :: spellInBytes (quote cs)
        rw [spellInBytes, if_pos hascii]
      · rw [if_neg hmeta]
        have hbackslash : x ≠ '\\' := by
          rintro rfl
          exact hmeta rfl
        change spellInBytes (x :: quote cs) = x :: spellInBytes (quote cs)
        rw [spellInBytes_cons hbackslash, if_pos hascii]
    · rw [if_neg hascii, isMeta_of_not_ascii hascii, if_neg Bool.false_ne_true]
      have hbackslash : x ≠ '\\' := by
        rintro rfl
        exact hascii (by decide)
      have hpieces : ((encodeChar x).map bytePiece).flatMap Piece.text = charInBytes x := by
        rw [List.flatMap_map, charInBytes]
        rfl
      change spellInBytes (x :: quote cs) = _
      rw [spellInBytes_cons hbackslash, if_neg hascii, hpieces]

end Multiscan.Syntax
