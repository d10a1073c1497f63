import Multiscan.Proofs.Regex.OfTree
import Multiscan.Proofs.Regex.Reading
import Multiscan.Proofs.Syntax.Literals
/-!
# Regex — what a quoted text means

Where case counts, a literal means its bytes, and literals in sequence mean
their bytes one after the other. So a quoted text means the bytes of its
encoding, whether it is read as characters or was spelled in bytes first
(`parse_quote`).
-/

namespace Multiscan.Regex

open Syntax
open Text (encode encodeChar)

variable {f : Setting} {R : Reading}

/-! ## Literals in sequence -/

theorem literalRegex_of_case (hcase : f.caseless = false) (l : Literal) :
    literalRegex f l = ofBytes (literalBytes f l) := by
  rw [literalRegex_eq, hcase, Bool.false_and, if_neg Bool.false_ne_true]

/-- Bytes in sequence are joined. -/
theorem joinLiterals_ofBytes (pending : List UInt8) (bss : List (List UInt8)) :
    joinLiterals pending (bss.map ofBytes) = withLiteral (pending ++ bss.flatten) [] := by
  induction bss generalizing pending with
  | nil => rw [List.map_nil, joinLiterals, List.flatten_nil, List.append_nil]
  | cons bs bss ih =>
    rw [List.map_cons, List.flatten_cons, ← List.append_assoc, ← ih, ofBytes]
    by_cases hbs : bs.isEmpty = true
    · rw [if_pos hbs, joinLiterals, List.isEmpty_iff.1 hbs, List.append_nil]
    · rw [if_neg hbs, joinLiterals]

/-- Where there are no sequences, none are opened. -/
theorem openConcats_eq_self {rs : List Regex} (h : ∀ r ∈ rs, ∀ inner, r ≠ .concat inner) :
    openConcats rs = rs := by
  have hone : openConcats rs = rs.flatMap fun r => [r] := by
    refine List.flatMap_congr fun r hr => ?_
    split
    · next inner => exact absurd rfl (h _ hr inner)
    · rfl
  rw [hone, List.flatMap_singleton']

theorem ofBytes_ne_concat (bytes : List UInt8) (inner : List Regex) :
    ofBytes bytes ≠ .concat inner := by
  rw [ofBytes]
  split
  · exact Regex.noConfusion
  · exact Regex.noConfusion

/-- **Bytes in sequence are one literal.** -/
theorem ofConcat_ofBytes (bss : List (List UInt8)) :
    ofConcat (bss.map ofBytes) = ofBytes bss.flatten := by
  have hopen : openConcats (bss.map ofBytes) = bss.map ofBytes :=
    openConcats_eq_self (List.forall_mem_map.2 fun bs _ => ofBytes_ne_concat bs)
  rw [ofConcat, hopen, joinLiterals_ofBytes, List.nil_append, withLiteral, ofBytes]
  by_cases hempty : bss.flatten.isEmpty = true
  · rw [if_pos hempty, if_pos hempty]
  · rw [if_neg hempty, if_neg hempty]

theorem regexes_literals (hcase : f.caseless = false) (ls : List Literal) :
    R.regexes f (ls.map Tree.literal) = .ok ((ls.map (literalBytes f)).map ofBytes, f) := by
  induction ls with
  | nil => rfl
  | cons l ls ih =>
    have hfirst : R.regex f (.literal l) = .ok (ofBytes (literalBytes f l), f) := by
      rw [← literalRegex_of_case hcase]
      rfl
    rw [List.map_cons, Reading.regexes, hfirst]
    change (R.regexes f (ls.map Tree.literal) >>= fun x => _) = _
    rw [ih]
    rfl

/-- **Literals in sequence** mean their bytes one after the other. -/
theorem regex_literals (hcase : f.caseless = false) (ls : List Literal) (start stop : Nat) :
    R.regex f (Items.toTree ⟨start, ls.map Tree.literal⟩ stop) =
      .ok (ofBytes (ls.flatMap (literalBytes f)), f) := by
  rcases ls with _ | ⟨l, _ | ⟨l', ls⟩⟩
  · rfl
  · rw [List.flatMap_singleton, ← literalRegex_of_case hcase]
    rfl
  · have hall := regexes_literals (R := R) hcase (l :: l' :: ls)
    change (R.regexes f ((l :: l' :: ls).map Tree.literal) >>= fun x => _) = _
    rw [hall]
    change Except.ok (ofConcat _, f) = _
    rw [ofConcat_ofBytes, List.flatMap]

/-! ## Quoted texts -/

/-- The bytes that a piece of a pattern stands for. -/
def pieceBytes (p : Piece) : List UInt8 :=
  if p.form = .hexByte then [UInt8.ofNat p.char.toNat] else encodeChar p.char

/-- A piece with a byte is there only where bytes are meant, and only for one
outside ASCII. -/
def PieceFits (f : Setting) (p : Piece) : Prop :=
  p.form = .hexByte → f.unicode = false ∧ 0x80 ≤ UInt8.ofNat p.char.toNat

theorem literalBytes_of_fits {p : Piece} {l : Literal} (hp : PieceFits f p) (hl : p.Of l) :
    literalBytes f l = pieceBytes p := by
  obtain ⟨hform, hchar⟩ := hl
  rw [literalBytes, Literal.byte?, pieceBytes, hform, hchar]
  by_cases hbyte : p.form = .hexByte
  · obtain ⟨hbytes, hhigh⟩ := hp hbyte
    rw [if_pos hbyte, if_pos hbyte]
    simp only [hbytes, hhigh]
    rfl
  · rw [if_neg hbyte, if_neg hbyte]

theorem flatMap_literalBytes {pieces : List Piece} {ls : List Literal}
    (hpieces : ∀ p ∈ pieces, PieceFits f p) (hls : List.Forall₂ Piece.Of pieces ls) :
    ls.flatMap (literalBytes f) = pieces.flatMap pieceBytes := by
  induction hls with
  | nil => rfl
  | cons hl _ ih =>
    obtain ⟨hp, hpieces⟩ := List.forall_mem_cons.1 hpieces
    rw [List.flatMap_cons, List.flatMap_cons, literalBytes_of_fits hp hl, ih hpieces]

theorem form_quotedPiece (x : Char) : (quotedPiece x).form ≠ .hexByte := by
  rw [quotedPiece]
  split
  · exact LiteralForm.noConfusion
  · exact LiteralForm.noConfusion

theorem char_quotedPiece (x : Char) : (quotedPiece x).char = x := by
  rw [quotedPiece]
  split
  · rfl
  · rfl

theorem pieceBytes_quotedPiece (x : Char) : pieceBytes (quotedPiece x) = encodeChar x := by
  rw [pieceBytes, if_neg (form_quotedPiece x), char_quotedPiece]

/-- The byte of an escape is read back. -/
theorem ofNat_char_bytePiece (b : UInt8) : UInt8.ofNat (bytePiece b).char.toNat = b := by
  have hnat := Text.toNat_charOfNat (Text.isValidChar_toNat b)
  rw [bytePiece, hnat, UInt8.ofNat_toNat]

theorem flatMap_spelledPieces (x : Char) : (spelledPieces x).flatMap pieceBytes = encodeChar x := by
  rw [spelledPieces]
  split
  · rw [List.flatMap_singleton, pieceBytes_quotedPiece]
  · have hone : ∀ b, pieceBytes (bytePiece b) = [b] := by
      intro b
      have hform : (bytePiece b).form = .hexByte := rfl
      rw [pieceBytes, if_pos hform, ofNat_char_bytePiece]
    rw [List.flatMap_map]
    simp only [hone]
    exact List.flatMap_singleton' _

theorem fits_spelledPieces {x : Char} (hbytes : f.unicode = false) :
    ∀ p ∈ spelledPieces x, PieceFits f p := by
  intro p hp
  rw [spelledPieces] at hp
  split at hp
  · obtain rfl := List.mem_singleton.1 hp
    exact fun h => absurd h (form_quotedPiece x)
  · next hx =>
    obtain ⟨b, hb, rfl⟩ := List.mem_map.1 hp
    refine fun _ => ⟨hbytes, ?_⟩
    rw [ofNat_char_bytePiece]
    exact UInt8.le_iff_toNat_le.2 (Text.high_of_mem_encodeChar hx b hb)

/-- **A quoted text means its bytes** where case counts, whether characters are
meant or bytes. -/
theorem parse_quote {word : UInt32} (hcase : FlagWord.has word .caseless = false)
    (cs : List Char) : Pattern.parse (quote cs) word = .ok (ofBytes (encode cs)) := by
  obtain ⟨pieces, hspelled, hreads, hfits, hpieces⟩ : ∃ pieces : List Piece,
      Pattern.spelled (quote cs) word = pieces.flatMap Piece.text ∧ (∀ p ∈ pieces, p.Reads) ∧
      (∀ p ∈ pieces, PieceFits (Pattern.setting word) p) ∧
      pieces.flatMap pieceBytes = encode cs := by
    rw [Pattern.spelled]
    by_cases hutf8 : FlagWord.has word .utf8 = true
    · refine ⟨cs.map quotedPiece, ?_, ?_, ?_, ?_⟩
      · rw [if_pos hutf8, quote_eq]
      · exact List.forall_mem_map.2 fun x _ => reads_quotedPiece x
      · exact List.forall_mem_map.2 fun x _ h => absurd h (form_quotedPiece x)
      · rw [List.flatMap_map]
        exact List.flatMap_congr fun x _ => pieceBytes_quotedPiece x
    · refine ⟨cs.flatMap spelledPieces, ?_, ?_, ?_, ?_⟩
      · rw [if_neg hutf8, spellInBytes_quote]
      · intro p hp
        obtain ⟨x, -, hp⟩ := List.mem_flatMap.1 hp
        rw [spelledPieces] at hp
        split at hp
        · obtain rfl := List.mem_singleton.1 hp
          exact reads_quotedPiece x
        · obtain ⟨b, -, rfl⟩ := List.mem_map.1 hp
          exact reads_bytePiece b
      · intro p hp
        obtain ⟨x, -, hp⟩ := List.mem_flatMap.1 hp
        exact fits_spelledPieces (Bool.eq_false_iff.2 hutf8) p hp
      · rw [List.flatMap_assoc]
        exact List.flatMap_congr fun x _ => flatMap_spelledPieces x
  obtain ⟨ls, stop, hls, htree⟩ := ofPattern?_pieces hreads
  rw [Reading.parse_eq, Reading.parse, hspelled, htree]
  change ((Reading.ofWord word).regex (Pattern.setting word) _ >>= fun x => Except.ok x.1) = _
  rw [regex_literals hcase, flatMap_literalBytes hfits hls, hpieces]
  rfl

end Multiscan.Regex
