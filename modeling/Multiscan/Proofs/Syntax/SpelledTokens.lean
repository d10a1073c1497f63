import Multiscan.Proofs.Syntax.SpelledText
import Multiscan.Proofs.Text.Escaped
/-!
# Syntax — spelling in bytes, token by token

A pattern falls into tokens, from left to right: a backslash goes with the character
behind it, and every other character stands alone. Spelling in bytes rewrites the tokens
one by one (`spellInBytes_eq_flatMap`), so what becomes of two patterns in a row is what
becomes of each, unless the first breaks off inside an escape (`spellInBytes_append_of_closed`).
A loop can do it that remembers of what it has read no more than whether it breaks off so
(`Speller.Holds.push`); where the character behind an escaping backslash turns out not to be
ASCII, it takes the backslash back.
-/

namespace Multiscan.Syntax

open Text (encodeChar)

/-! ## Tokens -/

/-- What a pattern is read as, from left to right. -/
inductive Token
  /-- A character that is no backslash. -/
  | single (c : Char)
  /-- A backslash and the character behind it. -/
  | escape (c : Char)
  /-- A backslash at the end. -/
  | slash
  deriving DecidableEq

/-- The text of a token. -/
def Token.text : Token → List Char
  | .single c => [c]
  | .escape c => ['\\', c]
  | .slash => ['\\']

/-- A token spelled in bytes. One that is all ASCII stays as it is. -/
def Token.spelled : Token → List Char
  | .single c => if c.toNat < 128 then [c] else charInBytes c
  | .escape c => if c.toNat < 128 then ['\\', c] else charInBytes c
  | .slash => ['\\']

/-- The tokens of a pattern. -/
def tokens : List Char → List Token
  | [] => []
  | ['\\'] => [.slash]
  | '\\' :: c :: cs => .escape c :: tokens cs
  | c :: cs => .single c :: tokens cs

/-- Whether a pattern ends in the first half of an escape. -/
def endsOpen (p : List Char) : Bool := (tokens p).getLast? == some .slash

variable {c : Char} {p q u cs : List Char}

theorem tokens_single (hslash : c ≠ '\\') (cs : List Char) :
    tokens (c :: cs) = .single c :: tokens cs := by
  rw [tokens]
  · exact fun h _ => hslash h
  · exact fun _ _ h _ => hslash h

/-- Patterns by their tokens: what holds of the empty pattern and of a lone backslash, and
goes on holding with one more token at the front, holds of every pattern. -/
@[elab_as_elim]
theorem token_induction {motive : List Char → Prop} (nil : motive []) (slash : motive ['\\'])
    (escape : ∀ c cs, motive cs → motive ('\\' :: c :: cs))
    (single : ∀ c cs, c ≠ '\\' → motive cs → motive (c :: cs)) (p : List Char) : motive p := by
  fun_induction tokens p with
  | case1 => exact nil
  | case2 => exact slash
  | case3 c cs ih => exact escape c cs ih
  | case4 c cs hend hescape ih =>
    refine single c cs ?_ ih
    rintro rfl
    cases cs with
    | nil => exact hend rfl rfl
    | cons d cs => exact hescape d cs rfl rfl

/-- Nothing of a pattern is lost or moved. -/
theorem flatMap_text_tokens (p : List Char) : (tokens p).flatMap Token.text = p := by
  induction p using token_induction with
  | nil => rfl
  | slash => rfl
  | escape c cs ih => rw [tokens, List.flatMap_cons, ih]; rfl
  | single c cs hslash ih => rw [tokens_single hslash, List.flatMap_cons, ih]; rfl

/-- **Spelling goes token by token.** -/
theorem spellInBytes_eq_flatMap (p : List Char) :
    spellInBytes p = (tokens p).flatMap Token.spelled := by
  induction p using token_induction with
  | nil => rfl
  | slash => rfl
  | escape c cs ih =>
    rw [tokens, List.flatMap_cons, spellInBytes, ih, Token.spelled]
    split
    · rfl
    · rfl
  | single c cs hslash ih =>
    rw [tokens_single hslash, List.flatMap_cons, spellInBytes_cons hslash, ih, Token.spelled]
    split
    · rfl
    · rfl

/-! ## Patterns that break off -/

theorem endsOpen_escape (c : Char) (cs : List Char) :
    endsOpen ('\\' :: c :: cs) = endsOpen cs := by
  rw [endsOpen, endsOpen, tokens, List.getLast?_cons]
  cases (tokens cs).getLast? with
  | none => rfl
  | some t => rfl

theorem endsOpen_single (hslash : c ≠ '\\') (cs : List Char) :
    endsOpen (c :: cs) = endsOpen cs := by
  rw [endsOpen, endsOpen, tokens_single hslash, List.getLast?_cons]
  cases (tokens cs).getLast? with
  | none => rfl
  | some t => rfl

/-- One more character: a backslash opens an escape unless it is the second half of one. -/
theorem endsOpen_concat (p : List Char) (c : Char) :
    endsOpen (p ++ [c]) = (c == '\\' && !endsOpen p) := by
  induction p using token_induction with
  | nil =>
    by_cases hslash : c = '\\'
    · rw [hslash]; rfl
    · rw [List.nil_append, endsOpen_single hslash, beq_false_of_ne hslash]; rfl
  | slash => rw [List.singleton_append, endsOpen_escape]; exact (Bool.and_false _).symm
  | escape d cs ih => rw [List.cons_append, List.cons_append, endsOpen_escape, endsOpen_escape, ih]
  | single d cs hslash ih =>
    rw [List.cons_append, endsOpen_single hslash, endsOpen_single hslash, ih]

/-- A pattern that does not break off is read to its end before what follows. -/
theorem tokens_append (hp : endsOpen p = false) (q : List Char) :
    tokens (p ++ q) = tokens p ++ tokens q := by
  induction p using token_induction with
  | nil => rfl
  | slash => cases hp
  | escape c cs ih =>
    rw [endsOpen_escape] at hp
    rw [List.cons_append, List.cons_append, tokens, tokens, ih hp, List.cons_append]
  | single c cs hslash ih =>
    rw [endsOpen_single hslash] at hp
    rw [List.cons_append, tokens_single hslash, tokens_single hslash, ih hp, List.cons_append]

/-- A pattern that breaks off does so behind a backslash with which a token begins. -/
theorem exists_of_endsOpen (hp : endsOpen p = true) :
    ∃ u, p = u ++ ['\\'] ∧ endsOpen u = false := by
  rcases List.eq_nil_or_concat p with rfl | ⟨u, c, rfl⟩
  · cases hp
  · rw [List.concat_eq_append] at hp ⊢
    rw [endsOpen_concat, Bool.and_eq_true, beq_iff_eq, Bool.not_eq_true'] at hp
    exact ⟨u, by rw [hp.1], hp.2⟩

/-- **Spelling goes piece by piece** where no escape is cut. -/
theorem spellInBytes_append_of_closed (hp : endsOpen p = false) (q : List Char) :
    spellInBytes (p ++ q) = spellInBytes p ++ spellInBytes q := by
  rw [spellInBytes_eq_flatMap, tokens_append hp, List.flatMap_append, ← spellInBytes_eq_flatMap,
    ← spellInBytes_eq_flatMap]

/-- Where one is cut, the backslash is spelled together with what follows it. -/
theorem spellInBytes_append_of_open (hp : endsOpen p = true) :
    ∃ u, spellInBytes p = spellInBytes u ++ ['\\'] ∧
      ∀ q, spellInBytes (p ++ q) = spellInBytes u ++ spellInBytes ('\\' :: q) := by
  obtain ⟨u, rfl, hu⟩ := exists_of_endsOpen hp
  refine ⟨u, spellInBytes_append_of_closed hu ['\\'], fun q => ?_⟩
  rw [List.append_assoc, List.singleton_append, spellInBytes_append_of_closed hu]

/-- A character in ASCII is written behind the rest. -/
theorem spellInBytes_concat (p : List Char) (hc : c.toNat < 128) :
    spellInBytes (p ++ [c]) = spellInBytes p ++ [c] := by
  have hself : spellInBytes [c] = [c] := spellInBytes_of_ascii (List.forall_mem_singleton.2 hc)
  cases hp : endsOpen p with
  | false => rw [spellInBytes_append_of_closed hp, hself]
  | true =>
    obtain ⟨u, hwritten, hnext⟩ := spellInBytes_append_of_open hp
    rw [hnext, hwritten, spellInBytes_slash hc, List.append_assoc]
    rfl

/-- Any other takes the backslash that escapes it back. -/
theorem spellInBytes_append_wide (p : List Char) (hc : ¬ c.toNat < 128) (q : List Char) :
    spellInBytes (p ++ c :: q) =
      (if endsOpen p then (spellInBytes p).dropLast else spellInBytes p) ++
        (charInBytes c ++ spellInBytes q) := by
  cases hp : endsOpen p with
  | false =>
    rw [spellInBytes_append_of_closed hp, spellInBytes_wide hc]
    rfl
  | true =>
    obtain ⟨u, hwritten, hnext⟩ := spellInBytes_append_of_open hp
    rw [hnext, hwritten, spellInBytes, if_neg hc, if_pos rfl, List.dropLast_concat]

/-! ## The loop -/

/-- What the loop has written, and whether the last character that it read was the first
half of an escape. -/
structure Speller where
  written : List Char
  escaped : Bool

/-- One more character. The backslash that escaped a character outside ASCII was the last
that was written, and is taken back. -/
def Speller.push (s : Speller) (c : Char) : Speller :=
  if c.toNat < 128 then { written := s.written ++ [c], escaped := c == '\\' && !s.escaped }
  else
    { written := (if s.escaped then s.written.dropLast else s.written) ++ charInBytes c
      escaped := false }

/-- What the loop writes for a pattern. -/
def spellLoop (p : List Char) : List Char := (p.foldl Speller.push ⟨[], false⟩).written

/-- The loop holds what was read: it has written just its spelling, and knows whether it
broke off inside an escape. -/
structure Speller.Holds (s : Speller) (before : List Char) : Prop where
  written_eq : s.written = spellInBytes before
  escaped_eq : s.escaped = endsOpen before

/-- **One step of the loop** reads one character more. -/
theorem Speller.Holds.push {s : Speller} (h : s.Holds p) (c : Char) :
    (s.push c).Holds (p ++ [c]) := by
  unfold Speller.push
  split
  · next hascii =>
    refine ⟨?_, ?_⟩
    · rw [h.written_eq, spellInBytes_concat p hascii]
    · rw [h.escaped_eq, endsOpen_concat]
  · next hwide =>
    have hslash : c ≠ '\\' := by
      rintro rfl
      exact hwide (by decide)
    refine ⟨?_, ?_⟩
    · rw [h.written_eq, h.escaped_eq, spellInBytes_append_wide p hwide, spellInBytes, List.append_nil]
    · rw [endsOpen_concat, beq_false_of_ne hslash, Bool.false_and]

/-- **The loop** reads on to the end. -/
theorem Speller.Holds.foldl_push {s : Speller} (h : s.Holds p) (q : List Char) :
    (q.foldl Speller.push s).Holds (p ++ q) := by
  induction q generalizing s p with
  | nil => rwa [List.append_nil]
  | cons c q ih =>
    have hrest := ih (h.push c)
    rwa [List.append_assoc, List.singleton_append] at hrest

/-- **The loop spells in bytes.** -/
theorem spellLoop_eq (p : List Char) : spellLoop p = spellInBytes p :=
  have hempty : Speller.Holds ⟨[], false⟩ [] := ⟨rfl, rfl⟩
  (hempty.foldl_push p).written_eq

/-! ## What is spelled -/

/-- The escape of a byte has two capital digits, which are read back as the byte. -/
theorem exists_byteEscape (b : UInt8) :
    ∃ high low, byteEscape b = ['\\', 'x', high, low] ∧ high ∈ "0123456789ABCDEF".toList ∧
      low ∈ "0123456789ABCDEF".toList ∧ Text.hexByte? high low = some b := by
  have hbyte := b.toNat_lt
  have all_digits : ∀ m : Fin 16, Text.capitalDigit m.val ∈ "0123456789ABCDEF".toList := by decide
  exact ⟨_, _, rfl, all_digits ⟨b.toNat / 16, by omega⟩, all_digits ⟨b.toNat % 16, by omega⟩,
    Text.hexByte?_capitalDigit b⟩

/-- A token that is all ASCII stays as it is; any other has one character that is not, and
is spelled as the bytes of that. -/
theorem Token.spelled_cases (t : Token) :
    ((∀ x ∈ t.text, x.toNat < 128) ∧ t.spelled = t.text) ∨
      ∃ c, ¬ c.toNat < 128 ∧ (t.text = [c] ∨ t.text = ['\\', c]) ∧
        t.spelled = (encodeChar c).flatMap byteEscape := by
  have hslash : ('\\').toNat < 128 := by decide
  cases t with
  | single c =>
    by_cases hc : c.toNat < 128
    · exact .inl ⟨List.forall_mem_singleton.2 hc, if_pos hc⟩
    · exact .inr ⟨c, hc, .inl rfl, if_neg hc⟩
  | escape c =>
    by_cases hc : c.toNat < 128
    · exact .inl ⟨List.forall_mem_cons.2 ⟨hslash, List.forall_mem_singleton.2 hc⟩, if_pos hc⟩
    · exact .inr ⟨c, hc, .inr rfl, if_neg hc⟩
  | slash => exact .inl ⟨List.forall_mem_singleton.2 hslash, rfl⟩

/-- **What is spelled is ASCII**, all of it. -/
theorem ascii_of_mem_spellInBytes {x : Char} (hx : x ∈ spellInBytes p) : x.toNat < 128 := by
  have hdigits : ∀ y ∈ escapeChars, y.toNat < 128 := Text.ascii_of_all (by decide)
  rw [spellInBytes_eq_flatMap] at hx
  obtain ⟨t, -, hx⟩ := List.mem_flatMap.1 hx
  rcases t.spelled_cases with ⟨hascii, hself⟩ | ⟨c, -, -, hbytes⟩
  · exact hascii x (hself ▸ hx)
  · rw [hbytes] at hx
    exact hdigits x (mem_escapeChars hx)

/-- A backslash that is the second half of an escape stays. -/
theorem spellInBytes_slash_of_open (hu : endsOpen u = true) (cs : List Char) :
    spellInBytes (u ++ '\\' :: cs) = spellInBytes u ++ '\\' :: spellInBytes cs := by
  obtain ⟨w, hwritten, hnext⟩ := spellInBytes_append_of_open hu
  rw [hnext, hwritten, spellInBytes_slash (by decide), List.append_assoc]
  rfl

/-- **Spelling in bytes rewrites a pattern token by token.** The tokens make up the pattern,
and the spelled text is theirs, in order: that of a token in ASCII is the token itself, and
that of any other the escapes of the bytes of the one character that is not ASCII, two
capital digits each. The loop writes the same, whether or not it is spared for a pattern in
ASCII. So what is written is ASCII and is not changed by spelling it again, patterns can be
spelled one after the other unless an escape is cut, and a backslash is dropped only if it
escapes the character behind it and that is not ASCII. -/
theorem spelled_token_by_token (p : List Char) :
    (tokens p).flatMap Token.text = p ∧
    spellInBytes p = (tokens p).flatMap Token.spelled ∧
    (∀ t ∈ tokens p, ((∀ x ∈ t.text, x.toNat < 128) ∧ t.spelled = t.text) ∨
      ∃ c, ¬ c.toNat < 128 ∧ (t.text = [c] ∨ t.text = ['\\', c]) ∧
        t.spelled = (encodeChar c).flatMap byteEscape) ∧
    (∀ b, ∃ high low, byteEscape b = ['\\', 'x', high, low] ∧
      high ∈ "0123456789ABCDEF".toList ∧ low ∈ "0123456789ABCDEF".toList ∧
      Text.hexByte? high low = some b) ∧
    spellLoop p = spellInBytes p ∧
    (if p.all (fun c => decide (c.toNat < 128)) then p else spellLoop p) = spellInBytes p ∧
    (∀ x ∈ spellInBytes p, x.toNat < 128) ∧
    ((∀ x ∈ p, x.toNat < 128) → spellInBytes p = p) ∧
    spellInBytes (spellInBytes p) = spellInBytes p ∧
    (endsOpen p = false → ∀ q, spellInBytes (p ++ q) = spellInBytes p ++ spellInBytes q) ∧
    (endsOpen p = true → ∀ q,
      spellInBytes (p ++ '\\' :: q) = spellInBytes p ++ '\\' :: spellInBytes q) ∧
    (endsOpen p = false → spellInBytes (p ++ ['\\']) = spellInBytes p ++ ['\\'] ∧
      ∀ c q, spellInBytes (p ++ '\\' :: c :: q) =
        if c.toNat < 128 then spellInBytes p ++ '\\' :: c :: spellInBytes q
        else spellInBytes p ++ (charInBytes c ++ spellInBytes q)) := by
  have hascii : ∀ x ∈ spellInBytes p, x.toNat < 128 := fun x => ascii_of_mem_spellInBytes
  refine ⟨flatMap_text_tokens p, spellInBytes_eq_flatMap p, fun t _ => t.spelled_cases,
    exists_byteEscape, spellLoop_eq p, ?_, hascii, spellInBytes_of_ascii,
    spellInBytes_of_ascii hascii, spellInBytes_append_of_closed, spellInBytes_slash_of_open,
    fun hclosed => ⟨spellInBytes_append_of_closed hclosed _, fun c q => ?_⟩⟩
  · split
    · next hall => exact (spellInBytes_of_ascii (Text.ascii_of_all hall)).symm
    · exact spellLoop_eq p
  · rw [spellInBytes_append_of_closed hclosed, spellInBytes]
    split
    · rfl
    · rfl

/-- Two backslashes and a third before a character outside ASCII: the first two are an
escape, which stays, and the third goes. -/
theorem spelled_token_by_token_of_slashes :
    spellInBytes ['\\', '\\', '\\', 'é'] =
      ['\\', '\\'] ++ ['\\', 'x', 'C', '3', '\\', 'x', 'A', '9'] ∧
    spellInBytes ['\\', '\\', 'é'] =
      spellInBytes ['\\', '\\'] ++ spellInBytes ['é'] ∧
    spellInBytes ['\\', '\\', 'd'] = spellInBytes ['\\'] ++ ['\\', 'd'] ∧
    spellInBytes ['\\'] = ['\\'] := by
  obtain ⟨-, -, -, -, -, -, -, -, -, happend, -, hslash⟩ := spelled_token_by_token ['\\', '\\']
  obtain ⟨-, -, -, -, -, -, -, hself, -, -, hkept, -⟩ := spelled_token_by_token ['\\']
  exact ⟨(hslash (by decide)).2 'é' [], happend (by decide) ['é'], hkept (by decide) ['d'],
    hself (Text.ascii_of_all (by decide))⟩

end Multiscan.Syntax
