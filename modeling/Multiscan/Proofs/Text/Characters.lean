import Multiscan.Proofs.Text.Utf8
/-!
# UTF-8 — reading characters back

A character is read back from its encoding, wherever that stands. And in the
encoding of a text nothing else can be read: only the first byte of a character
does not continue one, so an offset at which something is read, or that is a
boundary, is one at which a character of the text starts (`decodeAt_encode`,
`isBoundary_encode`). So the encoding of one text stands in that of another
only where the one text stands in the other.
-/

namespace Multiscan.Text

variable {c d : Char} {cs : List Char} {bs : Bytes} {i : Nat}

/-! ## The bytes of one character -/

theorem toNat_ofNat_byte {n : Nat} (h : n < 256) : (UInt8.ofNat n).toNat = n :=
  UInt8.toNat_ofNat_of_lt' h

theorem isContinuation_iff {b : UInt8} :
    isContinuation b = true ↔ 0x80 ≤ b.toNat ∧ b.toNat < 0xC0 := by
  rw [isContinuation, Bool.and_eq_true, decide_eq_true_eq, decide_eq_true_eq,
    UInt8.le_iff_toNat_le, UInt8.lt_iff_toNat_lt]
  rfl

/-- The continuation byte that carries the last six bits of a number. -/
def continuation (n : Nat) : UInt8 := UInt8.ofNat (n % 64 + 128)

@[simp] theorem isContinuation_continuation (n : Nat) : isContinuation (continuation n) = true := by
  rw [isContinuation_iff, continuation, toNat_ofNat_byte (by omega)]
  omega

@[simp] theorem payload_continuation (n : Nat) : payload (continuation n) = n % 64 := by
  rw [payload, continuation, toNat_ofNat_byte (by omega)]
  omega

/-- The bytes of a character, by its width. -/
theorem encodeChar_cases (c : Char) :
    (c.toNat ≤ 0x7F ∧ encodeChar c = [UInt8.ofNat c.toNat]) ∨
    (0x7F < c.toNat ∧ c.toNat ≤ 0x7FF ∧ encodeChar c =
      [UInt8.ofNat (c.toNat / 64 + 192), continuation c.toNat]) ∨
    (0x7FF < c.toNat ∧ c.toNat ≤ 0xFFFF ∧ encodeChar c =
      [UInt8.ofNat (c.toNat / 4096 + 224), continuation (c.toNat / 64),
        continuation c.toNat]) ∨
    (0xFFFF < c.toNat ∧ c.toNat ≤ 0x10FFFF ∧ encodeChar c =
      [UInt8.ofNat (c.toNat / 262144 + 240), continuation (c.toNat / 4096),
        continuation (c.toNat / 64), continuation c.toNat]) := by
  have hmax : c.toNat ≤ 0x10FFFF := by
    have hvalid := c.valid
    rw [UInt32.isValidChar, Nat.isValidChar] at hvalid
    change c.val.toNat ≤ _
    omega
  have hunfold : encodeChar c = String.utf8EncodeChar c := rfl
  rw [String.utf8EncodeChar] at hunfold
  change _ = (if c.toNat ≤ 127 then _ else if c.toNat ≤ 2047 then _ else if c.toNat ≤ 65535 then _
    else _) at hunfold
  rw [hunfold]
  by_cases h1 : c.toNat ≤ 127
  · exact .inl ⟨h1, if_pos h1⟩
  by_cases h2 : c.toNat ≤ 2047
  · refine .inr (.inl ⟨by omega, h2, ?_⟩)
    rw [if_neg h1, if_pos h2]
    have hlead : c.val.toNat / 64 % 32 = c.toNat / 64 := by
      change c.toNat / 64 % 32 = _
      omega
    rw [hlead]
    rfl
  by_cases h3 : c.toNat ≤ 65535
  · refine .inr (.inr (.inl ⟨by omega, h3, ?_⟩))
    rw [if_neg h1, if_neg h2, if_pos h3]
    have hlead : c.val.toNat / 4096 % 16 = c.toNat / 4096 := by
      change c.toNat / 4096 % 16 = _
      omega
    rw [hlead]
    rfl
  · refine .inr (.inr (.inr ⟨by omega, hmax, ?_⟩))
    rw [if_neg h1, if_neg h2, if_neg h3]
    have hlead : c.val.toNat / 262144 % 8 = c.toNat / 262144 := by
      change c.toNat / 262144 % 8 = _
      omega
    rw [hlead]
    rfl

/-- **All but the first byte of a character continue it.** -/
theorem isContinuation_of_mem_tail (c : Char) : ∀ b ∈ (encodeChar c).tail,
    isContinuation b = true := by
  rcases encodeChar_cases c with ⟨-, h⟩ | ⟨-, -, h⟩ | ⟨-, -, h⟩ | ⟨-, -, h⟩ <;> rw [h]
  all_goals simp

/-- **All bytes of a character outside ASCII** are outside ASCII. -/
theorem high_of_mem_encodeChar (hc : ¬ c.toNat < 128) : ∀ b ∈ encodeChar c, 128 ≤ b.toNat := by
  intro b hb
  have htail := isContinuation_of_mem_tail c
  rcases encodeChar_cases c with ⟨hle, henc⟩ | ⟨-, hle, henc⟩ | ⟨-, hle, henc⟩ | ⟨-, hle, henc⟩
  · omega
  all_goals
    rw [henc] at hb htail
    rcases List.mem_cons.1 hb with rfl | hb
    · rw [toNat_ofNat_byte (by omega)]
      omega
    · exact (isContinuation_iff.1 (htail b hb)).1

theorem toNat_continuation (n : Nat) : (continuation n).toNat = n % 64 + 128 :=
  toNat_ofNat_byte (by omega)

/-- The first byte of a character outside ASCII is above those that continue one, and the
last is no more than the number of the character. -/
theorem exists_encodeChar_wide (hc : ¬ c.toNat < 128) :
    ∃ lead mid last, encodeChar c = lead :: (mid ++ [last]) ∧ 0xC0 ≤ lead.toNat ∧
      last.toNat < 0xC0 ∧ last.toNat ≤ c.toNat := by
  rcases encodeChar_cases c with ⟨hle, henc⟩ | ⟨-, hle, henc⟩ | ⟨-, hle, henc⟩ | ⟨-, hle, henc⟩
  · omega
  case' inr.inl => refine ⟨_, [], _, henc, ?_, ?_, ?_⟩
  case' inr.inr.inl => refine ⟨_, [_], _, henc, ?_, ?_, ?_⟩
  case' inr.inr.inr => refine ⟨_, [_, _], _, henc, ?_, ?_, ?_⟩
  all_goals first | rw [toNat_continuation] | rw [toNat_ofNat_byte (by omega)]
  all_goals omega

theorem charOfWidth_width (c : Char) : charOfWidth (width c) c.toNat = some c := by
  have hvalid : c.toNat.isValidChar := c.valid
  rw [charOfWidth, if_pos hvalid]
  simp only [Char.ofNat_toNat, if_pos]

theorem ofNat_byte_lt_iff {n : Nat} (hn : n < 256) (m : UInt8) :
    UInt8.ofNat n < m ↔ n < m.toNat := by
  rw [UInt8.lt_iff_toNat_lt, toNat_ofNat_byte hn]

/-- **A character is read where its bytes stand.** -/
theorem decodeAt_of_bytes (h : ∀ (j : Nat) (b : UInt8), (encodeChar c)[j]? = some b →
    bs[i + j]? = some b) : decodeAt bs i = some c := by
  have hbyte : ∀ (j : Nat) (b : UInt8), (encodeChar c)[j]? = some b →
      (if i + j < bs.size then bs[i + j]? else none) = some b := by
    intro j b hb
    have hj := h j b hb
    rw [if_pos (Array.getElem?_eq_some_iff.1 hj).1, hj]
  have hwidth := charOfWidth_width c
  rw [← length_encodeChar] at hwidth
  rw [decodeAt, decodeWithin]
  rcases encodeChar_cases c with ⟨hle, henc⟩ | ⟨hlt, hle, henc⟩ | ⟨hlt, hle, henc⟩ |
    ⟨hlt, hle, henc⟩
  all_goals
    rw [henc] at hbyte hwidth
    have h0 := hbyte 0 _ rfl
    rw [Nat.add_zero] at h0
    simp only [h0]
  -- The first byte tells how many there are: it is compared with one bound after the other.
  · have hlt (m : UInt8) := ofNat_byte_lt_iff (n := c.toNat) (by omega) m
    rw [if_pos ((hlt 0x80).2 (Nat.lt_succ_of_le hle)), toNat_ofNat_byte (by omega)]
    exact hwidth
  · have hlead := toNat_ofNat_byte (n := c.toNat / 64 + 192) (by omega)
    have hlt (m : UInt8) := ofNat_byte_lt_iff (n := c.toNat / 64 + 192) (by omega) m
    have hbelow : c.toNat / 64 + 192 < 224 := by omega
    have hge (m : UInt8) (hm : m.toNat ≤ 192) : ¬ UInt8.ofNat (c.toNat / 64 + 192) < m := by
      rw [hlt]
      omega
    rw [if_neg (hge _ (by decide)), if_neg (hge _ (by decide)), if_pos ((hlt 0xE0).2 hbelow)]
    have hcode : (c.toNat / 64 + 192) % 32 * 64 + c.toNat % 64 = c.toNat := by omega
    simp only [hbyte 1 _ rfl, isContinuation_continuation, if_true, hlead, payload_continuation,
      hcode]
    exact hwidth
  · have hlead := toNat_ofNat_byte (n := c.toNat / 4096 + 224) (by omega)
    have hlt (m : UInt8) := ofNat_byte_lt_iff (n := c.toNat / 4096 + 224) (by omega) m
    have hbelow : c.toNat / 4096 + 224 < 240 := by omega
    have hge (m : UInt8) (hm : m.toNat ≤ 224) : ¬ UInt8.ofNat (c.toNat / 4096 + 224) < m := by
      rw [hlt]
      omega
    rw [if_neg (hge _ (by decide)), if_neg (hge _ (by decide)), if_neg (hge _ (by decide)),
      if_pos ((hlt 0xF0).2 hbelow)]
    have hcode : ((c.toNat / 4096 + 224) % 16 * 64 + c.toNat / 64 % 64) * 64 + c.toNat % 64 =
        c.toNat := by omega
    simp only [hbyte 1 _ rfl, hbyte 2 _ rfl, isContinuation_continuation, Bool.and_true, if_true,
      hlead, payload_continuation, hcode]
    exact hwidth
  · have hlead := toNat_ofNat_byte (n := c.toNat / 262144 + 240) (by omega)
    have hlt (m : UInt8) := ofNat_byte_lt_iff (n := c.toNat / 262144 + 240) (by omega) m
    have hbelow : c.toNat / 262144 + 240 < 248 := by omega
    have hge (m : UInt8) (hm : m.toNat ≤ 240) : ¬ UInt8.ofNat (c.toNat / 262144 + 240) < m := by
      rw [hlt]
      omega
    rw [if_neg (hge _ (by decide)), if_neg (hge _ (by decide)), if_neg (hge _ (by decide)),
      if_neg (hge _ (by decide)), if_pos ((hlt 0xF8).2 hbelow)]
    have hcode : (((c.toNat / 262144 + 240) % 8 * 64 + c.toNat / 4096 % 64) * 64 +
        c.toNat / 64 % 64) * 64 + c.toNat % 64 = c.toNat := by omega
    simp only [hbyte 1 _ rfl, hbyte 2 _ rfl, hbyte 3 _ rfl, isContinuation_continuation,
      Bool.and_true, if_true, hlead, payload_continuation, hcode]
    exact hwidth

theorem encode_ne_nil (h : cs ≠ []) : encode cs ≠ [] := by
  obtain ⟨d, ds, rfl⟩ := List.exists_cons_of_ne_nil h
  have hpos := width_pos d
  rw [ne_eq, ← List.length_eq_zero_iff, length_encode, byteLength_cons]
  omega

/-! ## Places between characters -/

/-- An offset between two characters of a text, at its start or at its end:
the bytes of some of the first characters stand before it. -/
def Between (cs : List Char) (i : Nat) : Prop := ∃ before after, cs = before ++ after ∧
  byteLength before = i

theorem Between.isBoundary (h : Between cs i) : isBoundary (encode cs).toArray i = true := by
  obtain ⟨before, after, rfl, rfl⟩ := h
  have htake := isBoundary_byteLength_take before.length (before ++ after)
  rwa [List.take_left] at htake

/-- What stands behind the bytes of the first characters. -/
theorem getElem?_encode_append (before after : List Char) (j : Nat) :
    (encode (before ++ after)).toArray[byteLength before + j]? = (encode after)[j]? := by
  rw [List.getElem?_toArray, encode_append, ← length_encode,
    List.getElem?_append_right (Nat.le_add_right _ _), Nat.add_sub_cancel_left]

/-- Every byte of a text is one of the bytes of a character. -/
theorem exists_character (h : i < byteLength cs) : ∃ before c after j,
    cs = before ++ c :: after ∧ i = byteLength before + j ∧ j < width c := by
  induction cs generalizing i with
  | nil => exact absurd h (Nat.not_lt_zero i)
  | cons c cs ih =>
    by_cases hc : i < width c
    · exact ⟨[], c, cs, i, rfl, (Nat.zero_add i).symm, hc⟩
    · rw [byteLength_cons] at h
      obtain ⟨before, d, after, j, rfl, hj, hlt⟩ := ih (i := i - width c) (by omega)
      refine ⟨c :: before, d, after, j, rfl, ?_, hlt⟩
      rw [byteLength_cons]
      omega

/-- **A byte that continues nothing starts a character.** -/
theorem exists_of_not_isContinuation {b : UInt8} (hb : (encode cs).toArray[i]? = some b)
    (hlead : isContinuation b = false) :
    ∃ before c after, cs = before ++ c :: after ∧ byteLength before = i := by
  have hi : i < byteLength cs := by
    have hlt := (Array.getElem?_eq_some_iff.1 hb).1
    rwa [List.size_toArray, length_encode] at hlt
  obtain ⟨before, c, after, j, rfl, rfl, hj⟩ := exists_character hi
  refine ⟨before, c, after, rfl, ?_⟩
  rcases j with _ | j
  · rfl
  · -- The byte would be one of those behind the first.
    rw [← length_encodeChar] at hj
    rw [getElem?_encode_append, encode_cons, List.getElem?_append_left hj] at hb
    have hmem : b ∈ (encodeChar c).tail := by
      refine List.mem_of_getElem? (i := j) ?_
      rwa [List.getElem?_tail]
    rw [isContinuation_of_mem_tail c b hmem] at hlead
    cases hlead

/-- A byte in ASCII is a character of its own. -/
theorem exists_of_ascii {b : UInt8} (hb : (encode cs).toArray[i]? = some b)
    (hascii : b.toNat < 0x80) :
    ∃ before c after, cs = before ++ c :: after ∧ byteLength before = i ∧ c.toNat = b.toNat := by
  obtain ⟨before, c, after, rfl, rfl⟩ :=
    exists_of_not_isContinuation hb (isContinuation_of_lt hascii)
  refine ⟨before, c, after, rfl, rfl, ?_⟩
  have hfirst := getElem?_encode_append before (c :: after) 0
  rw [Nat.add_zero, hb, encode_cons] at hfirst
  -- The first byte of a longer character is not in ASCII.
  rcases encodeChar_cases c with ⟨hle, h⟩ | ⟨-, hle, h⟩ | ⟨-, hle, h⟩ | ⟨-, hle, h⟩
  all_goals
    rw [h] at hfirst
    obtain rfl := Option.some.inj hfirst
    rw [toNat_ofNat_byte (by omega)] at hascii
  · rw [toNat_ofNat_byte (by omega)]
  all_goals omega

/-- Parts of a text that stand behind as many bytes stand in one place. -/
theorem eq_of_byteLength_eq {before after before' after' : List Char}
    (h : before ++ after = before' ++ after') (hlength : byteLength before = byteLength before') :
    before = before' ∧ after = after' := by
  have hnil : ∀ {ds : List Char}, byteLength ds = 0 → ds = [] := by
    intro ds hds
    rcases ds with _ | ⟨d, ds⟩
    · rfl
    · have hpos := width_pos d
      rw [byteLength_cons] at hds
      omega
  rcases List.append_eq_append_iff.1 h with ⟨more, rfl, rfl⟩ | ⟨more, rfl, rfl⟩
  · rw [byteLength_append] at hlength
    obtain rfl : more = [] := hnil (by omega)
    simp
  · rw [byteLength_append] at hlength
    obtain rfl : more = [] := hnil (by omega)
    simp

/-- **The boundaries of a text** are the places between its characters. -/
theorem isBoundary_encode : isBoundary (encode cs).toArray i = true ↔ Between cs i := by
  constructor
  · intro h
    rw [isBoundary] at h
    split at h
    · next b hb =>
      obtain ⟨before, c, after, rfl, rfl⟩ := exists_of_not_isContinuation hb (by simpa using h)
      exact ⟨before, c :: after, rfl, rfl⟩
    · refine ⟨cs, [], (List.append_nil cs).symm, ?_⟩
      rw [← length_encode, ← List.size_toArray]
      exact (beq_iff_eq.1 h).symm
  · exact Between.isBoundary

/-! ## Stretches between characters -/

/-- **What stands between two places** is some of the characters. -/
theorem exists_middle {j : Nat} (hi : Between cs i) (hj : Between cs j) (hij : i < j) :
    ∃ before middle after, cs = before ++ (middle ++ after) ∧ middle ≠ [] ∧
      byteLength before = i ∧ byteLength (before ++ middle) = j := by
  obtain ⟨before, rest, rfl, rfl⟩ := hi
  obtain ⟨before', after, heq, rfl⟩ := hj
  rcases List.append_eq_append_iff.1 heq with ⟨middle, rfl, rfl⟩ | ⟨more, rfl, rfl⟩
  · refine ⟨before, middle, after, rfl, ?_, rfl, rfl⟩
    rintro rfl
    rw [List.append_nil] at hij
    exact absurd hij (Nat.lt_irrefl _)
  · rw [byteLength_append] at hij
    omega

/-- Their bytes are the bytes there. -/
theorem extract_encode (before middle after : List Char) :
    (encode (before ++ (middle ++ after))).toArray.extract (byteLength before)
      (byteLength (before ++ middle)) = (encode middle).toArray := by
  rw [List.extract_toArray, encode_append, encode_append, byteLength_append, ← length_encode,
    ← length_encode, List.extract_eq_take_drop, List.drop_left, Nat.add_sub_cancel_left,
    List.take_left]

/-! ## Reading in a text -/

theorem decodeAt_lead (h : decodeAt bs i = some c) :
    ∃ b, bs[i]? = some b ∧ isContinuation b = false := by
  rw [decodeAt, decodeWithin] at h
  simp only at h
  split at h
  · cases h
  · next b hb =>
    obtain ⟨-, hb⟩ := Option.ite_none_right_eq_some.1 hb
    refine ⟨b, hb, ?_⟩
    split at h
    · next hlt =>
      exact isContinuation_of_lt (UInt8.lt_iff_toNat_lt.1 hlt)
    · split at h
      · cases h
      · next hge =>
        rw [UInt8.lt_iff_toNat_lt] at hge
        exact isContinuation_of_ge (Nat.not_lt.1 hge)

/-- **What is read in a text** is one of its characters, where that starts. -/
theorem decodeAt_encode : decodeAt (encode cs).toArray i = some c ↔
    ∃ before after, cs = before ++ c :: after ∧ byteLength before = i := by
  have hread : ∀ (before : List Char) (d : Char) (after : List Char),
      decodeAt (encode (before ++ d :: after)).toArray (byteLength before) = some d := by
    intro before d after
    refine decodeAt_of_bytes fun j b hb => ?_
    have hj := (List.getElem?_eq_some_iff.1 hb).1
    rw [getElem?_encode_append, encode_cons, List.getElem?_append_left hj, hb]
  constructor
  · intro h
    obtain ⟨b, hb, hlead⟩ := decodeAt_lead h
    obtain ⟨before, d, after, rfl, rfl⟩ := exists_of_not_isContinuation hb hlead
    rw [hread before d after] at h
    obtain rfl := Option.some.inj h
    exact ⟨before, after, rfl, rfl⟩
  · rintro ⟨before, after, rfl, rfl⟩
    exact hread before c after

/-- **A text is read back from its encoding.** -/
theorem decode?_encode (cs : List Char) : decode? (encode cs).toArray = some cs := by
  have hfrom : ∀ (fuel : Nat) (before after : List Char), after.length ≤ fuel →
      decodeFrom (encode (before ++ after)).toArray (byteLength before) fuel = some after := by
    intro fuel
    induction fuel with
    | zero =>
      intro before after hlength
      obtain rfl := List.length_eq_zero_iff.1 (Nat.le_zero.1 hlength)
      rw [decodeFrom, List.append_nil, List.size_toArray, length_encode, if_pos rfl]
    | succ fuel ih =>
      intro before after hlength
      rw [decodeFrom, List.size_toArray, length_encode]
      rcases after with _ | ⟨d, after⟩
      · rw [List.append_nil, if_pos rfl]
      · have hpos := width_pos d
        have hne : byteLength before ≠ byteLength (before ++ d :: after) := by
          rw [byteLength_append, byteLength_cons]
          omega
        have hread : decodeAt (encode (before ++ d :: after)).toArray (byteLength before) =
            some d := decodeAt_encode.2 ⟨before, after, rfl, rfl⟩
        have hrest := ih (before ++ [d]) after (Nat.le_of_succ_le_succ hlength)
        rw [List.append_assoc, List.singleton_append, byteLength_append, byteLength_cons,
          byteLength_nil, Nat.add_zero] at hrest
        rw [if_neg hne, hread]
        dsimp only
        rw [hrest]
        rfl
  have hlength : cs.length ≤ (encode cs).toArray.size := by
    rw [List.size_toArray, length_encode]
    induction cs with
    | nil => exact Nat.le_refl 0
    | cons c cs ih =>
      have hpos := width_pos c
      rw [byteLength_cons, List.length_cons]
      omega
  exact hfrom _ [] cs hlength

end Multiscan.Text
