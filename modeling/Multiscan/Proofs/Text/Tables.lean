import Multiscan.Proofs.Text.Spans
/-!
# Offset maps — exact in both forms

A map is exact for a text if it knows every byte and every character of it (`Exact`).
Nothing is left open then: exact maps of one text give every answer alike, spans and
refused slices included (`Exact.answersAs`). The tables are built character by character.
Each step lays down one character behind those before it (`Tables.Lays.push`), so in the
end the tables are those of the whole text (`ofLoop_eq_tabulate`). They are exact for any
text, and so is the bare length that stands for them where every character is ASCII.
-/

namespace Multiscan.Text

variable {cs : List Char} {c : Char}

namespace OffsetMap

variable {m m' : OffsetMap} {b k s e : Nat}

/-! ## Exact maps -/

/-- A map that knows a text: how long it is, which character each of its bytes belongs to,
that what lies past the end belongs to none, and where every character starts. -/
structure Exact (m : OffsetMap) (cs : List Char) : Prop where
  length_eq : m.length = (encode cs).length
  charLength_eq : m.charLength = cs.length
  charAt_eq : ∀ b k, Covers cs k (k + 1) b → m.charAt b = k
  charAt_past : ∀ b, (encode cs).length ≤ b → m.charAt b = cs.length
  byteAt?_eq : ∀ k, m.byteAt? k = if k ≤ cs.length then some (byteLength (cs.take k)) else none

/-- Two maps that give every answer about a text alike. -/
structure AnswersAs (m m' : OffsetMap) (cs : List Char) : Prop where
  length_eq : m.length = m'.length
  charLength_eq : m.charLength = m'.charLength
  charAt_eq : ∀ b, m.charAt b = m'.charAt b
  span_eq : ∀ start stop, m.span start stop = m'.span start stop
  slice?_eq : ∀ s e, m.slice? cs s e = m'.slice? cs s e

/-- An exact map names a character for a byte just if the character covers it. -/
theorem Exact.charAt_eq_iff (h : m.Exact cs) (hb : b < (encode cs).length) :
    m.charAt b = k ↔ Covers cs k (k + 1) b := by
  constructor
  · rintro rfl
    obtain ⟨l, hl⟩ := exists_covers (length_encode cs ▸ hb)
    rwa [h.charAt_eq b l hl]
  · exact h.charAt_eq b k

/-- Where a map knows the byte of a character, slices go by it. -/
theorem byteAt_of_byteAt? {a : Nat} (h : m.byteAt? k = some a) : m.byteAt k = a := by
  cases m with
  | ascii n =>
    simp only [byteAt?, Option.ite_none_right_eq_some, Option.some.injEq] at h
    exact h.2
  | mapped owners starts =>
    simp only [byteAt?] at h
    rw [byteAt, h, Option.getD_some]

/-- A slice is read by the length and the bytes of characters alone. -/
theorem slice?_congr (hlength : m.length = m'.length)
    (hbyte : ∀ k, m.byteAt? k = m'.byteAt? k) (s e : Nat) :
    m.slice? cs s e = m'.slice? cs s e := by
  rw [slice?, slice?, hlength, hbyte s, hbyte e]
  rcases hs : m'.byteAt? s with _ | a
  · rfl
  rcases he : m'.byteAt? e with _ | b
  · rfl
  rw [slice, slice, byteAt_of_byteAt? ((hbyte s).trans hs), byteAt_of_byteAt? ((hbyte e).trans he),
    byteAt_of_byteAt? hs, byteAt_of_byteAt? he]

/-- Where no check fails, a slice is what it is without them. -/
theorem slice_of_slice? {part : List Char} (h : m.slice? cs s e = some part) :
    m.slice cs s e = part := by
  obtain ⟨a, -, h⟩ := Option.bind_eq_some_iff.1 h
  obtain ⟨b, -, h⟩ := Option.bind_eq_some_iff.1 h
  exact Option.some.inj (Option.ite_none_right_eq_some.1 h).2

/-- **Exact maps of one text give every answer alike.** -/
theorem Exact.answersAs (h : m.Exact cs) (h' : m'.Exact cs) : m.AnswersAs m' cs := by
  have hlength : m.length = m'.length := h.length_eq.trans h'.length_eq.symm
  have hchars : m.charLength = m'.charLength := h.charLength_eq.trans h'.charLength_eq.symm
  have hcharAt : ∀ b, m.charAt b = m'.charAt b := by
    intro b
    rcases Nat.lt_or_ge b (byteLength cs) with hlt | hge
    · obtain ⟨k, hk⟩ := exists_covers hlt
      rw [h.charAt_eq b k hk, h'.charAt_eq b k hk]
    · rw [← length_encode] at hge
      rw [h.charAt_past b hge, h'.charAt_past b hge]
  refine ⟨hlength, hchars, hcharAt, fun start stop => ?_, slice?_congr hlength fun k => ?_⟩
  · rw [span, span, hcharAt, hcharAt, hchars]
  · rw [h.byteAt?_eq, h'.byteAt?_eq]

/-- **The tables are exact**, whatever the text. -/
theorem exact_tabulate (cs : List Char) : (tabulate cs).Exact cs where
  length_eq := by rw [tabulate, length, List.size_toArray, length_owners, length_encode]
  charLength_eq := by
    rw [tabulate, charLength, List.size_toArray, length_starts, Nat.add_sub_cancel]
  charAt_eq b k h := by
    have hk := h.lt_length
    obtain ⟨hle, hlt⟩ := h
    rw [byteLength_take_succ (List.getElem?_eq_getElem hk)] at hlt
    have howner := getElem?_owners 0 (cs.take k) cs[k] (cs.drop (k + 1))
      (j := b - byteLength (cs.take k)) (by omega)
    rw [List.getElem_cons_drop, List.take_append_drop, Nat.add_sub_cancel' hle, Nat.zero_add,
      List.length_take, Nat.min_eq_left (Nat.le_of_lt hk)] at howner
    rw [tabulate, charAt, List.getElem?_toArray, howner, Option.getD_some]
  charAt_past b h := by
    have hnone : (owners 0 cs)[b]? = none :=
      List.getElem?_eq_none (by rwa [length_owners, ← length_encode])
    rw [tabulate, charAt, List.getElem?_toArray, hnone, Option.getD_none, charLength,
      List.size_toArray, length_starts, Nat.add_sub_cancel]
  byteAt?_eq k := by
    rw [tabulate, byteAt?, List.getElem?_toArray]
    split
    · next h => rw [getElem?_starts 0 h, Nat.zero_add]
    · next h => exact List.getElem?_eq_none (by rw [length_starts]; omega)

/-- **The map of a text is exact.** -/
theorem exact_ofText (cs : List Char) : (ofText cs).Exact cs where
  length_eq := (length_ofText cs).trans (length_encode cs).symm
  charLength_eq := charLength_ofText cs
  charAt_eq _ _ := charAt_of_covers
  charAt_past b h := charAt_of_le (length_encode cs ▸ h)
  byteAt?_eq k := by
    unfold ofText
    split
    · next hascii =>
      rw [byteAt?]
      split
      · next h => rw [byteLength_take_of_ascii h hascii]
      · rfl
    · exact (exact_tabulate cs).byteAt?_eq k

/-- **A slice of an exact map** is the characters between its ends. -/
theorem Exact.slice?_eq_some (h : m.Exact cs) (hse : s ≤ e) (he : e ≤ cs.length) :
    m.slice? cs s e = some ((cs.drop s).take (e - s)) :=
  ((h.answersAs (exact_ofText cs)).slice?_eq s e).trans (slice?_ofText hse he)

/-! ## Building the tables -/

/-- The characters of a text, each behind the byte at which it starts. -/
def charIndices (at_ : Nat) : List Char → List (Nat × Char)
  | [] => []
  | c :: cs => (at_, c) :: charIndices (at_ + (encodeChar c).length) cs

/-- The tables while they grow. -/
structure Tables where
  owners : Array Nat
  starts : Array Nat

/-- One more character: the byte at which it starts, the character and its index. -/
def Tables.push (t : Tables) : (Nat × Char) × Nat → Tables
  | ((at_, c), k) =>
    { owners := t.owners ++ Array.replicate (width c) k, starts := t.starts.push at_ }

/-- The map of the tables that the characters of a text, one after the other, grow to. -/
def ofLoop (cs : List Char) : OffsetMap :=
  let t := (charIndices 0 cs).zipIdx.foldl Tables.push ⟨#[], #[]⟩
  .mapped t.owners (t.starts.push (encode cs).length)

/-- The tables hold a text up to some character, the next one starting behind it. -/
structure Tables.Lays (t : Tables) (before : List Char) : Prop where
  owners_eq : t.owners = (OffsetMap.owners 0 before).toArray
  starts_eq : t.starts.push (byteLength before) = (OffsetMap.starts 0 before).toArray

theorem owners_append (k : Nat) (cs ds : List Char) :
    owners k (cs ++ ds) = owners k cs ++ owners (k + cs.length) ds := by
  induction cs generalizing k with
  | nil => rfl
  | cons c cs ih =>
    rw [List.cons_append, owners, owners, ih, List.append_assoc, List.length_cons,
      Nat.add_assoc, Nat.add_comm 1]

theorem starts_concat (at_ : Nat) (cs : List Char) (c : Char) :
    starts at_ (cs ++ [c]) = starts at_ cs ++ [at_ + byteLength (cs ++ [c])] := by
  induction cs generalizing at_ with
  | nil => rfl
  | cons d cs ih =>
    rw [List.cons_append, starts, starts, ih, byteLength_cons, Nat.add_assoc, List.cons_append]

/-- **One step lays down one character** behind those before it. -/
theorem Tables.Lays.push {t : Tables} {before : List Char} (h : t.Lays before) (c : Char) :
    (t.push ((byteLength before, c), before.length)).Lays (before ++ [c]) where
  owners_eq := by
    rw [Tables.push, h.owners_eq, owners_append, Nat.zero_add, OffsetMap.owners, OffsetMap.owners,
      List.append_nil, List.append_toArray, Array.toList_replicate]
  starts_eq := by
    rw [Tables.push, h.starts_eq, starts_concat, Nat.zero_add, List.push_toArray]

/-- **The loop lays down the rest of the text** behind what is there. -/
theorem Tables.Lays.foldl_push {t : Tables} {before : List Char} (h : t.Lays before)
    (after : List Char) :
    (((charIndices (byteLength before) after).zipIdx before.length).foldl Tables.push t).Lays
      (before ++ after) := by
  induction after generalizing t before with
  | nil => simpa [charIndices] using h
  | cons c after ih =>
    have hrest := ih (h.push c)
    rw [byteLength_append, byteLength_cons, byteLength_nil, Nat.add_zero, List.length_append,
      List.length_singleton, List.append_assoc, List.singleton_append] at hrest
    rw [charIndices, length_encodeChar, List.zipIdx_cons, List.foldl_cons]
    exact hrest

/-- **The loop builds the tables of the text.** -/
theorem ofLoop_eq_tabulate (cs : List Char) : ofLoop cs = tabulate cs := by
  have hempty : Tables.Lays ⟨#[], #[]⟩ [] := ⟨rfl, rfl⟩
  have h : ((charIndices 0 cs).zipIdx.foldl Tables.push ⟨#[], #[]⟩).Lays cs :=
    hempty.foldl_push cs
  rw [ofLoop, tabulate, length_encode, h.owners_eq, h.starts_eq]

/-! ## Both forms -/

/-- **The map is exact in both forms.** Characters are as wide as their encodings are
long. The map of a text and the tables that the loop builds for it both tell how many
bytes and characters it has, to which character each byte belongs and that a byte past the
end belongs to none, and both cut it between any two characters. The map is those tables
unless the text is all ASCII; then it is no more than a length, which gives every answer
that the tables would. -/
theorem exact_in_both_forms (cs : List Char) :
    (∀ c, width c = (String.utf8EncodeChar c).length) ∧
    (∀ m, m = ofText cs ∨ m = ofLoop cs →
      m.length = (encode cs).length ∧ m.charLength = cs.length ∧
      (∀ b k, b < m.length → (m.charAt b = k ↔ Covers cs k (k + 1) b)) ∧
      (∀ b, m.length ≤ b → m.charAt b = cs.length) ∧
      ∀ s e, s ≤ e → e ≤ m.charLength →
        m.slice cs s e = (cs.drop s).take (e - s) ∧
          m.slice? cs s e = some ((cs.drop s).take (e - s))) ∧
    if cs.all (fun c => decide (c.toNat < 128)) then
      ofText cs = .ascii cs.length ∧ (ofText cs).AnswersAs (ofLoop cs) cs
    else ofText cs = ofLoop cs := by
  have hmap := exact_ofText cs
  have hloop : (ofLoop cs).Exact cs := ofLoop_eq_tabulate cs ▸ exact_tabulate cs
  refine ⟨fun c => (length_encodeChar c).symm, fun m hm => ?_, ?_⟩
  · have hexact : m.Exact cs := by
      rcases hm with rfl | rfl
      · exact hmap
      · exact hloop
    have hlength := hexact.length_eq
    refine ⟨hlength, hexact.charLength_eq, fun b k hb => ?_, fun b hb => ?_, fun s e hse he => ?_⟩
    · exact hexact.charAt_eq_iff (hlength ▸ hb)
    · exact hexact.charAt_past b (hlength ▸ hb)
    · have hslice := hexact.slice?_eq_some hse (hexact.charLength_eq ▸ he)
      exact ⟨slice_of_slice? hslice, hslice⟩
  · split
    · next hascii => exact ⟨by rw [ofText, if_pos hascii], hmap.answersAs hloop⟩
    · next hwide => rw [ofLoop_eq_tabulate, ofText, if_neg hwide]

/-- A text of a character of two bytes, and one that is all ASCII. -/
theorem exact_in_both_forms_of_two_texts :
    (ofText ['a', 'é'] = ofLoop ['a', 'é'] ∧ (ofText ['a', 'é']).charAt 2 = 1 ∧
      (ofText ['a', 'é']).charAt 3 = 2 ∧ (ofText ['a', 'é']).slice ['a', 'é'] 1 2 = ['é']) ∧
    (ofText ['a', 'b']).AnswersAs (ofLoop ['a', 'b']) ['a', 'b'] := by
  refine ⟨?_, ?_⟩
  · obtain ⟨-, hboth, hform⟩ := exact_in_both_forms ['a', 'é']
    obtain ⟨-, -, hwithin, hpast, hslice⟩ := hboth _ (.inl rfl)
    rw [if_neg (by decide)] at hform
    exact ⟨hform, (hwithin 2 1 (by decide)).2 (by decide), hpast 3 (by decide),
      (hslice 1 2 (by decide) (by decide)).1⟩
  · have hform := (exact_in_both_forms ['a', 'b']).2.2
    rw [if_pos (by decide)] at hform
    exact hform.2

end OffsetMap

end Multiscan.Text
