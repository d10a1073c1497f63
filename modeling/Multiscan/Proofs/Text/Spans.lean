import Multiscan.Proofs.Text.Characters
import Multiscan.Proofs.Text.Offsets
/-!
# Offset maps — what a span covers

Every byte of a text is one of the bytes of exactly one character (`Covers`),
and a range of characters covers the bytes of the characters in it. The span of
a match that is not empty is the least range that covers the bytes of the match
(`span_is_least_cover`), wherever these begin and end. An empty match has no
bytes to cover; `span_of_empty` says what becomes of it at every offset. Spans
keep the order of what they are of (`span_mono`), empty or not.
-/

namespace Multiscan.Text

variable {cs : List Char} {i j k l s e : Nat}

/-! ## The bytes of characters -/

/-- A byte is one of the bytes of the characters from index `s` up to `e`. -/
def Covers (cs : List Char) (s e i : Nat) : Prop :=
  byteLength (cs.take s) ≤ i ∧ i < byteLength (cs.take e)

instance (cs : List Char) (s e i : Nat) : Decidable (Covers cs s e i) :=
  inferInstanceAs (Decidable (_ ∧ _))

/-- The characters from one of the text's on up to the next. -/
theorem byteLength_take_succ {c : Char} (h : cs[k]? = some c) :
    byteLength (cs.take (k + 1)) = byteLength (cs.take k) + width c := by
  rw [List.take_add_one, h, byteLength_append]
  rfl

/-- Only the characters that there are have bytes. -/
theorem Covers.lt_length (h : Covers cs k (k + 1) i) : k < cs.length := by
  refine Nat.lt_of_not_le fun hlast => ?_
  have hall : byteLength (cs.take (k + 1)) = byteLength (cs.take k) := by
    rw [List.take_of_length_le hlast, List.take_of_length_le (Nat.le_succ_of_le hlast)]
  obtain ⟨hle, hlt⟩ := h
  omega

/-- The first byte of a character. -/
theorem covers_first (h : k < cs.length) : Covers cs k (k + 1) (byteLength (cs.take k)) := by
  have hwidth := byteLength_take_succ (List.getElem?_eq_getElem h)
  have hpos := width_pos cs[k]
  exact ⟨Nat.le_refl _, by omega⟩

/-- The last byte of a character. -/
theorem covers_last (h : k < cs.length) :
    Covers cs k (k + 1) (byteLength (cs.take (k + 1)) - 1) := by
  have hwidth := byteLength_take_succ (List.getElem?_eq_getElem h)
  have hpos := width_pos cs[k]
  exact ⟨by omega, by omega⟩

/-- **Every byte belongs to a character.** -/
theorem exists_covers (h : i < byteLength cs) : ∃ k, Covers cs k (k + 1) i := by
  obtain ⟨before, c, after, j, rfl, rfl, hj⟩ := exists_character h
  refine ⟨before.length, ?_, ?_⟩
  · rw [List.take_left]
    exact Nat.le_add_right _ _
  · have hc : (before ++ c :: after)[before.length]? = some c := by
      rw [List.getElem?_append_right (Nat.le_refl _), Nat.sub_self]
      rfl
    rw [byteLength_take_succ hc, List.take_left]
    omega

/-- **A range covers a byte** if and only if the character of that byte is in
the range. -/
theorem Covers.covers_iff (h : Covers cs k (k + 1) i) : Covers cs s e i ↔ s ≤ k ∧ k < e := by
  obtain ⟨hle, hlt⟩ := h
  constructor
  · rintro ⟨hs, he⟩
    constructor
    · refine Nat.le_of_not_lt fun (hks : k + 1 ≤ s) => ?_
      have hmono := byteLength_take_mono hks cs
      omega
    · refine Nat.lt_of_not_le fun hek => ?_
      have hmono := byteLength_take_mono hek cs
      omega
  · rintro ⟨hs, he⟩
    have hstart := byteLength_take_mono hs cs
    have hstop := byteLength_take_mono (show k + 1 ≤ e from he) cs
    exact ⟨by omega, by omega⟩

/-- A later byte belongs to the same character or to a later one. -/
theorem Covers.le (hi : Covers cs k (k + 1) i) (hj : Covers cs l (l + 1) j) (hij : i ≤ j) :
    k ≤ l := by
  refine Nat.le_of_not_lt fun (hlk : l + 1 ≤ k) => ?_
  have hmono := byteLength_take_mono hlk cs
  obtain ⟨hle, -⟩ := hi
  obtain ⟨-, hlt⟩ := hj
  omega

/-- A range covers the bytes between two if and only if it has the characters of
the first and of the last. -/
theorem covers_between_iff {start stop : Nat} (hstart : start < stop)
    (hk : Covers cs k (k + 1) start) (hl : Covers cs l (l + 1) (stop - 1)) :
    (∀ i, start ≤ i → i < stop → Covers cs s e i) ↔ s ≤ k ∧ l + 1 ≤ e := by
  constructor
  · intro h
    have hfirst := (hk.covers_iff).1 (h start (Nat.le_refl _) hstart)
    have hlast := (hl.covers_iff).1 (h (stop - 1) (by omega) (by omega))
    exact ⟨hfirst.1, hlast.2⟩
  · rintro ⟨hs, he⟩ i hstart' hstop
    have hsize := byteLength_take_add_drop (l + 1) cs
    obtain ⟨m, hm⟩ : ∃ m, Covers cs m (m + 1) i := exists_covers (by
      obtain ⟨-, hlt⟩ := hl
      omega)
    have hkm := hk.le hm hstart'
    have hml := hm.le hl (by omega)
    exact (hm.covers_iff).2 ⟨by omega, by omega⟩

namespace OffsetMap

/-! ## The character of a byte -/

/-- **The map knows the character of every byte.** -/
theorem charAt_of_covers (h : Covers cs k (k + 1) i) : (ofText cs).charAt i = k := by
  have hk := h.lt_length
  obtain ⟨hle, hlt⟩ := h
  rw [byteLength_take_succ (List.getElem?_eq_getElem hk)] at hlt
  have hsplit : cs.take k ++ cs[k] :: cs.drop (k + 1) = cs := by
    rw [List.getElem_cons_drop, List.take_append_drop]
  have hchar := charAt_ofText (cs.take k) cs[k] (cs.drop (k + 1))
    (j := i - byteLength (cs.take k)) (by omega)
  rw [hsplit, List.length_take, Nat.min_eq_left (Nat.le_of_lt hk)] at hchar
  rwa [Nat.add_sub_cancel' hle] at hchar

/-- Past the end there is one character more than the text has. -/
theorem charAt_of_le (h : byteLength cs ≤ i) : (ofText cs).charAt i = cs.length := by
  unfold ofText
  split
  · next hcs =>
    rw [byteLength_of_ascii hcs] at h
    exact Nat.min_eq_right h
  · have hnone : (owners 0 cs)[i]? = none :=
      List.getElem?_eq_none (by rwa [length_owners])
    rw [tabulate, charAt, List.getElem?_toArray, hnone, Option.getD_none, charLength,
      List.size_toArray, length_starts, Nat.add_sub_cancel]

/-- There are no characters but those of the text and the one past its end. -/
theorem charAt_le_length (cs : List Char) (i : Nat) : (ofText cs).charAt i ≤ cs.length := by
  rcases Nat.lt_or_ge i (byteLength cs) with hlt | hge
  · obtain ⟨k, hk⟩ := exists_covers hlt
    rw [charAt_of_covers hk]
    exact Nat.le_of_lt hk.lt_length
  · exact Nat.le_of_eq (charAt_of_le hge)

/-- **A later byte is of the same character or of a later one**, wherever the two
bytes lie. -/
theorem charAt_mono (cs : List Char) (h : i ≤ j) : (ofText cs).charAt i ≤ (ofText cs).charAt j := by
  rcases Nat.lt_or_ge j (byteLength cs) with hlt | hge
  · obtain ⟨k, hk⟩ := exists_covers (Nat.lt_of_le_of_lt h hlt)
    obtain ⟨l, hl⟩ := exists_covers hlt
    rw [charAt_of_covers hk, charAt_of_covers hl]
    exact hk.le hl h
  · rw [charAt_of_le hge]
    exact charAt_le_length cs i

/-- Where a span ends depends on where the match ends alone, and in its order. -/
theorem span_snd_mono (cs : List Char) (start start' : Nat) {stop stop' : Nat} (h : stop ≤ stop') :
    ((ofText cs).span start stop).2 ≤ ((ofText cs).span start' stop').2 := by
  have hlast := charAt_mono cs (show max stop 1 - 1 ≤ max stop' 1 - 1 by omega)
  simp only [span]
  omega

/-- **Spans keep the order**: a match that neither starts nor ends behind another
has a span that neither starts nor ends behind that of the other. -/
theorem span_mono {start start' stop stop' : Nat} (hstart : start ≤ start')
    (hstop : stop ≤ stop') :
    ((ofText cs).span start stop).1 ≤ ((ofText cs).span start' stop').1 ∧
      ((ofText cs).span start stop).2 ≤ ((ofText cs).span start' stop').2 := by
  have hfirst := charAt_mono cs hstart
  have hsnd := span_snd_mono cs start start' hstop
  refine ⟨?_, hsnd⟩
  simp only [span] at hsnd ⊢
  omega

/-- A span goes up to the character of the last byte. -/
theorem span_of_covers (start : Nat) {stop : Nat} (hl : Covers cs l (l + 1) (max stop 1 - 1)) :
    (ofText cs).span start stop = (min ((ofText cs).charAt start) (l + 1), l + 1) := by
  have hlast : l + 1 ≤ cs.length := hl.lt_length
  rw [span, charAt_of_covers hl, charLength_ofText, Nat.min_eq_left hlast]

/-! ## Matches -/

/-- The span of a match goes from the character of its first byte up to that of
its last. -/
theorem span_of_lt {start stop : Nat} (h : start < stop) (hk : Covers cs k (k + 1) start)
    (hl : Covers cs l (l + 1) (stop - 1)) : (ofText cs).span start stop = (k, l + 1) := by
  have hkl := hk.le hl (by omega)
  have hmax : max stop 1 - 1 = stop - 1 := by omega
  rw [span_of_covers start (hmax ▸ hl), charAt_of_covers hk, Nat.min_eq_left (by omega)]

/-- **A span is the least cover.** It goes from the character that holds the first
byte of a match to the one that holds the last byte, so a range of characters
covers the bytes of the match if and only if it contains the span; and the slice
of the span is its characters, none of its checks failing. A match that begins and
ends between characters has just the characters there for its span. -/
theorem span_is_least_cover (cs : List Char) :
    (∀ start stop, start < stop → stop ≤ byteLength cs →
      let r := (ofText cs).span start stop
      r.1 < r.2 ∧ r.2 ≤ cs.length ∧ Covers cs r.1 (r.1 + 1) start ∧
        Covers cs (r.2 - 1) r.2 (stop - 1) ∧
        (∀ s e, (∀ i, start ≤ i → i < stop → Covers cs s e i) ↔ s ≤ r.1 ∧ r.2 ≤ e) ∧
        (ofText cs).slice cs r.1 r.2 = (cs.drop r.1).take (r.2 - r.1) ∧
        (ofText cs).slice? cs r.1 r.2 = some ((cs.drop r.1).take (r.2 - r.1))) ∧
    ∀ s e, s < e → e ≤ cs.length →
      (ofText cs).span (byteLength (cs.take s)) (byteLength (cs.take e)) = (s, e) ∧
        (ofText cs).slice cs s e = (cs.drop s).take (e - s) ∧
        (ofText cs).slice? cs s e = some ((cs.drop s).take (e - s)) := by
  constructor
  · intro start stop hstart hstop r
    obtain ⟨k, hk⟩ := exists_covers (Nat.lt_of_lt_of_le hstart hstop)
    obtain ⟨l, hl⟩ : ∃ l, Covers cs l (l + 1) (stop - 1) := exists_covers (by omega)
    have hkl := hk.le hl (by omega)
    have hlast : l + 1 ≤ cs.length := hl.lt_length
    have hr : r = (k, l + 1) := span_of_lt hstart hk hl
    clear_value r
    subst hr
    exact ⟨Nat.lt_succ_of_le hkl, hlast, hk, hl, fun s e => covers_between_iff hstart hk hl,
      slice_ofText (by omega) hlast, slice?_ofText (by omega) hlast⟩
  · intro s e hse he
    refine ⟨?_, slice_ofText (Nat.le_of_lt hse) he, slice?_ofText (Nat.le_of_lt hse) he⟩
    -- The last byte of the match is the last byte of its last character.
    obtain ⟨l, rfl⟩ : ∃ l, e = l + 1 := ⟨e - 1, by omega⟩
    have hfirst := covers_first (Nat.lt_of_lt_of_le hse he)
    have hlast := covers_last he
    have hlt : byteLength (cs.take s) < byteLength (cs.take (l + 1)) := by
      have hmono := byteLength_take_mono (show s + 1 ≤ l + 1 from hse) cs
      obtain ⟨-, hlt⟩ := hfirst
      omega
    exact span_of_lt hlt hfirst hlast

/-- A match from inside the second character into the third, and the second
character alone. -/
theorem span_is_least_cover_of_cut :
    let cs := ['a', 'é', '𝄞']
    (ofText cs).span 2 5 = (1, 3) ∧
      (∀ s e, (∀ i, 2 ≤ i → i < 5 → Covers cs s e i) ↔ s ≤ 1 ∧ 3 ≤ e) ∧
      (ofText cs).slice cs 1 3 = ['é', '𝄞'] ∧ (ofText cs).span 1 3 = (1, 2) := by
  intro cs
  have hspan : (ofText cs).span 2 5 = (1, 3) := by decide
  obtain ⟨-, -, -, -, hleast, hslice, -⟩ := (span_is_least_cover cs).1 2 5 (by decide) (by decide)
  have hchar := ((span_is_least_cover cs).2 1 2 (by decide) (by decide)).1
  rw [hspan] at hleast hslice
  exact ⟨hspan, hleast, hslice, hchar⟩

/-! ## Empty matches -/

/-- Where an offset can lie: at the start of a text, at its end or past it, in
front of a character, or inside of one. -/
theorem offset_cases (cs : List Char) (b : Nat) :
    b = 0 ∨ (0 < b ∧ byteLength cs ≤ b) ∨
      (∃ k < cs.length, 0 < b ∧ byteLength (cs.take k) = b) ∨
      ∃ k, byteLength (cs.take k) < b ∧ b < byteLength (cs.take (k + 1)) := by
  rcases Nat.eq_zero_or_pos b with hzero | hpos
  · exact .inl hzero
  rcases Nat.lt_or_ge b (byteLength cs) with hlt | hge
  · obtain ⟨k, hk⟩ := exists_covers hlt
    rcases Nat.eq_or_lt_of_le hk.1 with heq | hgt
    · exact .inr (.inr (.inl ⟨k, hk.lt_length, hpos, heq⟩))
    · exact .inr (.inr (.inr ⟨k, hgt, hk.2⟩))
  · exact .inr (.inl ⟨hpos, hge⟩)

theorem span_zero (cs : List Char) : (ofText cs).span 0 0 = (0, min 1 cs.length) := by
  rcases cs with _ | ⟨c, cs⟩
  · rfl
  · have hfirst : Covers (c :: cs) 0 (0 + 1) 0 := covers_first (Nat.succ_pos _)
    rw [span_of_covers 0 hfirst, charAt_of_covers hfirst, List.length_cons,
      Nat.min_eq_left (Nat.zero_le _), Nat.min_eq_left (Nat.le_add_left 1 cs.length)]

/-- Between two characters, and at the end, the span is empty. -/
theorem span_of_boundary (h : k < cs.length) :
    (ofText cs).span (byteLength (cs.take (k + 1))) (byteLength (cs.take (k + 1))) =
      (k + 1, k + 1) := by
  have hlast := covers_last h
  have hpos : 0 < byteLength (cs.take (k + 1)) := Nat.lt_of_le_of_lt (Nat.zero_le _)
    (covers_first h).2
  have hchar : (ofText cs).charAt (byteLength (cs.take (k + 1))) = k + 1 := by
    rcases Nat.lt_or_ge (k + 1) cs.length with hnext | hend
    · exact charAt_of_covers (covers_first hnext)
    · rw [List.take_of_length_le hend, charAt_of_le (Nat.le_refl _)]
      omega
  have hmax : max (byteLength (cs.take (k + 1))) 1 - 1 = byteLength (cs.take (k + 1)) - 1 := by
    omega
  rw [span_of_covers _ (hmax ▸ hlast), hchar, Nat.min_self]

theorem span_of_past {b : Nat} (hpos : 0 < b) (h : byteLength cs ≤ b) :
    (ofText cs).span b b = (cs.length, cs.length) := by
  rcases Nat.eq_or_lt_of_le h with rfl | hlt
  · obtain ⟨k, hk⟩ : ∃ k, cs.length = k + 1 := by
      refine Nat.exists_eq_succ_of_ne_zero fun hnil => ?_
      rw [List.length_eq_zero_iff.1 hnil] at hpos
      exact absurd hpos (Nat.lt_irrefl _)
    have hlast : k < cs.length := by omega
    have hend := span_of_boundary hlast
    rwa [List.take_of_length_le (Nat.le_of_eq hk), ← hk] at hend
  · have hmax : max b 1 - 1 = b - 1 := by omega
    rw [span, hmax, charAt_of_le h, charAt_of_le (by omega), charLength_ofText]
    congr 1 <;> omega

/-- Inside of a character the span is that character. -/
theorem span_of_inside {b : Nat} (hle : byteLength (cs.take k) < b)
    (hlt : b < byteLength (cs.take (k + 1))) : (ofText cs).span b b = (k, k + 1) := by
  have hchar : Covers cs k (k + 1) b := ⟨Nat.le_of_lt hle, hlt⟩
  have hlast : Covers cs k (k + 1) (max b 1 - 1) := ⟨by omega, by omega⟩
  rw [span_of_covers b hlast, charAt_of_covers hchar, Nat.min_eq_left (Nat.le_succ k)]

/-- **The span of an empty match.** At the start of a text it is the first
character, if there is one; otherwise it is empty at the end of the text and in
front of a character, and is the character that the match lies inside of if there
is one. So it is not empty only at the start of a text that is not empty or inside
of a character of several bytes, and is never more than one character. -/
theorem span_of_empty (cs : List Char) (b : Nat) :
    (b = 0 → (ofText cs).span b b = (0, min 1 cs.length)) ∧
      (0 < b → byteLength cs ≤ b → (ofText cs).span b b = (cs.length, cs.length)) ∧
      (0 < b → ∀ k < cs.length, byteLength (cs.take k) = b → (ofText cs).span b b = (k, k)) ∧
      (∀ k, byteLength (cs.take k) < b → b < byteLength (cs.take (k + 1)) →
        (ofText cs).span b b = (k, k + 1)) ∧
      (((ofText cs).span b b).1 < ((ofText cs).span b b).2 ↔
        b = 0 ∧ cs ≠ [] ∨ ∃ k c, cs[k]? = some c ∧ 1 < width c ∧
          byteLength (cs.take k) < b ∧ b < byteLength (cs.take (k + 1))) ∧
      ((ofText cs).span b b).1 ≤ ((ofText cs).span b b).2 ∧
      ((ofText cs).span b b).2 ≤ ((ofText cs).span b b).1 + 1 := by
  have hzero : b = 0 → (ofText cs).span b b = (0, min 1 cs.length) := by
    rintro rfl
    exact span_zero cs
  have hpast : 0 < b → byteLength cs ≤ b → (ofText cs).span b b = (cs.length, cs.length) :=
    span_of_past
  have hfront : 0 < b → ∀ k < cs.length, byteLength (cs.take k) = b →
      (ofText cs).span b b = (k, k) := by
    rintro hpos k hk rfl
    obtain ⟨k, rfl⟩ : ∃ l, k = l + 1 := by
      refine Nat.exists_eq_succ_of_ne_zero ?_
      rintro rfl
      exact absurd hpos (Nat.lt_irrefl _)
    exact span_of_boundary (Nat.lt_of_succ_lt hk)
  have hinside : ∀ k, byteLength (cs.take k) < b → b < byteLength (cs.take (k + 1)) →
      (ofText cs).span b b = (k, k + 1) := fun k => span_of_inside
  generalize (ofText cs).span b b = r at hzero hpast hfront hinside ⊢
  have hshape : r.1 ≤ r.2 ∧ r.2 ≤ r.1 + 1 ∧ (r.1 < r.2 → b = 0 ∧ cs ≠ [] ∨
      ∃ k c, cs[k]? = some c ∧ 1 < width c ∧
        byteLength (cs.take k) < b ∧ b < byteLength (cs.take (k + 1))) := by
    rcases offset_cases cs b with hb | ⟨hpos, hb⟩ | ⟨k, hk, hpos, hb⟩ | ⟨k, hle, hb⟩
    · rw [hzero hb]
      refine ⟨Nat.zero_le _, Nat.min_le_left _ _, fun hlt => .inl ⟨hb, ?_⟩⟩
      rintro rfl
      exact absurd hlt (Nat.lt_irrefl _)
    · rw [hpast hpos hb]
      exact ⟨Nat.le_refl _, Nat.le_succ _, fun hlt => absurd hlt (Nat.lt_irrefl _)⟩
    · rw [hfront hpos k hk hb]
      exact ⟨Nat.le_refl _, Nat.le_succ _, fun hlt => absurd hlt (Nat.lt_irrefl _)⟩
    · rw [hinside k hle hb]
      have hk : k < cs.length := Covers.lt_length ⟨Nat.le_of_lt hle, hb⟩
      have hchar := List.getElem?_eq_getElem hk
      have hwidth := byteLength_take_succ hchar
      exact ⟨Nat.le_succ _, Nat.le_refl _, fun _ => .inr ⟨k, cs[k], hchar, by omega, hle, hb⟩⟩
  refine ⟨hzero, hpast, hfront, hinside, ⟨hshape.2.2, ?_⟩, hshape.1, hshape.2.1⟩
  rintro (⟨hb, hcs⟩ | ⟨k, c, -, -, hle, hb⟩)
  · rw [hzero hb]
    have hpos := List.length_pos_iff.2 hcs
    exact Nat.lt_min.2 ⟨Nat.one_pos, hpos⟩
  · rw [hinside k hle hb]
    exact Nat.lt_succ_self k

/-- The offsets of a text of two characters: the start, the front and the inside of
the second character, and past the end. -/
theorem span_of_empty_at_offsets :
    let cs := ['a', 'é']
    (ofText cs).span 0 0 = (0, 1) ∧ (ofText cs).span 1 1 = (1, 1) ∧
      (ofText cs).span 2 2 = (1, 2) ∧ (ofText cs).span 4 4 = (2, 2) := by
  intro cs
  refine ⟨?_, ?_, ?_, ?_⟩
  · exact (span_of_empty cs 0).1 rfl
  · exact (span_of_empty cs 1).2.2.1 Nat.one_pos 1 (by decide) rfl
  · exact (span_of_empty cs 2).2.2.2.1 1 (by decide) (by decide)
  · exact (span_of_empty cs 4).2.1 (by decide) (by decide)

end OffsetMap

end Multiscan.Text
