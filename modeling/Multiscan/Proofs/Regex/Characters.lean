import Multiscan.Proofs.Regex.Building
import Multiscan.Proofs.Regex.Matches
import Multiscan.Proofs.Text.Characters
/-!
# Regex — matches of whole characters

An expression can say bytes that are no characters. One that does not, that is
whose literals are texts and whose sets of bytes are in ASCII (`TextOnly`),
takes whole characters of a text or nothing (`whole_of_matches`). It can still
match nothing inside a character, and such matches are those that a search does
not count where characters must stay whole. So both ends of what is found stand
between characters (`between_of_mem_findAll`).
-/

namespace Multiscan.Regex

open Text (Bytes Between byteLength encode encodeChar width)

variable {cs : List Char} {bs : Bytes} {r : Regex} {rs : List Regex} {i j k : Nat}

/-! ## Expressions about text -/

mutual

/-- An expression that says nothing of bytes but those of characters. -/
def TextOnly : Regex → Prop
  | .literal bytes => ∃ cs, bytes = encode cs
  | .oneOf .byte s => ∀ n, s.contains n = true → n < 0x80
  | .repetition _ _ _ sub => sub.TextOnly
  | .capture _ _ sub => sub.TextOnly
  | .concat parts => AllTextOnly parts
  | .alternation alts => AllTextOnly alts
  | _ => True

/-- The same for several expressions. -/
def AllTextOnly : List Regex → Prop
  | [] => True
  | r :: rs => r.TextOnly ∧ AllTextOnly rs

end

theorem allTextOnly_iff : AllTextOnly rs ↔ ∀ r ∈ rs, r.TextOnly := by
  induction rs with
  | nil => exact ⟨fun _ r hr => (nomatch hr), fun _ => trivial⟩
  | cons r rs ih => rw [AllTextOnly, ih, List.forall_mem_cons]

/-! ## What is taken of a text -/

theorem bytesAt_append {xs ys : List UInt8} : bytesAt bs i (xs ++ ys) = true ↔
    bytesAt bs i xs = true ∧ bytesAt bs (i + xs.length) ys = true := by
  induction xs generalizing i with
  | nil =>
    rw [List.nil_append, List.length_nil, Nat.add_zero]
    constructor
    · intro h
      have hle := bytesAt_le h
      exact ⟨decide_eq_true (by omega), h⟩
    · exact fun h => h.2
  | cons x xs ih =>
    rw [List.cons_append, bytesAt, bytesAt, Bool.and_eq_true, Bool.and_eq_true, ih,
      List.length_cons, and_assoc, Nat.add_right_comm, Nat.add_assoc]

theorem getElem?_of_bytesAt {xs : List UInt8} (h : bytesAt bs i xs = true) {b : UInt8}
    (hb : xs[j]? = some b) : bs[i + j]? = some b := by
  induction xs generalizing i j with
  | nil => cases hb
  | cons x xs ih =>
    rw [bytesAt, Bool.and_eq_true, beq_iff_eq] at h
    cases j with
    | zero =>
      obtain rfl := Option.some.inj hb
      exact h.1
    | succ j =>
      rw [List.getElem?_cons_succ] at hb
      have hrest := ih h.2 hb
      rwa [Nat.add_right_comm, Nat.add_assoc] at hrest

theorem bytesAt_iff {xs : List UInt8} : bytesAt bs i xs = true ↔
    i + xs.length ≤ bs.size ∧ ∀ (j : Nat) (b : UInt8), xs[j]? = some b → bs[i + j]? = some b := by
  refine ⟨fun h => ⟨bytesAt_le h, fun j b hb => getElem?_of_bytesAt h hb⟩, ?_⟩
  induction xs generalizing i with
  | nil => exact fun h => decide_eq_true h.1
  | cons x xs ih =>
    rintro ⟨hle, h⟩
    rw [List.length_cons] at hle
    rw [bytesAt, Bool.and_eq_true, beq_iff_eq]
    refine ⟨h 0 x rfl, ih ⟨by omega, fun j b hb => ?_⟩⟩
    have hnext := h (j + 1) b hb
    rwa [← Nat.add_assoc, Nat.add_right_comm] at hnext

/-- The encoding of a character stands in a text only where the character does. -/
theorem bytesAt_encodeChar {c : Char} (h : bytesAt (encode cs).toArray i (encodeChar c) = true) :
    ∃ before after, cs = before ++ c :: after ∧ byteLength before = i :=
  Text.decodeAt_encode.1 (Text.decodeAt_of_bytes fun _ _ hb => getElem?_of_bytesAt h hb)

/-- **The encoding of a text stands in that of another** only where the text
stands in the other. -/
theorem bytesAt_encode {ds : List Char} (hds : ds ≠ []) :
    bytesAt (encode cs).toArray i (encode ds) = true ↔
      ∃ before after, cs = before ++ (ds ++ after) ∧ byteLength before = i := by
  constructor
  · induction ds generalizing i with
    | nil => exact absurd rfl hds
    | cons d ds ih =>
      intro h
      rw [Text.encode_cons, bytesAt_append] at h
      obtain ⟨before, after, rfl, rfl⟩ := bytesAt_encodeChar h.1
      rcases ds with _ | ⟨e, ds⟩
      · exact ⟨before, after, rfl, rfl⟩
      -- What follows the first character stands behind it.
      obtain ⟨before', after', heq, hlength⟩ := ih (List.cons_ne_nil _ _) h.2
      have hsplit : (before ++ [d]) ++ after = before' ++ (e :: ds ++ after') := by
        rw [← heq, List.append_assoc, List.singleton_append]
      have hsame : byteLength (before ++ [d]) = byteLength before' := by
        rw [hlength, Text.byteLength_append, Text.byteLength_cons, Text.byteLength_nil,
          Text.length_encodeChar, Nat.add_zero]
      obtain ⟨-, rfl⟩ := Text.eq_of_byteLength_eq hsplit hsame
      exact ⟨before, after', rfl, rfl⟩
  · rintro ⟨before, after, rfl, rfl⟩
    rw [bytesAt_iff]
    constructor
    · rw [Text.length_encode, List.size_toArray, Text.length_encode, Text.byteLength_append,
        Text.byteLength_append]
      omega
    · intro j b hb
      have hj := (List.getElem?_eq_some_iff.1 hb).1
      rw [Text.getElem?_encode_append, Text.encode_append, List.getElem?_append_left hj, hb]

/-! ## What matches of a text -/

/-- A stretch of nothing, or one that starts and ends between characters. -/
def Whole (cs : List Char) (i j : Nat) : Prop := i = j ∨ Between cs i ∧ Between cs j

theorem Whole.trans (hij : Whole cs i j) (hjk : Whole cs j k) : Whole cs i k := by
  rcases hij with rfl | ⟨hi, hj⟩
  · exact hjk
  · rcases hjk with rfl | ⟨-, hk⟩
    · exact .inr ⟨hi, hj⟩
    · exact .inr ⟨hi, hk⟩

theorem whole_of_times {P : Nat → Nat → Prop} {n : Nat} (hP : ∀ {i j}, P i j → Whole cs i j)
    (h : Times P n i j) : Whole cs i j := by
  induction n generalizing i with
  | zero => exact .inl h
  | succ n ih =>
    obtain ⟨k, hfirst, hrest⟩ := h
    exact (hP hfirst).trans (ih hrest)

theorem between_of_split {before after : List Char} (middle : List Char)
    (h : cs = before ++ (middle ++ after)) :
    Between cs (byteLength before) ∧ Between cs (byteLength before + byteLength middle) :=
  ⟨⟨before, middle ++ after, h, rfl⟩, before ++ middle, after, by rw [h, List.append_assoc],
    Text.byteLength_append _ _⟩

/-- A symbol that is read in a text is a character of it. -/
theorem between_of_symbolAt? {a : Alphabet} {s : SymbolSet} (hs : (oneOf a s).TextOnly)
    (h : symbolAt? (encode cs).toArray i a s = some j) : Between cs i ∧ Between cs j := by
  unfold symbolAt? at h
  cases a with
  | byte =>
    dsimp only at h
    split at h
    · next b hb =>
      obtain ⟨hmem, hj⟩ := Option.ite_none_right_eq_some.1 h
      obtain rfl := Option.some.inj hj
      have hascii := hs _ hmem
      obtain ⟨before, c, after, hcs, rfl, hc⟩ := Text.exists_of_ascii hb hascii
      have hwidth : width c = 1 := by
        rw [width, if_pos (by omega)]
      have hends := between_of_split [c] hcs
      rwa [Text.byteLength_cons, hwidth, Text.byteLength_nil] at hends
    · cases h
  | character =>
    dsimp only at h
    split at h
    · next c hc =>
      obtain ⟨-, hj⟩ := Option.ite_none_right_eq_some.1 h
      obtain rfl := Option.some.inj hj
      obtain ⟨before, after, hcs, rfl⟩ := Text.decodeAt_encode.1 hc
      have hends := between_of_split [c] hcs
      rwa [Text.byteLength_cons, Text.byteLength_nil, Nat.add_zero] at hends
    · cases h

mutual

/-- **An expression about text takes whole characters or nothing.** -/
theorem whole_of_matches : (r : Regex) → r.TextOnly → ∀ {i j : Nat},
    Matches (encode cs).toArray r i j → Whole cs i j
  | .empty, _, _, _, h => .inl h
  | .literal bytes, hr, i, j, ⟨hbytes, hj⟩ => by
    obtain ⟨ds, rfl⟩ := hr
    rw [Text.length_encode] at hj
    by_cases hds : ds = []
    · left
      rw [hds, Text.byteLength_nil] at hj
      exact hj
    · right
      obtain ⟨before, after, hcs, rfl⟩ := (bytesAt_encode hds).1 hbytes
      rw [← hj]
      exact between_of_split ds hcs
  | .oneOf _ _, hr, _, _, h => .inr (between_of_symbolAt? hr h)
  | .look _, _, _, _, h => .inl h.2
  | .repetition _ _ _ sub, hr, _, _, ⟨_, _, h⟩ => whole_of_times (whole_of_matches sub hr) h
  | .capture _ _ sub, hr, _, _, h => whole_of_matches sub hr h
  | .concat parts, hr, _, _, h => whole_of_matchesAll parts hr h
  | .alternation alts, hr, _, _, h => whole_of_matchesAny alts hr h

theorem whole_of_matchesAll : (rs : List Regex) → AllTextOnly rs → ∀ {i j : Nat},
    MatchesAll (encode cs).toArray rs i j → Whole cs i j
  | [], _, _, _, h => .inl h
  | r :: rs, hrs, _, _, ⟨_, hfirst, hrest⟩ =>
    (whole_of_matches r hrs.1 hfirst).trans (whole_of_matchesAll rs hrs.2 hrest)

theorem whole_of_matchesAny : (rs : List Regex) → AllTextOnly rs → ∀ {i j : Nat},
    MatchesAny (encode cs).toArray rs i j → Whole cs i j
  | r :: _, hrs, _, _, .inl h => whole_of_matches r hrs.1 h
  | _ :: rs, hrs, _, _, .inr h => whole_of_matchesAny rs hrs.2 h

end

/-! ## Matches of nothing -/

mutual

/-- **What is not nullable takes something.** -/
theorem lt_of_matches : (r : Regex) → r.nullable = false → ∀ {i j : Nat}, Matches bs r i j → i < j
  | .empty, hr, _, _, _ => by cases hr
  | .literal bytes, hr, i, j, h => by
    have hne : bytes ≠ [] := List.isEmpty_eq_false_iff.1 hr
    have hpos := List.length_pos_of_ne_nil hne
    rw [← h.2]
    omega
  | .oneOf _ _, _, _, _, h => (symbolAt?_le h).1
  | .look _, hr, _, _, _ => by cases hr
  | .repetition min _ _ sub, hr, i, j, ⟨more, _, h⟩ => by
    rw [nullable, Bool.or_eq_false_iff] at hr
    obtain ⟨n, hn⟩ := Nat.exists_eq_succ_of_ne_zero (beq_eq_false_iff_ne.1 hr.1)
    rw [hn, Nat.succ_add] at h
    obtain ⟨k, hfirst, hrest⟩ := h
    have hlt := lt_of_matches sub hr.2 hfirst
    have hle := le_of_times (le_of_matches sub) hrest
    omega
  | .capture _ _ sub, hr, _, _, h => lt_of_matches sub hr h
  | .concat parts, hr, _, _, h => lt_of_matchesAll parts hr h
  | .alternation alts, hr, _, _, h => lt_of_matchesAny alts hr h

theorem lt_of_matchesAll : (rs : List Regex) → allNullable rs = false → ∀ {i j : Nat},
    MatchesAll bs rs i j → i < j
  | [], hrs, _, _, _ => by cases hrs
  | r :: rs, hrs, i, j, ⟨k, hfirst, hrest⟩ => by
    rw [allNullable, Bool.and_eq_false_iff] at hrs
    rcases hrs with hr | hrs
    · have hlt := lt_of_matches r hr hfirst
      have hle := le_of_matchesAll rs hrest
      omega
    · have hle := le_of_matches r hfirst
      have hlt := lt_of_matchesAll rs hrs hrest
      omega

theorem lt_of_matchesAny : (rs : List Regex) → anyNullable rs = false → ∀ {i j : Nat},
    MatchesAny bs rs i j → i < j
  | r :: rs, hrs, _, _, .inl h => by
    rw [anyNullable, Bool.or_eq_false_iff] at hrs
    exact lt_of_matches r hrs.1 h
  | r :: rs, hrs, _, _, .inr h => by
    rw [anyNullable, Bool.or_eq_false_iff] at hrs
    exact lt_of_matchesAny rs hrs.2 h

end

/-! ## What is found in a text -/

/-- Where characters must stay whole, what can match nothing ends at a
boundary. -/
theorem isBoundary_of_searchWhole {fuel start : Nat} {m : Nat × Nat}
    (h : searchWhole bs r fuel start = some m) : Text.isBoundary bs m.2 = true := by
  induction fuel generalizing start with
  | zero => cases h
  | succ fuel ih =>
    rw [searchWhole] at h
    split at h
    · cases h
    · split at h
      · next hboundary =>
        obtain rfl := Option.some.inj h
        exact hboundary
      · exact ih h

/-- **What is found of an expression about text** starts and ends between
characters, where these must stay whole. -/
theorem between_of_find {start : Nat} {m : Nat × Nat} (hr : r.TextOnly)
    (h : find (encode cs).toArray true r start = some m) : Between cs m.1 ∧ Between cs m.2 := by
  rcases whole_of_matches r hr (matches_of_find h) with hempty | hends
  · rw [find, Bool.true_and] at h
    split at h
    · have hboundary := Text.isBoundary_encode.1 (isBoundary_of_searchWhole h)
      exact ⟨hempty ▸ hboundary, hboundary⟩
    · next hnullable =>
      -- It would have taken something.
      have hlt := lt_of_matches r (Bool.eq_false_iff.2 hnullable) (matches_of_search h)
      omega
  · exact hends

theorem between_of_mem_findAll {m : Nat × Nat} (hr : r.TextOnly)
    (h : m ∈ findAll (encode cs).toArray true r) : Between cs m.1 ∧ Between cs m.2 := by
  obtain ⟨start, hfind⟩ := exists_find_of_mem h
  exact between_of_find hr hfind

end Multiscan.Regex
