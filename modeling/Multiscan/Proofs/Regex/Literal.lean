import Multiscan.Proofs.Regex.Characters
/-!
# Regex — looking for one literal

The way through the machine for a literal is one step, so what a search comes
to is the first offset at which its bytes stand (`find_literal_eq_some`,
`find_literal_eq_none`). For the encoding of a text in that of another these
are the places where the one text stands in the other. So all that is found
are its occurrences, each looked for behind the one before
(`occurrences_findAll`).
-/

namespace Multiscan

namespace Text

variable {s t : List Char} {start k : Nat} {ks ks' : List Nat}

/-! ## Occurrences of a text in another -/

/-- A text stands in another behind the first `k` characters. -/
def OccursAt (s t : List Char) (k : Nat) : Prop := ∃ before after, t = before ++ (s ++ after) ∧
  before.length = k

/-- The occurrences of a text in another from a character on, from left to
right and without overlap: each is the first that starts where the one before
has ended or behind that, and behind the last there is none. -/
inductive Occurrences (s t : List Char) : Nat → List Nat → Prop
  | stop {start : Nat} (hnone : ∀ k, start ≤ k → ¬ OccursAt s t k) : Occurrences s t start []
  | more {start k : Nat} {ks : List Nat} (hle : start ≤ k) (h : OccursAt s t k)
    (hfirst : ∀ i, start ≤ i → i < k → ¬ OccursAt s t i)
    (rest : Occurrences s t (k + s.length) ks) : Occurrences s t start (k :: ks)

/-- **There is only one way to list them.** -/
theorem Occurrences.unique (h : Occurrences s t start ks) (h' : Occurrences s t start ks') :
    ks = ks' := by
  induction h generalizing ks' with
  | stop hnone =>
    cases h' with
    | stop => rfl
    | more hle' hk' => exact absurd hk' (hnone _ hle')
  | @more start k ks hle hk hfirst rest ih =>
    cases h' with
    | stop hnone' => exact absurd hk (hnone' _ hle)
    | @more _ k' ks' hle' hk' hfirst' rest' =>
      -- Neither of the two is before the other.
      obtain rfl : k = k' := Nat.le_antisymm
        (Nat.le_of_not_lt fun hlt => hfirst _ hle' hlt hk')
        (Nat.le_of_not_lt fun hlt => hfirst' _ hle hlt hk)
      rw [ih rest']

theorem Occurrences.occursAt (h : Occurrences s t start ks) : ∀ k ∈ ks, OccursAt s t k := by
  induction h with
  | stop => exact fun k hk => (nomatch hk)
  | more _ hk _ _ ih => exact List.forall_mem_cons.2 ⟨hk, ih⟩

theorem OccursAt.add_length_le (h : OccursAt s t k) : k + s.length ≤ t.length := by
  obtain ⟨before, after, rfl, rfl⟩ := h
  rw [List.length_append, List.length_append]
  omega

/-- The occurrences of a text in what is left of another behind `k` characters,
of which the next `skip` are part of an occurrence already. -/
def occurrencesFrom (s : List Char) : Nat → Nat → List Char → List Nat
  | _, _, [] => []
  | skip + 1, k, _ :: cs => occurrencesFrom s skip (k + 1) cs
  | 0, k, c :: cs =>
    if s.isPrefixOf (c :: cs) then k :: occurrencesFrom s (s.length - 1) (k + 1) cs
    else occurrencesFrom s 0 (k + 1) cs

/-- Where the text does not stand, the occurrences are those behind. -/
theorem Occurrences.of_succ (h : Occurrences s t (k + 1) ks) (hk : ¬ OccursAt s t k) :
    Occurrences s t k ks := by
  have hbehind : ∀ {i : Nat}, k ≤ i → OccursAt s t i → k + 1 ≤ i := by
    intro i hi hoccurs
    refine Nat.lt_of_le_of_ne hi ?_
    rintro rfl
    exact hk hoccurs
  cases h with
  | stop hnone => exact .stop fun i hi hoccurs => hnone i (hbehind hi hoccurs) hoccurs
  | more hle hoccurs hfirst rest =>
    exact .more (Nat.le_of_succ_le hle) hoccurs
      (fun i hi hlt hearlier => hfirst i (hbehind hi hearlier) hlt hearlier) rest

theorem occurrences_occurrencesFrom (hs : s ≠ []) (skip : Nat) (before rest : List Char) :
    Occurrences s (before ++ rest) (before.length + skip)
      (occurrencesFrom s skip before.length rest) := by
  have hpos := List.length_pos_of_ne_nil hs
  induction rest generalizing skip before with
  | nil =>
    refine .stop fun k hk hoccurs => ?_
    have hle := hoccurs.add_length_le
    rw [List.append_nil] at hle
    omega
  | cons c rest ih =>
    have hnext := fun skip => ih skip (before ++ [c])
    simp only [List.append_assoc, List.singleton_append, List.length_append,
      List.length_singleton] at hnext
    cases skip with
    | succ skip =>
      rw [occurrencesFrom, ← Nat.add_assoc, Nat.add_right_comm]
      exact hnext skip
    | zero =>
      rw [occurrencesFrom, Nat.add_zero]
      by_cases hprefix : s.isPrefixOf (c :: rest) = true
      · rw [if_pos hprefix]
        obtain ⟨after, hafter⟩ := List.isPrefixOf_iff_prefix.1 hprefix
        have hrest := hnext (s.length - 1)
        have hend : before.length + 1 + (s.length - 1) = before.length + s.length := by omega
        rw [hend] at hrest
        exact .more (Nat.le_refl _) ⟨before, after, by rw [hafter], rfl⟩
          (fun i hi hlt => absurd hlt (Nat.not_lt.2 hi)) hrest
      · rw [if_neg hprefix]
        refine (hnext 0).of_succ ?_
        rintro ⟨before', after, heq, hlength⟩
        obtain ⟨rfl, hrest⟩ := List.append_inj heq hlength.symm
        exact hprefix (List.isPrefixOf_iff_prefix.2 ⟨after, hrest.symm⟩)

/-- **The occurrences can be computed.** -/
theorem occurrences_iff (hs : s ≠ []) : Occurrences s t 0 ks ↔ ks = occurrencesFrom s 0 0 t := by
  have h := occurrences_occurrencesFrom hs 0 [] t
  exact ⟨fun hks => hks.unique h, fun hks => hks ▸ h⟩

example : occurrencesFrom ['a', 'a'] 0 0 ['a', 'a', 'a', 'b', 'a', 'a'] = [0, 4] := by decide

/-- More characters of a text take more bytes. -/
theorem byteLength_take_lt {l : Nat} (h : k < l) (hl : l ≤ t.length) :
    byteLength (t.take k) < byteLength (t.take l) := by
  have hsplit := byteLength_take_add_drop k (t.take l)
  rw [List.take_take, Nat.min_eq_left (Nat.le_of_lt h)] at hsplit
  obtain ⟨c, cs, hrest⟩ : ∃ c cs, (t.take l).drop k = c :: cs := by
    refine List.exists_cons_of_length_pos ?_
    rw [List.length_drop, List.length_take]
    omega
  have hpos := width_pos c
  rw [hrest, byteLength_cons] at hsplit
  omega

end Text

namespace Regex

open Text (Bytes byteLength encode OccursAt Occurrences)

variable {bs : Bytes} {bytes : List UInt8} {whole : Bool} {start : Nat} {m : Nat × Nat}

/-! ## One search -/

/-- Looking for a literal at an offset is looking whether its bytes stand there,
where nothing has been tried yet. -/
theorem explore_literal (bs : Bytes) {pos : Nat} {tried : Tried}
    (htried : ∀ q ∈ tried, q.1 = place [.run (.literal bytes)] ∧ q.2 < pos) :
    (bytesAt bs pos bytes = true →
      (explore bs pos [.run (.literal bytes)] tried).1 = some (pos + bytes.length)) ∧
    (bytesAt bs pos bytes = false →
      explore bs pos [.run (.literal bytes)] tried =
        (none, tried.insert (place [.run (.literal bytes)], pos))) := by
  have hnew : (place [.run (.literal bytes)], pos) ∉ tried := fun hmem =>
    Nat.lt_irrefl _ (htried _ hmem).2
  have hstep : step bs pos [.run (.literal bytes)] =
      if bytesAt bs pos bytes then .move [] (pos + bytes.length) else .dead := rfl
  rw [explore_eq, if_neg (by simpa using hnew)]
  constructor
  · intro hbytes
    rw [hbytes, if_pos rfl] at hstep
    -- The end has not been tried, for there it would have stopped.
    have hend : (place [], pos + bytes.length) ∉
        tried.insert (place [.run (.literal bytes)], pos) := by
      intro hmem
      rcases Std.HashSet.mem_insert.1 hmem with heq | hmem
      · cases (Prod.mk.inj (beq_iff_eq.1 heq)).1
      · cases (htried _ hmem).1
    rw [hstep]
    dsimp only
    rw [explore_eq, if_neg (by simpa using hend), step]
  · intro hbytes
    rw [hbytes, if_neg Bool.false_ne_true] at hstep
    rw [hstep]

/-- **A search for a literal** ends at the first offset at which its bytes
stand. -/
theorem searchFrom_literal {count : Nat} {tried : Tried}
    (htried : ∀ q ∈ tried, q.1 = place [.run (.literal bytes)] ∧ q.2 < start) :
    searchFrom bs (.literal bytes) count start tried =
      ((List.range' start count).find? (bytesAt bs · bytes)).map fun i =>
        (i, i + bytes.length) := by
  induction count generalizing start tried with
  | zero => rfl
  | succ count ih =>
    obtain ⟨hthere, hgone⟩ := explore_literal bs htried
    rw [searchFrom, List.range'_succ, List.find?_cons]
    rcases hbytes : bytesAt bs start bytes with _ | _
    · rw [hgone hbytes]
      refine ih fun q hq => ?_
      rcases Std.HashSet.mem_insert.1 hq with heq | hq
      · obtain rfl := beq_iff_eq.1 heq
        exact ⟨rfl, Nat.lt_succ_self _⟩
      · exact ⟨(htried q hq).1, Nat.lt_succ_of_lt (htried q hq).2⟩
    · have hfound := hthere hbytes
      split
      · next hsome =>
        rw [hsome] at hfound
        rw [Option.some.inj hfound]
        rfl
      · next hnone =>
        rw [hnone] at hfound
        cases hfound

theorem find_literal (hbytes : bytes ≠ []) : find bs whole (.literal bytes) start =
    ((List.range' start (bs.size + 1 - start)).find? (bytesAt bs · bytes)).map fun i =>
      (i, i + bytes.length) := by
  have hnullable : nullable (.literal bytes) = false := List.isEmpty_eq_false_iff.2 hbytes
  rw [find, hnullable, Bool.and_false, if_neg Bool.false_ne_true, search]
  exact searchFrom_literal fun q hq => absurd hq Std.HashSet.not_mem_empty

theorem find_literal_eq_none (hbytes : bytes ≠ []) :
    find bs whole (.literal bytes) start = none ↔
      ∀ i, start ≤ i → bytesAt bs i bytes = false := by
  rw [find_literal hbytes, Option.map_eq_none_iff, List.find?_range'_eq_none]
  constructor
  · intro h i hi
    by_cases hlt : i < start + (bs.size + 1 - start)
    · simpa using h i hi hlt
    · -- Behind the end no bytes stand.
      rw [Bool.eq_false_iff]
      intro hthere
      have hle := bytesAt_le hthere
      omega
  · intro h i hi _
    simp [h i hi]

theorem find_literal_eq_some (hbytes : bytes ≠ [])
    (h : find bs whole (.literal bytes) start = some m) :
    start ≤ m.1 ∧ bytesAt bs m.1 bytes = true ∧ m.2 = m.1 + bytes.length ∧
      ∀ i, start ≤ i → i < m.1 → bytesAt bs i bytes = false := by
  rw [find_literal hbytes, Option.map_eq_some_iff] at h
  obtain ⟨i, hi, rfl⟩ := h
  obtain ⟨hthere, hmem, hfirst⟩ := List.find?_range'_eq_some.1 hi
  refine ⟨(List.mem_range'_1.1 hmem).1, hthere, rfl, fun j hj hlt => ?_⟩
  simpa using hfirst j hj hlt

/-! ## All that is found of a text -/

variable {s t : List Char} {k : Nat}

/-- The bytes of a text stand behind some of the characters of another exactly
where the text stands behind them. -/
theorem bytesAt_take (hs : s ≠ []) (hk : k ≤ t.length) :
    bytesAt (encode t).toArray (byteLength (t.take k)) (encode s) = true ↔ OccursAt s t k := by
  rw [bytesAt_encode hs]
  constructor
  · rintro ⟨before, after, ht, hbefore⟩
    have hsplit : before ++ (s ++ after) = t.take k ++ t.drop k := by
      rw [List.take_append_drop, ← ht]
    obtain ⟨rfl, -⟩ := Text.eq_of_byteLength_eq hsplit hbefore
    exact ⟨_, after, ht, List.length_take_of_le hk⟩
  · rintro ⟨before, after, ht, rfl⟩
    exact ⟨before, after, ht, by rw [ht, List.take_left]⟩

/-- They stand nowhere else. -/
theorem exists_of_bytesAt {i : Nat} (hs : s ≠ [])
    (h : bytesAt (encode t).toArray i (encode s) = true) :
    ∃ k, OccursAt s t k ∧ byteLength (t.take k) = i := by
  obtain ⟨before, after, ht, rfl⟩ := (bytesAt_encode hs).1 h
  exact ⟨before.length, ⟨before, after, ht, rfl⟩, by rw [ht, List.take_left]⟩

/-- Where an occurrence ends. -/
theorem byteLength_take_add (h : OccursAt s t k) :
    byteLength (t.take (k + s.length)) = byteLength (t.take k) + byteLength s := by
  obtain ⟨before, after, rfl, rfl⟩ := h
  have hsplit : before ++ (s ++ after) = (before ++ s) ++ after := (List.append_assoc ..).symm
  rw [List.take_left, ← List.length_append, hsplit, List.take_left, Text.byteLength_append]

/-- The offsets in bytes of an occurrence. -/
def stretchOf (s t : List Char) (k : Nat) : Nat × Nat :=
  (byteLength (t.take k), byteLength (t.take (k + s.length)))

/-- What is found one after the other from a character on. -/
theorem Successive.occurrences {last : Option Nat} {ms : List (Nat × Nat)} (hs : s ≠ [])
    (h : Successive (encode t).toArray whole (.literal (encode s)) start last ms)
    (hk : k ≤ t.length) (hstart : start = byteLength (t.take k)) :
    ∃ ks, Occurrences s t k ks ∧ ms = ks.map (stretchOf s t) := by
  have hbytes := Text.encode_ne_nil hs
  -- A literal is not found where it matches nothing.
  have hfull : ∀ {start : Nat} {m : Nat × Nat},
      find (encode t).toArray whole (.literal (encode s)) start = some m → m.1 ≠ m.2 := by
    intro start m hfind hempty
    obtain ⟨-, -, hlength, -⟩ := find_literal_eq_some hbytes hfind
    have hpos := List.length_pos_of_ne_nil hbytes
    omega
  induction h generalizing k with
  | stop hnone =>
    refine ⟨[], .stop fun i hi hoccurs => ?_, rfl⟩
    have hle := hoccurs.add_length_le
    have hgone := (find_literal_eq_none hbytes).1 hnone (byteLength (t.take i))
      (hstart ▸ Text.byteLength_take_mono hi t)
    rw [(bytesAt_take hs (by omega)).2 hoccurs] at hgone
    cases hgone
  | @more start last m ms hfind _ rest ih =>
    obtain ⟨hle, hthere, hend, hfirst⟩ := find_literal_eq_some hbytes hfind
    obtain ⟨i, hoccurs, hi⟩ := exists_of_bytesAt hs hthere
    have hlength := hoccurs.add_length_le
    have hki : k ≤ i := by
      refine Nat.le_of_not_lt fun hlt => ?_
      have hbefore := Text.byteLength_take_lt hlt hk
      omega
    rw [Text.length_encode, ← hi, ← byteLength_take_add hoccurs] at hend
    obtain ⟨ks, hks, rfl⟩ := ih hlength hend
    refine ⟨i :: ks, .more hki hoccurs (fun j hj hlt hearlier => ?_) hks, ?_⟩
    · have hgone := hfirst (byteLength (t.take j)) (hstart ▸ Text.byteLength_take_mono hj t)
        (hi ▸ Text.byteLength_take_lt hlt (by omega))
      rw [(bytesAt_take hs (by omega)).2 hearlier] at hgone
      cases hgone
    · rw [List.map_cons, stretchOf, hi, ← hend]
  | passStop hfind => exact absurd rfl (hfull hfind)
  | passMore hfind => exact absurd rfl (hfull hfind)

/-- **All that is found of a text in another** are its occurrences there. -/
theorem occurrences_findAll (hs : s ≠ []) (t : List Char) (whole : Bool) :
    ∃ ks, Occurrences s t 0 ks ∧
      findAll (encode t).toArray whole (.literal (encode s)) = ks.map (stretchOf s t) :=
  (findAll_successive _ _ _).occurrences hs (Nat.zero_le _) rfl

end Regex

end Multiscan
