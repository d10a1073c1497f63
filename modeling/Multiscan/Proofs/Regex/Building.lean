import Multiscan.Proofs.Regex.Extent
import Multiscan.Proofs.Regex.SetOperations
/-!
# Regex — what is built

The functions by which expressions are built bring them into a simple form:
what a repetition, a sequence or an alternation is built of may be opened,
joined, made one set or factored. A property that passes to and from parts,
and to literals and sets that are made one, is kept by all of this (`Closed`).
Being proper is such a property (`closed_proper`): only proper sets and
repetitions come out of proper ones.
-/

namespace Multiscan.Regex

open SymbolSet

variable {r : Regex} {rs : List Regex} {a : Alphabet} {s : SymbolSet}

/-! ## Properties that building keeps -/

/-- A property that expressions have with their parts, and that literals and
sets keep when they become one. -/
structure Closed (P : Regex → Prop) : Prop where
  empty : P .empty
  fail : P fail
  append : ∀ {bytes more : List UInt8}, P (.literal bytes) → P (.literal more) →
    P (.literal (bytes ++ more))
  oneSet : ∀ {rs : List Regex} {r : Regex}, (∀ r ∈ rs, P r) → asOneSet? rs = some r → P r
  parts : ∀ {rs : List Regex}, P (.concat rs) → ∀ r ∈ rs, P r
  concat : ∀ {rs : List Regex}, 2 ≤ rs.length → joinLiterals [] rs = rs → (∀ r ∈ rs, P r) →
    P (.concat rs)
  alternation : ∀ {rs : List Regex}, rs ≠ [] → (∀ r ∈ rs, P r) → P (.alternation rs)
  alternatives : ∀ {rs : List Regex}, P (.alternation rs) → ∀ r ∈ rs, P r

/-- What is joined stays as it is. -/
theorem joinLiterals_joinLiterals (pending : List UInt8) (rs : List Regex) :
    joinLiterals [] (joinLiterals pending rs) = joinLiterals pending rs := by
  fun_induction joinLiterals pending rs with
  | case1 pending =>
    rw [withLiteral]
    split
    · rfl
    · next hne => rw [joinLiterals, joinLiterals, List.nil_append, withLiteral, if_neg hne]
  | case2 pending bytes rest ih => exact ih
  | case3 pending rest ih => exact ih
  | case4 pending r rest hliteral hempty ih =>
    have hstays (pending : List UInt8) : joinLiterals pending (r :: joinLiterals [] rest) =
        withLiteral pending (r :: joinLiterals [] rest) := by
      rw [joinLiterals.eq_4 _ _ _ hliteral hempty, ih]
    by_cases hnil : pending.isEmpty = true
    · rw [withLiteral, if_pos hnil]
      exact hstays []
    · rw [withLiteral, if_neg hnil, joinLiterals, List.nil_append, hstays, withLiteral, if_neg hnil]

/-- What comes out of a list of items is what comes out of each. -/
theorem map_eq_of_mapM {α β : Type} {f : α → Option β} {xs : List α} {ys : List β}
    (h : xs.mapM f = some ys) : xs.map f = ys.map some := by
  induction xs generalizing ys with
  | nil =>
    obtain rfl := Option.some.inj h
    rfl
  | cons x xs ih =>
    rw [List.mapM_cons] at h
    obtain ⟨y, hy, hrest⟩ := Option.bind_eq_some_iff.1 h
    obtain ⟨zs, hzs, hcons⟩ := Option.bind_eq_some_iff.1 hrest
    obtain rfl := Option.some.inj hcons
    rw [List.map_cons, List.map_cons, hy, ih hzs]

theorem exists_of_mapM {α β : Type} {f : α → Option β} {xs : List α} {ys : List β}
    (h : xs.mapM f = some ys) : ∀ y ∈ ys, ∃ x ∈ xs, f x = some y := by
  intro y hy
  have hmem : some y ∈ xs.map f := map_eq_of_mapM h ▸ List.mem_map_of_mem hy
  exact List.mem_map.1 hmem

namespace Closed

variable {P : Regex → Prop}

/-- Repeating keeps it, if a repetition has it with counts that are not the wrong way
round, and without bound only where it was without one before. -/
theorem ofRepetition (hP : Closed P) {min : Nat} {max : Option Nat} {greedy : Bool} (hr : P r)
    (hcounts : ∀ m ∈ max, min ≤ m)
    (hrepetition : ∀ {least : Nat} {most : Option Nat}, (∀ m ∈ most, least ≤ m) →
      (most = none → max = none) → P (.repetition least most greedy r)) :
    P (ofRepetition min max greedy r) := by
  have hbuilt : ∀ (least : Nat) (most : Option Nat), (∀ m ∈ most, least ≤ m) →
      (most = none → max = none) →
      P (if least = 0 ∧ most = some 0 then Regex.empty
        else if least = 1 ∧ most = some 1 then r else .repetition least most greedy r) := by
    intro least most hle hbound
    split
    · exact hP.empty
    · split
      · exact hr
      · exact hrepetition hle hbound
  -- What only matches the empty stretch has its counts cut to one.
  have hcut : ∀ m ∈ some ((max.map (Nat.min · 1)).getD 1), Nat.min min 1 ≤ m := by
    intro m hm
    obtain rfl := Option.some.inj hm
    rcases max with _ | most
    · exact Nat.min_le_right min 1
    · have hle := hcounts most rfl
      change Min.min min 1 ≤ Min.min most 1
      omega
  by_cases hempty : r.maxLen? = some 0
  · rw [Regex.ofRepetition, if_pos hempty]
    exact hbuilt _ _ hcut nofun
  · rw [Regex.ofRepetition, if_neg hempty]
    exact hbuilt _ _ hcounts id

theorem withLiteral {bytes : List UInt8} (hbytes : bytes = [] ∨ P (.literal bytes))
    (h : ∀ r ∈ rs, P r) : ∀ r ∈ withLiteral bytes rs, P r := by
  rw [Regex.withLiteral]
  split
  · exact h
  · next hne =>
    have hliteral := hbytes.resolve_left fun hnil => hne (List.isEmpty_iff.2 hnil)
    exact List.forall_mem_cons.2 ⟨hliteral, h⟩

theorem joinLiterals (hP : Closed P) {pending : List UInt8}
    (hpending : pending = [] ∨ P (.literal pending)) (h : ∀ r ∈ rs, P r) :
    ∀ r ∈ joinLiterals pending rs, P r := by
  fun_induction Regex.joinLiterals pending rs with
  | case1 pending => exact withLiteral hpending h
  | case2 pending bytes rest ih =>
    obtain ⟨hbytes, hrest⟩ := List.forall_mem_cons.1 h
    refine ih (.inr ?_) hrest
    rcases hpending with rfl | hliteral
    · exact hbytes
    · exact hP.append hliteral hbytes
  | case3 pending rest ih => exact ih hpending (List.forall_mem_cons.1 h).2
  | case4 pending r rest hliteral hempty ih =>
    obtain ⟨hr, hrest⟩ := List.forall_mem_cons.1 h
    exact withLiteral hpending (List.forall_mem_cons.2 ⟨hr, ih (.inl rfl) hrest⟩)

theorem openConcats (hP : Closed P) (h : ∀ r ∈ rs, P r) : ∀ r ∈ openConcats rs, P r := by
  intro q hq
  obtain ⟨r, hr, hmem⟩ := List.mem_flatMap.1 hq
  have hpart := h r hr
  split at hmem
  · exact hP.parts hpart q hmem
  · rwa [List.mem_singleton.1 hmem]

theorem ofConcat (hP : Closed P) (h : ∀ r ∈ rs, P r) : P (ofConcat rs) := by
  have hparts := hP.joinLiterals (.inl rfl) (hP.openConcats h)
  have hjoined := joinLiterals_joinLiterals [] (Regex.openConcats rs)
  rw [Regex.ofConcat]
  generalize Regex.joinLiterals [] (Regex.openConcats rs) = built at hparts hjoined ⊢
  rcases built with _ | ⟨r, _ | ⟨q, qs⟩⟩
  · exact hP.empty
  · exact hparts r List.mem_cons_self
  · exact hP.concat (Nat.le_add_left 2 qs.length) hjoined hparts

theorem openAlternations (hP : Closed P) (h : ∀ r ∈ rs, P r) :
    ∀ r ∈ openAlternations rs, P r := by
  intro q hq
  obtain ⟨r, hr, hmem⟩ := List.mem_flatMap.1 hq
  have hpart := h r hr
  split at hmem
  · exact hP.alternatives hpart q hmem
  · rwa [List.mem_singleton.1 hmem]

/-- What several sequences consist of. -/
theorem partsOf? (hP : Closed P) {ps : List Regex} {pss : List (List Regex)}
    (h : ∀ r ∈ rs, P r) (hparts : rs.mapM partsOf? = some pss) (hps : ps ∈ pss) :
    ∀ r ∈ ps, P r := by
  obtain ⟨r, hr, hof⟩ := exists_of_mapM hparts ps hps
  unfold Regex.partsOf? at hof
  split at hof
  · obtain rfl := Option.some.inj hof
    exact hP.parts (h _ hr)
  · cases hof

/-- What is left of them behind a front. -/
theorem tails (hP : Closed P) {pss : List (List Regex)} (h : ∀ r ∈ rs, P r)
    (hparts : rs.mapM Regex.partsOf? = some pss) (n : Nat) :
    ∀ r ∈ pss.map fun ps => Regex.ofConcat (ps.drop n), P r := by
  intro r hr
  obtain ⟨ps, hps, rfl⟩ := List.mem_map.1 hr
  have hpart := hP.partsOf? h hparts hps
  exact hP.ofConcat fun q hq => hpart q (List.mem_of_mem_drop hq)

theorem factorAlternation (hP : Closed P) (fuel : Nat) (h : ∀ r ∈ rs, P r) :
    P (factorAlternation fuel rs) := by
  have hopen := hP.openAlternations h
  fun_induction Regex.factorAlternation fuel rs with
  | case1 => exact hP.fail
  | case2 fuel rs r hone => exact hopen r (hone ▸ List.mem_cons_self)
  | case3 fuel rs hnil hone r hset => exact hP.oneSet hopen hset
  | case4 =>
    rename_i hnil _ _ _
    exact hP.alternation hnil hopen
  | case5 =>
    rename_i tails hnil _ _ hparts ih
    have htails : ∀ r ∈ tails, P r := hP.tails hopen hparts _
    have hfirst := hP.partsOf? hopen hparts List.mem_cons_self
    refine hP.ofConcat (List.forall_mem_append.2 ⟨fun q hq => ?_, ?_⟩)
    · exact hfirst q (List.mem_of_mem_take hq)
    · exact List.forall_mem_singleton.2 (ih htails (hP.openAlternations htails))
  | case6 =>
    rename_i hnil _ _ _
    exact hP.alternation hnil hopen

/-- **Alternatives keep it**, whatever is made of them. -/
theorem ofAlternation (hP : Closed P) (h : ∀ r ∈ rs, P r) : P (ofAlternation rs) :=
  hP.factorAlternation _ h

end Closed

/-! ## Single items are proper -/

theorem allProper_iff : AllProper rs ↔ ∀ r ∈ rs, r.Proper := by
  induction rs with
  | nil => exact ⟨fun _ r hr => (nomatch hr), fun _ => trivial⟩
  | cons r rs ih => rw [AllProper, ih, List.forall_mem_cons]

theorem proper_empty_set (a : Alphabet) : SymbolSet.empty.Proper a :=
  ⟨fun _ hr => (nomatch hr), .nil⟩

theorem proper_ofBytes (bytes : List UInt8) : (ofBytes bytes).Proper := by
  rw [ofBytes]
  split
  · trivial
  · trivial

theorem proper_fail : fail.Proper := proper_empty_set .byte

/-- The bytes of a symbol. -/
def symbolBytes : Alphabet → Nat → List UInt8
  | .byte, n => [UInt8.ofNat n]
  | .character, n => Text.encodeChar (Char.ofNat n)

theorem symbolBytes_ne_nil (a : Alphabet) (n : Nat) : symbolBytes a n ≠ [] := by
  cases a with
  | byte => exact List.cons_ne_nil _ _
  | character =>
    obtain ⟨b, rest, hbytes, -⟩ := Text.exists_cons_encodeChar (Char.ofNat n)
    rw [symbolBytes, hbytes]
    exact List.cons_ne_nil _ _

theorem exists_of_onlyMember? {bytes : List UInt8} (h : onlyMember? a s = some bytes) :
    ∃ n, s = .interval n n ∧ bytes = symbolBytes a n := by
  unfold onlyMember? at h
  split at h
  · next lo hi hintervals =>
    obtain ⟨rfl, hbytes⟩ := Option.ite_none_right_eq_some.1 h
    exact ⟨lo, congrArg SymbolSet.mk hintervals, (Option.some.inj hbytes).symm⟩
  · next lo hi hintervals =>
    obtain ⟨rfl, hbytes⟩ := Option.ite_none_right_eq_some.1 h
    exact ⟨lo, congrArg SymbolSet.mk hintervals, (Option.some.inj hbytes).symm⟩
  · cases h

/-- **What matches a symbol of a set**: nothing if it has none, the bytes of its only
one, or the set. -/
theorem ofSet_cases (a : Alphabet) (s : SymbolSet) :
    (s = .empty ∧ ofSet a s = fail) ∨
      (∃ n, s = .interval n n ∧ ofSet a s = .literal (symbolBytes a n)) ∨
      ofSet a s = .oneOf a s := by
  rw [ofSet]
  split
  · next hempty => exact .inl ⟨congrArg SymbolSet.mk (List.isEmpty_iff.1 hempty), rfl⟩
  · split
    · next hbytes =>
      obtain ⟨n, hset, rfl⟩ := exists_of_onlyMember? hbytes
      refine .inr (.inl ⟨n, hset, if_neg fun hnil => symbolBytes_ne_nil a n ?_⟩)
      exact List.isEmpty_iff.1 hnil
    · exact .inr (.inr rfl)

theorem proper_ofSet (hs : s.Proper a) : (ofSet a s).Proper := by
  obtain ⟨-, hset⟩ | ⟨n, -, hset⟩ | hset := ofSet_cases a s
  · exact hset ▸ proper_fail
  · exact hset ▸ trivial
  · exact hset ▸ hs

/-! ## Several items as one -/

/-- An alternative is one symbol of a set. -/
inductive OneSymbol : Alphabet → Regex → SymbolSet → Prop
  | set (a : Alphabet) (s : SymbolSet) : OneSymbol a (.oneOf a s) s
  | ascii (a b : Alphabet) {s : SymbolSet} (h : s.isAscii = true) : OneSymbol a (.oneOf b s) s
  | character {bytes : List UInt8} {c : Char} (h : literalChar? bytes = some c) :
    OneSymbol .character (.literal bytes) (.interval c.toNat c.toNat)
  | byte (b : UInt8) : OneSymbol .byte (.literal [b]) (.interval b.toNat b.toNat)

theorem oneSymbol_of_literalCharacter? (h : literalCharacter? r = some s) :
    OneSymbol .character r s := by
  unfold literalCharacter? at h
  split at h
  · obtain ⟨c, hc, rfl⟩ := Option.map_eq_some_iff.1 h
    exact .character hc
  · cases h

theorem oneSymbol_of_literalByte? (h : literalByte? r = some s) : OneSymbol .byte r s := by
  unfold literalByte? at h
  split at h
  · exact Option.some.inj h ▸ .byte _
  · cases h

theorem oneSymbol_of_asCharacters? (h : asCharacters? r = some s) :
    OneSymbol .character r s := by
  unfold asCharacters? at h
  split at h
  · exact Option.some.inj h ▸ .set .character _
  · obtain ⟨hascii, hs⟩ := Option.ite_none_right_eq_some.1 h
    exact Option.some.inj hs ▸ .ascii .character .byte hascii
  · cases h

theorem oneSymbol_of_asBytes? (h : asBytes? r = some s) : OneSymbol .byte r s := by
  unfold asBytes? at h
  split at h
  · exact Option.some.inj h ▸ .set .byte _
  · obtain ⟨hascii, hs⟩ := Option.ite_none_right_eq_some.1 h
    exact Option.some.inj hs ▸ .ascii .byte .character hascii
  · cases h

/-- What several alternatives are as one set: each is one symbol of its own. -/
theorem exists_of_asOneSet? (h : asOneSet? rs = some r) :
    ∃ a reading s, (∀ q t, reading q = some t → OneSymbol a q t) ∧
      unionOf? reading rs = some s ∧ r = ofSet a s := by
  rw [asOneSet?] at h
  simp only [Option.orElse_eq_orElse, Option.orElse_eq_or, Option.or_eq_some_iff,
    Option.map_eq_some_iff] at h
  rcases h with ⟨s, hs, rfl⟩ | ⟨-, ⟨s, hs, rfl⟩ | ⟨-, ⟨s, hs, rfl⟩ | ⟨-, s, hs, rfl⟩⟩⟩
  · exact ⟨_, _, s, fun _ _ => oneSymbol_of_literalCharacter?, hs, rfl⟩
  · exact ⟨_, _, s, fun _ _ => oneSymbol_of_literalByte?, hs, rfl⟩
  · exact ⟨_, _, s, fun _ _ => oneSymbol_of_asCharacters?, hs, rfl⟩
  · exact ⟨_, _, s, fun _ _ => oneSymbol_of_asBytes?, hs, rfl⟩

section

variable {reading : Regex → Option SymbolSet} (hunion : unionOf? reading rs = some s)

include hunion

theorem exists_reading (hr : r ∈ rs) : ∃ t, reading r = some t := by
  obtain ⟨sets, hsets, rfl⟩ := Option.map_eq_some_iff.1 hunion
  have hmem : reading r ∈ sets.map some := map_eq_of_mapM hsets ▸ List.mem_map_of_mem hr
  obtain ⟨t, -, ht⟩ := List.mem_map.1 hmem
  exact ⟨t, ht.symm⟩

/-- The union of sets that a reading takes from alternatives has the members of
these, and no others. -/
theorem contains_unionOf? {n : Nat} :
    s.contains n = true ↔ ∃ r ∈ rs, ∃ t, reading r = some t ∧ t.contains n = true := by
  obtain ⟨sets, hsets, rfl⟩ := Option.map_eq_some_iff.1 hunion
  constructor
  · intro hn
    obtain ⟨k, hk, hbounds⟩ := contains_ofIntervals.1 hn
    obtain ⟨t, ht, hmem⟩ := List.mem_flatMap.1 hk
    obtain ⟨r, hr, hread⟩ := exists_of_mapM hsets t ht
    exact ⟨r, hr, t, hread, contains_iff.2 ⟨k, hmem, hbounds⟩⟩
  · rintro ⟨r, hr, t, hread, hn⟩
    have hmem : some t ∈ sets.map some :=
      map_eq_of_mapM hsets ▸ List.mem_map.2 ⟨r, hr, hread⟩
    obtain ⟨t', ht, hsame⟩ := List.mem_map.1 hmem
    obtain rfl := Option.some.inj hsame
    obtain ⟨k, hk, hbounds⟩ := contains_iff.1 hn
    exact contains_ofIntervals.2 ⟨k, List.mem_flatMap.2 ⟨t', ht, hk⟩, hbounds⟩

/-- It is proper if they are. -/
theorem proper_unionOf? (h : ∀ r ∈ rs, ∀ t, reading r = some t → Valid a t.intervals) :
    s.Proper a := by
  obtain ⟨sets, hsets, rfl⟩ := Option.map_eq_some_iff.1 hunion
  refine proper_ofIntervals fun k hk => ?_
  obtain ⟨t, ht, hmem⟩ := List.mem_flatMap.1 hk
  obtain ⟨r, hr, hread⟩ := exists_of_mapM hsets t ht
  exact h r hr t hread k hmem

end

/-- Sets in ASCII are sets of any alphabet. -/
theorem valid_of_isAscii {b : Alphabet} (h : Valid a s.intervals) (hascii : s.isAscii = true) :
    Valid b s.intervals := by
  intro k hk
  have hlast : k.2 ≤ 0x7F := of_decide_eq_true (List.all_eq_true.1 hascii k hk)
  have hspan := (h k hk).2.2
  exact ⟨isSymbol_of_ascii b (by omega), isSymbol_of_ascii b hlast, hspan⟩

theorem valid_single {n : Nat} (h : a.IsSymbol n) : Valid a (interval n n).intervals :=
  List.forall_mem_singleton.2 ⟨h, h, Nat.le_refl n⟩

theorem OneSymbol.valid (h : OneSymbol a r s) (hr : r.Proper) : Valid a s.intervals := by
  cases h with
  | set => exact hr.valid
  | ascii a b hascii => exact valid_of_isAscii hr.valid hascii
  | character => exact valid_single (isSymbol_toNat _)
  | byte b => exact valid_single (isSymbol_byte.2 (Nat.le_of_lt_succ b.toNat_lt))

/-- Several alternatives as one set. -/
theorem proper_asOneSet? (h : ∀ r ∈ rs, r.Proper) (hset : asOneSet? rs = some r) : r.Proper := by
  obtain ⟨a, reading, s, hreads, hs, rfl⟩ := exists_of_asOneSet? hset
  exact proper_ofSet (proper_unionOf? hs fun q hq t ht => (hreads q t ht).valid (h q hq))

/-- **Being proper is kept** by all that is built. -/
theorem closed_proper : Closed Regex.Proper where
  empty := trivial
  fail := proper_fail
  append _ _ := trivial
  oneSet := proper_asOneSet?
  parts := allProper_iff.1
  concat _ _ := allProper_iff.2
  alternation hne h := ⟨hne, allProper_iff.2 h⟩
  alternatives h := allProper_iff.1 h.2

end Multiscan.Regex
