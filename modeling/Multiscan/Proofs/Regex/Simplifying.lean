import Multiscan.Proofs.Regex.AsciiItems
import Multiscan.Proofs.Regex.SameEnds
import Multiscan.Proofs.Regex.Written
/-!
# Regex — what is built ends in the same

Expressions are not built as they are written. In a sequence literals are joined and
sequences opened, the counts of a repetition are cut where nothing is taken, and
alternatives that each take one symbol become one set. What is built ends in the same
as what is written. Of sequences the ends are even the same lists. A repetition of
what takes nothing, and a set in the place of several, list an end less often, and so
offer the `SameChoice`.
-/

namespace Multiscan.Regex

open SymbolSet
open Text (AllAscii Bytes)

variable {bs : Bytes} {r : Regex} {rs : List Regex} {pending : List UInt8} {pos : Nat}
variable {a : Alphabet} {s : SymbolSet} {p : Nat → Prop}

/-! ## Repeated without bound -/

theorem advancing_ofBytes (bytes : List UInt8) : (ofBytes bytes).Advancing := by
  rw [ofBytes]
  split <;> trivial

theorem advancing_ofSet (a : Alphabet) (s : SymbolSet) : (ofSet a s).Advancing := by
  obtain ⟨-, hset⟩ | ⟨n, -, hset⟩ | hset := ofSet_cases a s <;> exact hset ▸ trivial

/-- What is repeated without bound in what is built takes bytes, if it does in the parts. -/
theorem closed_advancing : Closed Advancing where
  empty := trivial
  fail := trivial
  append _ _ := trivial
  oneSet _ h := by
    obtain ⟨a, _, s, -, -, rfl⟩ := exists_of_asOneSet? h
    exact advancing_ofSet a s
  parts := allAdvancing_iff.1
  concat _ _ := allAdvancing_iff.2
  alternation _ := allAdvancing_iff.2
  alternatives := allAdvancing_iff.1

/-! ## Sequences -/

theorem endsAll_append (xs ys : List Regex) (pos : Nat) :
    endsAll bs (xs ++ ys) pos = (endsAll bs xs pos).flatMap (endsAll bs ys) := by
  induction xs generalizing pos with
  | nil => exact (List.flatMap_singleton _ _).symm
  | cons x xs ih =>
    rw [List.cons_append, endsAll, endsAll, List.flatMap_assoc]
    exact List.flatMap_congr fun q _ => ih q

theorem endsAll_singleton (r : Regex) (pos : Nat) : endsAll bs [r] pos = ends bs r pos :=
  List.flatMap_singleton' _

theorem endsAll_openConcats (rs : List Regex) (pos : Nat) :
    endsAll bs (openConcats rs) pos = endsAll bs rs pos := by
  induction rs generalizing pos with
  | nil => rfl
  | cons r rs ih =>
    have hopen : openConcats (r :: rs) = openConcats [r] ++ openConcats rs := by
      rw [openConcats, List.flatMap_cons, openConcats, List.flatMap_singleton]
      rfl
    have hr : endsAll bs (openConcats [r]) pos = ends bs r pos := by
      rw [openConcats, List.flatMap_singleton]
      split
      · rfl
      · exact endsAll_singleton r pos
    rw [hopen, endsAll_append, hr, endsAll]
    exact List.flatMap_congr fun q _ => ih q

/-- A literal is its bytes one behind the other. -/
theorem ends_literal_append (xs ys : List UInt8) (pos : Nat) :
    ends bs (.literal (xs ++ ys)) pos =
      (ends bs (.literal xs) pos).flatMap (ends bs (.literal ys)) := by
  have happend : bytesAt bs pos (xs ++ ys) = true ↔ _ := bytesAt_append
  by_cases hxs : bytesAt bs pos xs = true
  · have hfirst : ends bs (.literal xs) pos = [pos + xs.length] := if_pos hxs
    rw [hfirst, List.flatMap_singleton]
    by_cases hys : bytesAt bs (pos + xs.length) ys = true
    · have hall := happend.2 ⟨hxs, hys⟩
      refine (if_pos hall).trans ((congrArg (fun n => [n]) ?_).trans (if_pos hys).symm)
      rw [List.length_append, Nat.add_assoc]
    · exact (if_neg fun hall => hys (happend.1 hall).2).trans (if_neg hys).symm
  · have hfirst : ends bs (.literal xs) pos = [] := if_neg hxs
    rw [hfirst, List.flatMap_nil]
    exact if_neg fun hall => hxs (happend.1 hall).1

theorem ends_literal_nil (hpos : pos ≤ bs.size) : ends bs (.literal []) pos = [pos] :=
  if_pos (decide_eq_true hpos)

theorem endsAll_withLiteral (hpos : pos ≤ bs.size) :
    endsAll bs (withLiteral pending rs) pos =
      (ends bs (.literal pending) pos).flatMap (endsAll bs rs) := by
  cases pending with
  | nil => rw [ends_literal_nil hpos, List.flatMap_singleton]; rfl
  | cons b rest => rfl

theorem endsAll_joinLiterals (hpos : pos ≤ bs.size) :
    endsAll bs (joinLiterals pending rs) pos =
      (ends bs (.literal pending) pos).flatMap (endsAll bs rs) := by
  fun_induction joinLiterals pending rs generalizing pos with
  | case1 pending => exact endsAll_withLiteral hpos
  | case2 pending bytes rest ih =>
    rw [ih hpos, ends_literal_append, List.flatMap_assoc]
    rfl
  | case3 pending rest ih =>
    rw [ih hpos]
    exact List.flatMap_congr fun q _ => (List.flatMap_singleton _ _).symm
  | case4 pending r rest hliteral hempty ih =>
    rw [endsAll_withLiteral hpos]
    refine List.flatMap_congr fun q hq => List.flatMap_congr fun q' hq' => ?_
    have hle := le_size_of_mem_ends hq' (le_size_of_mem_ends hq hpos)
    rw [ih hle, ends_literal_nil hle, List.flatMap_singleton]

/-- **A sequence ends in what its parts end in**, whatever form it is brought into. -/
theorem ends_ofConcat (rs : List Regex) (hpos : pos ≤ bs.size) :
    ends bs (ofConcat rs) pos = endsAll bs rs pos := by
  have hjoined : endsAll bs (joinLiterals [] (openConcats rs)) pos = endsAll bs rs pos := by
    rw [endsAll_joinLiterals hpos, ends_literal_nil hpos, List.flatMap_singleton,
      endsAll_openConcats]
  rw [ofConcat, ← hjoined]
  split
  · next hnil => rw [hnil]; rfl
  · next r hone => rw [hone, endsAll_singleton]
  · rfl

theorem sameEnds_ofConcat (rs : List Regex) : SameEnds bs (ofConcat rs) (.concat rs) :=
  fun _ hpos => .of_eq (ends_ofConcat rs hpos)

/-! ## Repetitions -/

section

variable {f : Nat → List Nat}

/-- Rounds that take nothing end where they start, if they can be done at all. -/
theorem exactly_of_still (n : Nat) (hf : ∀ q ∈ f pos, q = pos) :
    (∀ q ∈ exactly f n pos, q = pos) ∧ (pos ∈ exactly f n pos ↔ n = 0 ∨ pos ∈ f pos) := by
  induction n with
  | zero => exact ⟨fun q => List.mem_singleton.1, iff_of_true List.mem_cons_self (.inl rfl)⟩
  | succ n ih =>
    constructor
    · intro q hq
      obtain ⟨k, hk, hq⟩ := List.mem_flatMap.1 hq
      rw [hf k hk] at hq
      exact ih.1 q hq
    · constructor
      · intro hmem
        obtain ⟨k, hk, -⟩ := List.mem_flatMap.1 hmem
        exact .inr (hf k hk ▸ hk)
      · intro hmem
        have hfirst := hmem.resolve_left (Nat.succ_ne_zero n)
        exact List.mem_flatMap.2 ⟨pos, hfirst, ih.2.2 (.inr hfirst)⟩

theorem atMost_of_still (greedy : Bool) (n : Nat) (hf : ∀ q ∈ f pos, q = pos) :
    (∀ q ∈ atMost f greedy n pos, q = pos) ∧ pos ∈ atMost f greedy n pos := by
  induction n with
  | zero => exact ⟨fun q => List.mem_singleton.1, List.mem_cons_self⟩
  | succ n ih =>
    refine ⟨fun q hq => ?_, mem_prefer.2 (.inr List.mem_cons_self)⟩
    rcases mem_prefer.1 hq with hq | hq
    · obtain ⟨k, hk, hq⟩ := List.mem_flatMap.1 hq
      rw [hf k hk] at hq
      exact ih.1 q hq
    · exact List.mem_singleton.1 hq

end

/-- A repetition of what takes nothing ends where it starts, if it can be left out or
what is repeated can be done. -/
theorem repetition_of_still (min : Nat) (max : Option Nat) (greedy : Bool)
    (hr : ∀ q ∈ ends bs r pos, q = pos) :
    (∀ q ∈ ends bs (.repetition min max greedy r) pos, q = pos) ∧
      (pos ∈ ends bs (.repetition min max greedy r) pos ↔ min = 0 ∨ pos ∈ ends bs r pos) := by
  obtain ⟨hstill, hmem⟩ := exactly_of_still min hr
  obtain ⟨hstill', hmem'⟩ := atMost_of_still greedy ((max.map (· - min)).getD bs.size) hr
  constructor
  · intro q hq
    obtain ⟨k, hk, hq⟩ := List.mem_flatMap.1 hq
    rw [hstill k hk] at hq
    exact hstill' q hq
  · rw [← hmem]
    constructor
    · intro h
      obtain ⟨k, hk, -⟩ := List.mem_flatMap.1 h
      exact hstill k hk ▸ hk
    · exact fun h => List.mem_flatMap.2 ⟨pos, h, hmem'⟩

/-- **A repetition ends in the same**, with its counts cut or not. -/
theorem sameEnds_ofRepetition (min : Nat) (max : Option Nat) (greedy : Bool) (hr : r.Proper) :
    SameEnds bs (ofRepetition min max greedy r) (.repetition min max greedy r) := by
  have hbuilt : ∀ (min : Nat) (max : Option Nat),
      SameEnds bs (if min = 0 ∧ max = some 0 then .empty
        else if min = 1 ∧ max = some 1 then r else .repetition min max greedy r)
        (.repetition min max greedy r) := by
    intro min max
    split
    · next hnone =>
      obtain ⟨rfl, rfl⟩ := hnone
      exact .refl bs .empty
    · split
      · next hone =>
        obtain ⟨rfl, rfl⟩ := hone
        refine fun pos _ => .of_eq (Eq.symm ?_)
        exact (List.flatMap_singleton' _).trans (List.flatMap_singleton' _)
      · exact .refl bs _
  by_cases hlen : r.maxLen? = some 0
  · rw [ofRepetition, if_pos hlen]
    refine (hbuilt _ _).trans fun pos _ => ?_
    have hstill : ∀ q ∈ ends bs r pos, q = pos := fun q hq => by
      have hcan : r.canConsume = false := by rw [canConsume, hlen]; rfl
      exact (eq_of_canConsume hr hcan (matches_of_mem_ends r hq)).symm
    obtain ⟨h, hmem⟩ := repetition_of_still (Nat.min min 1)
      (some ((max.map (Nat.min · 1)).getD 1)) greedy hstill
    obtain ⟨h', hmem'⟩ := repetition_of_still min max greedy hstill
    refine .of_single h h' ?_
    have hcut : Nat.min min 1 = 0 ↔ min = 0 := by
      change Min.min min 1 = 0 ↔ min = 0
      omega
    rw [hmem, hmem', hcut]
  · rw [ofRepetition, if_neg hlen]
    exact hbuilt min max

/-- A repetition from none on without bound is left out, or made once and more. -/
theorem ends_writtenRepetition (min : Nat) (max : Option Nat) (greedy : Bool)
    (hr : max = none → r.nullable = false) (hpos : pos ≤ bs.size) :
    ends bs (writtenRepetition min max greedy r) pos =
      ends bs (.repetition min max greedy r) pos := by
  cases max with
  | some max => cases min <;> rfl
  | none =>
    cases min with
    | succ min => rfl
    | zero =>
      have honce : ends bs (.repetition 1 none greedy r) pos =
          (ends bs r pos).flatMap (atMost (ends bs r) greedy bs.size) :=
        congrArg (List.flatMap _) (List.flatMap_singleton' _)
      have hleft : ends bs (.repetition 0 none greedy r) pos =
          atMost (ends bs r) greedy bs.size pos := List.flatMap_singleton _ _
      rw [hleft, atMost_size (hr rfl) hpos, ← honce]
      exact (List.flatMap_singleton _ _).trans
        (congrArg (prefer greedy · [pos]) (List.flatMap_singleton' _))

/-! ## Alternatives as one set -/

theorem mem_endsAny {q : Nat} : q ∈ endsAny bs rs pos ↔ ∃ r ∈ rs, q ∈ ends bs r pos := by
  induction rs with
  | nil => exact iff_of_false List.not_mem_nil fun ⟨r, hr, _⟩ => List.not_mem_nil hr
  | cons r rs ih => rw [endsAny, List.mem_append, ih, List.exists_mem_cons_iff]

/-- What takes one byte ends behind it. -/
theorem Takes.mem_ends {q : Nat} (hr : Takes bs p r) (hadvancing : r.Advancing)
    (hpos : pos ≤ bs.size) :
    q ∈ ends bs r pos ↔ q = pos + 1 ∧ ∃ b, bs[pos]? = some b ∧ p b.toNat := by
  have hends := keepsEnds_runStep hpos hadvancing []
  have hstack : stackEnds bs [.run r] pos = ends bs r pos := List.flatMap_singleton' _
  by_cases h : ∃ b, bs[pos]? = some b ∧ p b.toNat
  · obtain ⟨b, hb, hp⟩ := h
    rw [hr.takes [] hb hp, Step.KeepsEnds, hstack] at hends
    rw [hends]
    exact List.mem_singleton.trans (iff_self_and.2 fun _ => ⟨b, hb, hp⟩)
  · rw [hr.stops [] fun b hb hp => h ⟨b, hb, hp⟩, Step.KeepsEnds, hstack] at hends
    rw [hends]
    exact iff_of_false List.not_mem_nil fun hq => h hq.2

/-- A literal of one character takes that. -/
theorem takes_of_literalChar? (hbs : AllAscii bs) {bytes : List UInt8} {c : Char}
    (h : literalChar? bytes = some c) : Takes bs (· = c.toNat) (.literal bytes) := by
  unfold literalChar? at h
  split at h
  · next d hd =>
    obtain ⟨hwidth, hd'⟩ := Option.ite_none_right_eq_some.1 h
    obtain rfl := Option.some.inj hd'
    rcases bytes with _ | ⟨b, rest⟩
    · exact absurd hwidth (Nat.ne_of_gt (Text.width_pos d))
    have hb : (b :: rest).toArray[0]? = some b := rfl
    by_cases hascii : b.toNat < 128
    · obtain rfl := Option.some.inj (hd.symm.trans (Text.decodeAt_of_byte hb hascii))
      rw [Text.width, Text.toNat_charOfNat (Text.isValidChar_toNat b),
        if_pos (Nat.le_of_lt_succ hascii)] at hwidth
      obtain rfl : rest = [] := List.length_eq_zero_iff.1 (Nat.succ.inj hwidth).symm
      rw [Text.toNat_charOfNat (Text.isValidChar_toNat b)]
      exact takes_byte bs b
    · have hhigh := Text.le_toNat_of_decodeAt hd hb (Nat.not_lt.1 hascii)
      exact takes_high hbs (Nat.not_lt.1 hascii) fun n hn hsame => by omega
  · cases h

/-- What is one symbol of a set takes its members. -/
theorem OneSymbol.takes (hbs : AllAscii bs) (h : OneSymbol a r s) :
    Takes bs (s.contains · = true) r := by
  cases h with
  | set | ascii => exact takes_oneOf hbs _ _
  | character h => simpa only [contains_single] using takes_of_literalChar? hbs h
  | byte b => simpa only [contains_single] using takes_byte bs b

/-- **Alternatives that are made one set** end in the same as it. -/
theorem sameEnds_asOneSet? (hbs : AllAscii bs) (hproper : ∀ r ∈ rs, r.Proper)
    (hadvancing : ∀ r ∈ rs, r.Advancing) (h : asOneSet? rs = some r) :
    SameEnds bs r (.alternation rs) := by
  obtain ⟨a, reading, s, hreads, hs, rfl⟩ := exists_of_asOneSet? h
  have hvalid : s.Proper a :=
    proper_unionOf? hs fun q hq t ht => (hreads q t ht).valid (hproper q hq)
  intro pos hpos
  have hset : ∀ q, q ∈ ends bs (ofSet a s) pos ↔
      q = pos + 1 ∧ ∃ b, bs[pos]? = some b ∧ s.contains b.toNat = true := fun q =>
    (takes_ofSet hbs hvalid.valid).mem_ends (advancing_ofSet a s) hpos
  have hone : ∀ r ∈ rs, ∀ t, reading r = some t → ∀ q, q ∈ ends bs r pos ↔
      q = pos + 1 ∧ ∃ b, bs[pos]? = some b ∧ t.contains b.toNat = true := fun r hr t ht q =>
    ((hreads r t ht).takes hbs).mem_ends (hadvancing r hr) hpos
  have hany : ∀ q, q ∈ ends bs (.alternation rs) pos ↔
      q = pos + 1 ∧ ∃ b, bs[pos]? = some b ∧ s.contains b.toNat = true := by
    intro q
    refine mem_endsAny.trans ⟨?_, ?_⟩
    · rintro ⟨r, hr, hq⟩
      obtain ⟨t, ht⟩ := exists_reading hs hr
      obtain ⟨rfl, b, hb, hmem⟩ := (hone r hr t ht q).1 hq
      exact ⟨rfl, b, hb, (contains_unionOf? hs).2 ⟨r, hr, t, ht, hmem⟩⟩
    · rintro ⟨rfl, b, hb, hmem⟩
      obtain ⟨r, hr, t, ht, hmem⟩ := (contains_unionOf? hs).1 hmem
      exact ⟨r, hr, (hone r hr t ht (pos + 1)).2 ⟨rfl, b, hb, hmem⟩⟩
  exact .of_single (fun q hq => ((hset q).1 hq).1) (fun q hq => ((hany q).1 hq).1)
    ((hset _).trans (hany _).symm)

end Multiscan.Regex
