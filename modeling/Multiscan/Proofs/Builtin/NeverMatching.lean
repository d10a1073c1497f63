import Multiscan.Proofs.Builtin.Encodings
import Multiscan.Proofs.Builtin.Verdicts
/-!
# Built-in engine — expressions that never match

The base variant refuses an expression without a least length, saying that it can
never match. An empty class takes the least length from whatever it stands in, be
it optional or one of several alternatives. So what is refused may match around the
empty class (`refused_of_optional`). It finds nothing if its empty classes cannot be
got around (`never_matching_finds_nothing`).
-/

namespace Multiscan

open Regex Engine
open Text (Bytes bytesOf)

namespace Regex

variable {bs : Bytes} {i j : Nat}

mutual

/-- There is no way around what has no least length: none of it is optional, and
none has an alternative that has one. -/
def Unavoidable : Regex → Prop
  | .empty => True
  | .literal _ => True
  | .oneOf _ _ => True
  | .look _ => True
  | .repetition min _ _ sub => (sub.minLen? = none → 0 < min) ∧ sub.Unavoidable
  | .capture _ _ sub => sub.Unavoidable
  | .concat parts => AllUnavoidable parts
  | .alternation alts =>
    (leastLen? alts = none → ∀ alt ∈ alts, alt.minLen? = none) ∧ AllUnavoidable alts

def AllUnavoidable : List Regex → Prop
  | [] => True
  | r :: rs => r.Unavoidable ∧ AllUnavoidable rs

end

/-- A set without a least length holds nothing. -/
theorem symbolAt?_of_setMinLen? {a : Alphabet} {s : SymbolSet} (hs : setMinLen? a s = none) :
    symbolAt? bs i a s = none := by
  obtain rfl : s = ⟨[]⟩ := by
    rcases s with ⟨_ | ⟨r, rest⟩⟩
    · rfl
    · cases a with
      | byte => cases hs
      | character => cases hs
  have hempty : ∀ n, (⟨[]⟩ : SymbolSet).contains n = false := fun _ => rfl
  unfold symbolAt?
  simp only [hempty, Bool.false_eq_true, if_false]
  cases a with
  | byte => cases bs[i]? <;> rfl
  | character => cases Text.decodeAt bs i <;> rfl

/-- A concatenation without a least length has it from its first part or from the
others. -/
theorem concatMinLen?_eq_none {r : Regex} {rs : List Regex} (h : concatMinLen? (r :: rs) = none) :
    r.minLen? = none ∨ concatMinLen? rs = none := by
  rcases hr : r.minLen? with _ | m
  · exact .inl rfl
  rcases hrs : concatMinLen? rs with _ | n
  · exact .inr rfl
  · rw [concatMinLen?, hr, hrs] at h
    cases h

mutual

/-- **What has no least length matches nothing** if there is no way around. -/
theorem not_matches : (r : Regex) → r.Unavoidable → r.minLen? = none →
    ∀ {i j : Nat}, ¬ Matches bs r i j
  | .empty, _, h, _, _, _ => nomatch h
  | .literal _, _, h, _, _, _ => nomatch h
  | .oneOf a s, _, h, i, j, hm => by
    rw [Matches, symbolAt?_of_setMinLen? h] at hm
    cases hm
  | .look _, _, h, _, _, _ => nomatch h
  | .repetition min max greedy sub, hr, h, i, j, hm => by
    have hsub : sub.minLen? = none := Option.map_eq_none_iff.1 h
    obtain ⟨more, -, htimes⟩ := hm
    obtain ⟨k, hk⟩ : ∃ k, min + more = k + 1 :=
      Nat.exists_eq_succ_of_ne_zero (by have := hr.1 hsub; omega)
    rw [hk] at htimes
    obtain ⟨l, hfirst, -⟩ := htimes
    exact not_matches sub hr.2 hsub hfirst
  | .capture _ _ sub, hr, h, i, j, hm => not_matches sub hr h hm
  | .concat parts, hr, h, i, j, hm => not_matchesAll parts hr h hm
  | .alternation alts, hr, h, i, j, hm => not_matchesAny alts hr.2 (hr.1 h) hm

theorem not_matchesAll : (rs : List Regex) → AllUnavoidable rs → concatMinLen? rs = none →
    ∀ {i j : Nat}, ¬ MatchesAll bs rs i j
  | r :: rs, hrs, h, i, j, ⟨k, hfirst, hrest⟩ => by
    rcases concatMinLen?_eq_none h with hnone | hnone
    · exact not_matches r hrs.1 hnone hfirst
    · exact not_matchesAll rs hrs.2 hnone hrest

theorem not_matchesAny : (rs : List Regex) → AllUnavoidable rs → (∀ r ∈ rs, r.minLen? = none) →
    ∀ {i j : Nat}, ¬ MatchesAny bs rs i j
  | r :: _, hrs, hall, _, _, .inl h => not_matches r hrs.1 (hall r List.mem_cons_self) h
  | r :: rs, hrs, hall, _, _, .inr h =>
    not_matchesAny rs hrs.2 (fun q hq => hall q (List.mem_cons_of_mem r hq)) h

end

end Regex

namespace Builtin

variable {setup setup' : Setup} {groups : Bool} {e : Expression} {p : Compiled}
variable {w w' : World Heap}

/-! ## Refusals -/

/-- What compiles could be given to an engine. -/
theorem presentable_of_job {k : Nat} {j : Job} (h : Database.job k e = .ok j) : e.Presentable := by
  rcases e.presentable_or_unfit with he | ⟨reason, hunfit⟩
  · exact he
  · rw [Database.job_of_unfit hunfit] at h
    cases h

/-- Of what can be read, what is said never to match is what has no least length. -/
theorem judgeBase_never_iff {r : Regex} (he : e.Presentable)
    (h : Pattern.parse e.pattern.toList e.word = .ok r) (w : World Heap) :
    (e.judgeBase (engine setup) w).1 = some "Pattern can never match." ↔ r.minLen? = none := by
  rw [judgeBase_apply he, analyze_of_parse he, h]
  simp only [survey, Pattern.extent?]
  rcases r.minLen? with _ | n
  · exact iff_of_true rfl rfl
  · refine iff_of_false (fun hsaid => ?_) (Option.some_ne_none n)
    dsimp only [Option.map_some] at hsaid
    split at hsaid
    · exact absurd (Option.some.inj hsaid) (by decide)
    · cases hsaid

/-- **What is optional is refused as never matching** if what it is an option of has
no least length, though it matches the empty stretch everywhere. -/
theorem refused_of_optional {sub : Regex} {max : Option Nat} {greedy : Bool} (he : e.Presentable)
    (h : Pattern.parse e.pattern.toList e.word = .ok (.repetition 0 max greedy sub))
    (hsub : sub.minLen? = none) (w : World Heap) :
    (e.judgeBase (engine setup) w).1 = some "Pattern can never match." ∧
      ∀ (data : Bytes) (i : Nat), Matches data (.repetition 0 max greedy sub) i i :=
  ⟨(judgeBase_never_iff he h w).2 (Option.map_eq_none_iff.2 hsub),
    fun _ _ => ⟨0, fun _ _ => Nat.zero_le _, rfl⟩⟩

/-- An expression without matches has no events. -/
theorem orderedEvents_of_not_matches {data : Text.Bytes}
    (h : ∀ i j, ¬ Matches data p.regex i j) : orderedEvents [p] data = [] := by
  have hnone : p.matches data = [] :=
    List.eq_nil_iff_forall_not_mem.2 fun m hm => h _ _ (matches_of_mem_findAll (p.mem_findAll hm))
  have hperm := orderedEvents_perm [p] data
  rw [List.flatMap_singleton, p.events_eq, hnone, List.map_nil] at hperm
  exact hperm.eq_nil

/-- **What is refused as never matching finds nothing**, if its empty classes cannot
be got around: an expression of which the base variant says so, but which compiles,
has no event in any text, whatever the engines have given out before. -/
theorem never_matching_finds_nothing {d : Database} {u : World Heap}
    (hrefused : (e.judgeBase (engine setup) w).1 = some "Pattern can never match.")
    (hcompile : (Database.compile (engine setup') groups [e]).attempt w' = (.ok d, u))
    (hway : ∀ word r, e.flags.encode .extended = .ok word →
      Pattern.parse e.pattern.toList word = .ok r → r.Unavoidable)
    (text : String) (v : World Heap) :
    seen (engine setup') groups e text v =
      if UInt32.size ≤ (bytesOf text).size then .error (Scanner.tooLong (bytesOf text).size)
      else .ok ([], []) := by
  obtain ⟨j, p, hjob, hp⟩ := exists_compiled hcompile
  obtain ⟨word, hword, hparse, -, -⟩ := parse_of_job hjob hp
  have he := presentable_of_job hjob
  obtain rfl := Except.ok.inj (hword.symm.trans (he.encode .extended))
  have hnone := (judgeBase_never_iff he hparse w).1 hrefused
  have hevents : orderedEvents [p] (bytesOf text) = [] :=
    orderedEvents_of_not_matches fun i j => not_matches p.regex (hway _ _ hword hparse) hnone
  rw [seen_eq hjob hp, hevents]
  rfl

/-- A letter, and behind it one or more of the bytes that there are not. -/
def letterThenNone : Expression := .ofPattern "a[^\\x00-\\xff]+" (.ofList [.dotAll])

theorem never_matching_finds_nothing_of_class :
    (letterThenNone.judgeBase (engine .unlimited) world).1 = some "Pattern can never match." ∧
      seen (engine .unlimited) false letterThenNone "aab" world = .ok ([], []) := by
  have he : letterThenNone.Presentable :=
    { nul := by decide
      flags := fun f => by cases f <;> decide }
  have hclass : foldThenNegate (Pattern.setting letterThenNone.word) true
      (.ofIntervals [(0x00, 0xFF)]) = .empty := by
    have hone (r : Nat × Nat) : SymbolSet.ofIntervals [r] = ⟨[r]⟩ := by
      rw [SymbolSet.ofIntervals, List.mergeSort_singleton]
      rfl
    have hcase : (Pattern.setting letterThenNone.word).caseless = false := by decide
    simp only [foldThenNegate, hcase, Bool.false_eq_true, if_false, if_true, SymbolSet.joined, hone]
    rfl
  have hparse : Pattern.parse letterThenNone.pattern.toList letterThenNone.word =
      .ok (.concat [.literal [0x61], .repetition 1 none true fail]) := by
    have hread : Pattern.parse letterThenNone.pattern.toList letterThenNone.word =
        .ok (ofConcat [.literal [0x61], ofRepetition 1 none true (ofSet .byte
          (foldThenNegate (Pattern.setting letterThenNone.word) true
            (.ofIntervals [(0x00, 0xFF)])))]) := rfl
    rw [hread, hclass]
    rfl
  have hrefused : (letterThenNone.judgeBase (engine .unlimited) world).1 =
    some "Pattern can never match." := (judgeBase_never_iff he hparse world).2 (by decide)
  have hcompiled : ∃ d, ((Database.compile (engine .unlimited) false [letterThenNone]).attempt
      world).1 = .ok d := by
    rw [compile_alone_iff he, verdict_of_parse he, hparse]
    exact ⟨_, rfl⟩
  have hway : ∀ word r, letterThenNone.flags.encode .extended = .ok word →
      Pattern.parse letterThenNone.pattern.toList word = .ok r → r.Unavoidable := by
    intro word r hword hr
    obtain rfl := Except.ok.inj ((he.encode .extended).symm.trans hword)
    obtain rfl := Except.ok.inj (hparse.symm.trans hr)
    exact ⟨trivial, ⟨fun _ => Nat.one_pos, trivial⟩, trivial⟩
  obtain ⟨d, hd⟩ := hcompiled
  have hsilent := never_matching_finds_nothing hrefused (Prod.ext hd rfl) hway "aab" world
  exact ⟨hrefused, hsilent.trans (if_neg (by decide +kernel))⟩

end Builtin

end Multiscan
