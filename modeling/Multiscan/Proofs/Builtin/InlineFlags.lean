import Multiscan.Proofs.Builtin.Encodings
import Multiscan.Proofs.Regex.LeadingFlags
/-!
# Built-in engine — flags inside a pattern

Three of the flags of an expression can be set with a letter in its pattern as well.
At the start of the pattern the letter holds for all of it, so it does not matter
whether such a flag is given with the expression or as a letter
(`inline_flags_agree`).
-/

namespace Multiscan

open Engine Builtin Regex Syntax
open Text (bytesOf)

/-- The letter by which a flag is set inside a pattern, with what it sets there. -/
def Flag.letter? : Flag → Option (Char × InlineFlag)
  | .caseless => some ('i', .caseless)
  | .dotAll => some ('s', .dotAll)
  | .multiLine => some ('m', .multiLine)
  | _ => none

namespace Expression

/-- The expression with one more flag. -/
def withFlag (e : Expression) (f : Flag) : Expression := { e with flags := e.flags.insert f }

/-- The expression with a letter set at the start of its pattern. -/
def withLetter (e : Expression) (x : Char) : Expression :=
  { e with pattern := "(?" ++ String.singleton x ++ ")" ++ e.pattern }

theorem toList_withLetter (e : Expression) (x : Char) :
    (e.withLetter x).pattern.toList = '(' :: '?' :: x :: ')' :: e.pattern.toList := by
  simp [withLetter, String.toList_append]

end Expression

namespace Builtin

variable {setup setup' : Setup} {groups groups' : Bool} {e : Expression} {f : Flag}
variable {x : Char} {inline : InlineFlag} {w w' : World Heap}

theorem inlineFlag?_of_letter? (h : f.letter? = some (x, inline)) :
    inlineFlag? x = some inline ∧ inline ≠ .verbose := by
  cases f <;> cases h <;> decide

/-- Whether a flag without a letter is given does not depend on one with a letter. -/
theorem contains_withFlag (h : f.letter? = some (x, inline)) {g : Flag} (hg : g.letter? = none) :
    (e.withFlag f).flags.contains g = e.flags.contains g := by
  have hne : (g == f) = false := by
    refine beq_eq_false_iff_ne.2 fun heq => ?_
    rw [heq, h] at hg
    cases hg
  rw [Expression.withFlag, FlagSet.contains_insert, hne, Bool.false_or]

/-- A flag among those of a word does what its letter does. -/
theorem setting_withFlag {word word' : UInt32} (h : f.letter? = some (x, inline))
    (hword : (e.withFlag f).flags.encode .extended = .ok word)
    (hword' : e.flags.encode .extended = .ok word') (s : Span) :
    Pattern.setting word = (Pattern.setting word').withFlags [⟨s, .flag inline⟩] := by
  have hhas {g : Flag} (hg : g ≠ .extractMatched) :
      FlagWord.has word g = (g == f || FlagWord.has word' g) := by
    rw [FlagSet.has_encode hword hg, FlagSet.has_encode hword' hg]
    rfl
  simp only [Pattern.setting, Setting.withFlags, hhas, ne_eq, reduceCtorEq, not_false_eq_true]
  cases f <;> cases h <;> simp [flagState, flagState.go]

/-- **A flag and its letter compile to the same.** -/
theorem compiled_eq_of_letter {j j' : Job} {p p' : Compiled} (h : f.letter? = some (x, inline))
    (hjob : Database.job 0 (e.withFlag f) = .ok j) (hp : (sourceOf j).Compiles setup p)
    (hjob' : Database.job 0 (e.withLetter x) = .ok j') (hp' : (sourceOf j').Compiles setup' p') :
    p' = p := by
  obtain ⟨word, hword, hparse, hwhole, hsingle⟩ := parse_of_job hjob hp
  obtain ⟨word', hword', hparse', hwhole', hsingle'⟩ := parse_of_job hjob' hp'
  obtain ⟨hx, hinline⟩ := inlineFlag?_of_letter? h
  have hhas {g : Flag} (hg : g.letter? = none) (hreaches : g ≠ .extractMatched) :
      FlagWord.has word g = FlagWord.has word' g := by
    rw [FlagSet.has_encode hword hreaches, FlagSet.has_encode hword' hreaches,
      contains_withFlag h hg]
    rfl
  rw [Expression.toList_withLetter] at hparse'
  have hregex : p'.regex = p.regex :=
    Pattern.parse_of_leadingFlag hx hinline (setting_withFlag h hword hword')
      (hhas rfl (by decide)) (hhas rfl (by decide)) hparse hparse'
  have hid : p'.id = p.id := by
    rw [hp.id, hp'.id]
    exact (id_of_job hjob').trans (id_of_job hjob).symm
  rw [contains_withFlag h rfl] at hwhole hsingle
  rcases p with ⟨id, single, whole, r⟩
  rcases p' with ⟨id', single', whole', r'⟩
  simp only [Compiled.mk.injEq]
  exact ⟨hid, hsingle'.trans hsingle.symm, hwhole'.trans hwhole.symm, hregex⟩

/-- **A flag may be set inside a pattern.** Take an expression under any flags, and
one of the flags that have a letter. If the expression compiles with the flag, and
compiles with the letter at the start of its pattern, then a scan of any text comes
to the same with both, whatever the engines have given out before: the same matches
in the same order, with the same offsets and texts, unless the text is too long for
either. -/
theorem inline_flags_agree {d d' : Database} {u u' : World Heap}
    (h : f.letter? = some (x, inline))
    (hcompile : (Database.compile (engine setup) groups [e.withFlag f]).attempt w = (.ok d, u))
    (hcompile' :
      (Database.compile (engine setup') groups' [e.withLetter x]).attempt w' = (.ok d', u'))
    (text : String) (v v' : World Heap) :
    seen (engine setup) groups (e.withFlag f) text v =
        seen (engine setup') groups' (e.withLetter x) text v' ∧
      ((bytesOf text).size < UInt32.size →
        ∃ found, seen (engine setup) groups (e.withFlag f) text v = .ok found) := by
  obtain ⟨j, p, hjob, hp⟩ := exists_compiled hcompile
  obtain ⟨j', p', hjob', hp'⟩ := exists_compiled hcompile'
  obtain rfl := compiled_eq_of_letter h hjob hp hjob' hp'
  have hshown : foundAt (e.withLetter x) text = foundAt (e.withFlag f) text := by
    funext ev
    rw [foundAt, foundAt, contains_withFlag h rfl]
    rfl
  refine ⟨?_, fun hsize => ?_⟩
  · rw [seen_eq hjob hp, seen_eq hjob' hp', hshown]
  · exact ⟨_, (seen_eq hjob hp groups text v).trans (if_neg (Nat.not_le.2 hsize))⟩

/-- A letter, or a capital with a letter behind it whose case counts. -/
def letterOrCapital : Expression := ⟨"a|B(?-i)c", .ofList [.utf8, .extractMatched], none⟩

theorem inline_flags_agree_of_caseless :
    seen (engine .unlimited) false (letterOrCapital.withFlag .caseless) "xAbc" world =
        seen (engine .unlimited) false (letterOrCapital.withLetter 'i') "xAbc" world ∧
      ∃ found,
        seen (engine .unlimited) false (letterOrCapital.withFlag .caseless) "xAbc" world =
          .ok found := by
  have hcompiled : ((Database.compile (engine .unlimited) false [letterOrCapital.withFlag
      .caseless]).attempt world).1.toOption.isSome = true := by decide +kernel
  have hcompiled' : ((Database.compile (engine .unlimited) false [letterOrCapital.withLetter
      'i']).attempt world).1.toOption.isSome = true := by decide +kernel
  obtain ⟨d, hd⟩ := Option.isSome_iff_exists.1 hcompiled
  obtain ⟨d', hd'⟩ := Option.isSome_iff_exists.1 hcompiled'
  obtain ⟨u, hcompile⟩ := exists_of_toOption hd
  obtain ⟨u', hcompile'⟩ := exists_of_toOption hd'
  obtain ⟨hsame, hfound⟩ := inline_flags_agree rfl hcompile hcompile' "xAbc" world world
  exact ⟨hsame, hfound (by decide +kernel)⟩

end Builtin

end Multiscan
