import Multiscan.Pattern
import Multiscan.Proofs.Regex.Flat
/-!
# Regex — flags at the start of a pattern

A flag list holds for what follows it in its group, alternatives included. So what
is led by a flag list means what it means without, under the setting behind the list
(`meaning_of_led`), and a flag at the start of a pattern does what the setting can do
for all of it (`parse_of_leadingFlag`).
-/

namespace Multiscan

open Syntax

namespace Syntax.Tree

variable {lead t t' : Tree}

/-- What is replaced behind a tree is what is replaced without it. -/
theorem Led.toAscii (h : Led lead t t') : Led lead.toAscii t.toAscii t'.toAscii := by
  have hbare {t t' : Tree} (h : t'.bare = t.bare) : t'.toAscii.bare = t.toAscii.bare := by
    rw [bare_toAscii, h, bare_toAscii]
  have hall {ts ts' : List Tree} (h : ts'.map bare = ts.map bare) :
      (allToAscii ts').map bare = (allToAscii ts).map bare := by
    rw [← allBare_eq_map, allBare_toAscii, allBare_eq_map, h, ← allBare_eq_map, ← allBare_toAscii,
      allBare_eq_map]
  induction h with
  | alone s => exact .alone s
  | before s h => exact .before s (hbare h)
  | front s s' h => exact .front s s' (hall h)
  | first s s' _ hrest ih => exact .first s s' ih (hall hrest)

end Syntax.Tree

namespace Regex

variable {f : Setting} {t t' : Tree}

/-- **What is led by a flag list** means what it means without, under the setting
behind the list. -/
theorem meaning_of_led {s fs : Span} {items : List FlagItem}
    (h : Tree.Led (.flags s fs items) t t') : meaning f t' = meaning (f.withFlags items) t := by
  have hcons (ts : List Tree) : meanings f (.flags s fs items :: ts) =
      (meanings (f.withFlags items) ts).map fun m => (.empty :: m.1, m.2) := by
    rw [meanings_cons]
    rfl
  induction h with
  | alone => rfl
  | before _ h =>
    rw [meaning_concat, hcons, meanings_cons, meaning_congr h]
    rcases hm : meaning (f.withFlags items) _ with _ | ⟨r, f'⟩
    · rfl
    · have hr : ofConcat [.empty, r] = r :=
        (ofConcat_empty_cons [r]).trans (ofConcat_singleton (flat_of_meaning _ hm))
      exact congrArg (fun q => some (q, f')) hr
  | front _ _ h =>
    rw [meaning_concat, meaning_concat, hcons, meanings_congr h, Option.map_map]
    simp only [Function.comp_def, ofConcat_empty_cons]
  | first _ _ _ hrest ih =>
    rw [meaning_alternation, meaning_alternation, meanings_cons, meanings_cons, ih]
    simp only [meanings_congr hrest]

end Regex

namespace Pattern

open Regex

variable {x : Char} {f : InlineFlag} {pattern : List Char} {word word' : UInt32}

/-- A flag at the start is spelled as it stands. -/
theorem spelled_leadingFlag (hx : inlineFlag? x = some f) (pattern : List Char) (word : UInt32) :
    spelled ('(' :: '?' :: x :: ')' :: pattern) word =
      '(' :: '?' :: x :: ')' :: spelled pattern word := by
  unfold spelled
  split
  · rfl
  · unfold inlineFlag? at hx
    split at hx <;> cases hx <;> rfl

/-- **A flag at the start of a pattern** makes the expression that the setting with
this flag makes of the pattern without it. -/
theorem parse_of_leadingFlag {r r' : Regex} (hx : inlineFlag? x = some f) (hf : f ≠ .verbose)
    (hsetting : ∀ s, setting word = (setting word').withFlags [⟨s, .flag f⟩])
    (hutf8 : FlagWord.has word .utf8 = FlagWord.has word' .utf8)
    (hucp : FlagWord.has word .ucp = FlagWord.has word' .ucp) (h : parse pattern word = .ok r)
    (h' : parse ('(' :: '?' :: x :: ')' :: pattern) word' = .ok r') : r' = r := by
  obtain ⟨t, ht, h⟩ := bind_eq_ok.1 h
  obtain ⟨⟨q, f₁⟩, hq, h⟩ := bind_eq_ok.1 h
  obtain ⟨t', ht', h'⟩ := bind_eq_ok.1 h'
  obtain ⟨⟨q', f₂⟩, hq', h'⟩ := bind_eq_ok.1 h'
  cases h
  cases h'
  have hspelled : spelled pattern word' = spelled pattern word := by
    rw [spelled, spelled, hutf8]
  rw [spelled_leadingFlag hx, hspelled] at ht'
  have hled : Tree.Led (leadingFlag f) (adapted t word) (adapted t' word') := by
    have hled := led_ofPattern? hx hf ht ht'
    rw [adapted, adapted, hutf8, hucp]
    split
    · exact hled.toAscii
    · exact hled
  have hsame := meaning_of_led (f := setting word') hled
  rw [← hsetting, meaning, meaning, hq, hq'] at hsame
  exact congrArg Prod.fst (Option.some.inj hsame)

end Pattern

end Multiscan
