import Multiscan.Builtin.Builder
/-!
# Built-in engine — an estimate in place of a builder

Matches are found on expressions themselves, so the engine runs without a
builder of automata. What is left of one is the refusal of expressions that
would take too much room, and for that the estimate stands in: 32 bytes for
every state and 8 for every transition on a range of bytes, repetitions written
out, and a fixed part. An expression that is one short literal needs no
automaton. What is said of the engine is said for every builder.
-/

namespace Multiscan.Builtin

open Regex (Alphabet SymbolSet)

namespace Estimate

/-- The room that a symbol set takes. A set that reaches beyond ASCII takes
an automaton of its own over the bytes of its characters. -/
def setRoom (a : Alphabet) (s : SymbolSet) : Nat :=
  if a = .byte || s.isAscii then 64 + 8 * s.intervals.length
  else 320 + 32 * s.intervals.length

mutual

/-- The room that an expression takes. -/
def room : Regex → Nat
  | .empty => 32
  | .literal bytes => 32 * bytes.length
  | .oneOf a s => setRoom a s
  | .look _ => 32
  | .repetition min max _ sub =>
    match max with
    | none => Nat.max min 1 * room sub + 40
    | some m => m * room sub + (m - min) * 40 + 32
  | .capture _ _ sub => room sub + 64
  | .concat parts => totalRoom parts
  | .alternation alts => totalRoom alts + 8 * alts.length + 64

/-- The room that several expressions take. -/
def totalRoom : List Regex → Nat
  | [] => 0
  | r :: rs => room r + totalRoom rs

end

/-- The room that an expression takes with the fixed part. -/
def footprint (r : Regex) : Nat := room r + 208

/-- Whether an expression is one short literal. -/
def isShort : Regex → Bool
  | .literal bytes => decide (bytes.length ≤ 100)
  | _ => false

/-- The limit that an expression exceeds, if it exceeds one. -/
def exceeded? (limit : Option Nat) (r : Regex) : Option Nat :=
  limit.filter fun n => !isShort r && decide (n < footprint r)

end Estimate

/-- The estimate in the place of a builder. -/
def Builder.estimate : Builder where
  failure? limit _ r := (Estimate.exceeded? limit r).map .tooLarge
  share _ r := Estimate.footprint r
  limit_of_tooLarge h := by
    obtain ⟨n, hn, heq⟩ := Option.map_eq_some_iff.1 h
    obtain rfl := BuildFailure.tooLarge.inj heq
    exact (Option.filter_eq_some_iff.1 hn).1

/-- The estimate refuses nothing without a limit. -/
theorem Builder.buildsLiterals_estimate : estimate.BuildsLiterals := fun _ _ => rfl

/-- The engine is made of the estimate and the default limit unless it is said
otherwise. -/
def Setup.standard : Setup := ⟨.estimate, some defaultLimit⟩

/-- The engine is made of the estimate and no limit is set. -/
def Setup.unlimited : Setup := ⟨.estimate, none⟩

/-- A limit alone is one for the estimate. -/
instance : Coe (Option Nat) Setup := ⟨Setup.mk .estimate⟩

end Multiscan.Builtin
