import Multiscan.Proofs.Regex.DefiniteFronts
/-!
# Regex — what is built to match nothing

Whether an expression can match the empty stretch is read off its form, and the form
changes as it is built: literals are joined, sets take the place of alternatives and
fronts come before them. What is built is `nullable` where what it is built from is.
So a repetition without bound takes bytes in every round as it is built, if it does as
it is written.
-/

namespace Multiscan.Regex

variable {r : Regex} {rs : List Regex}

/-! ## Sequences and repetitions -/

theorem allNullable_eq (rs : List Regex) : allNullable rs = rs.all nullable := by
  induction rs with
  | nil => rfl
  | cons r rs ih => rw [allNullable, ih, List.all_cons]

theorem anyNullable_eq (rs : List Regex) : anyNullable rs = rs.any nullable := by
  induction rs with
  | nil => rfl
  | cons r rs ih => rw [anyNullable, ih, List.any_cons]

theorem all_withLiteral (pending : List UInt8) (rs : List Regex) :
    (withLiteral pending rs).all nullable = (pending.isEmpty && rs.all nullable) := by
  cases pending <;> rfl

theorem all_joinLiterals (pending : List UInt8) (rs : List Regex) :
    (joinLiterals pending rs).all nullable = (pending.isEmpty && rs.all nullable) := by
  fun_induction joinLiterals pending rs with
  | case1 pending => exact all_withLiteral pending []
  | case2 pending bytes rest ih =>
    rw [ih, List.all_cons, nullable, ← Bool.and_assoc]
    cases pending <;> rfl
  | case3 pending rest ih => rw [ih, List.all_cons, nullable, Bool.true_and]
  | case4 pending r rest hliteral hempty ih =>
    rw [all_withLiteral, List.all_cons, ih, List.all_cons]
    rfl

/-- **A sequence** can match nothing if all of its parts can. -/
theorem nullable_ofConcat (rs : List Regex) : (ofConcat rs).nullable = rs.all nullable := by
  have hopen : (openConcats rs).all nullable = rs.all nullable := by
    rw [openConcats, List.all_flatMap]
    congr 1
    funext r
    split
    · exact (allNullable_eq _).symm
    · exact Bool.and_true _
  have hjoined := all_joinLiterals [] (openConcats rs)
  rw [hopen] at hjoined
  refine Eq.trans ?_ hjoined
  rw [ofConcat]
  split
  · next hnil => rw [hnil]; rfl
  · next r hone => rw [hone]; exact (Bool.and_true _).symm
  · exact allNullable_eq _

/-- **A repetition** can match nothing if it can be left out, or what is repeated can. -/
theorem nullable_ofRepetition (min : Nat) (max : Option Nat) (greedy : Bool) (r : Regex) :
    (ofRepetition min max greedy r).nullable = (min == 0 || r.nullable) := by
  have hbuilt : ∀ (min : Nat) (max : Option Nat),
      (if min = 0 ∧ max = some 0 then Regex.empty
        else if min = 1 ∧ max = some 1 then r else .repetition min max greedy r).nullable =
        (min == 0 || r.nullable) := by
    intro min max
    split
    · next hnone => rw [hnone.1]; rfl
    · split
      · next hone => rw [hone.1]; rfl
      · rfl
  by_cases hlen : r.maxLen? = some 0
  · rw [ofRepetition, if_pos hlen]
    refine (hbuilt _ _).trans ?_
    cases min with
    | zero => rfl
    | succ min => rw [show Nat.min (min + 1) 1 = 1 from Nat.min_eq_right (Nat.succ_pos min)]; rfl
  · rw [ofRepetition, if_neg hlen]
    exact hbuilt min max

theorem nullable_writtenRepetition (min : Nat) (max : Option Nat) (greedy : Bool) (r : Regex) :
    (writtenRepetition min max greedy r).nullable = (min == 0 || r.nullable) := by
  cases max with
  | some max => cases min <;> rfl
  | none => cases min <;> rfl

/-! ## Sets and alternatives -/

theorem nullable_ofSet (a : Alphabet) (s : SymbolSet) : (ofSet a s).nullable = false := by
  obtain ⟨-, hset⟩ | ⟨n, -, hset⟩ | hset := ofSet_cases a s
  · rw [hset]
    rfl
  · rw [hset]
    exact List.isEmpty_eq_false_iff.2 (symbolBytes_ne_nil a n)
  · rw [hset]
    rfl

theorem OneSymbol.nullable {a : Alphabet} {s : SymbolSet} (h : OneSymbol a r s) :
    r.nullable = false := by
  cases h with
  | set | ascii | byte => rfl
  | character h =>
    refine List.isEmpty_eq_false_iff.2 ?_
    rintro rfl
    cases h

/-- Single symbols cannot match nothing, nor can they as one set. -/
theorem nullable_asOneSet? (h : asOneSet? rs = some r) : r.nullable = rs.any nullable := by
  obtain ⟨a, reading, s, hreads, hs, rfl⟩ := exists_of_asOneSet? h
  rw [nullable_ofSet]
  refine (List.any_eq_false.2 fun q hq => ?_).symm
  obtain ⟨t, ht⟩ := exists_reading hs hq
  rw [(hreads q t ht).nullable]
  exact Bool.false_ne_true

theorem any_openAlternations (rs : List Regex) :
    (openAlternations rs).any nullable = rs.any nullable := by
  rw [openAlternations, List.any_flatMap]
  congr 1
  funext r
  split
  · exact (anyNullable_eq _).symm
  · exact Bool.or_false _

/-- What is left of sequences behind their front can match nothing where they can, if
the front can. -/
theorem any_sequences {front : List Regex} {pss : List (List Regex)} {n : Nat}
    (h : ∀ ps ∈ pss, front ++ ps.drop n = ps) :
    (pss.map Regex.concat).any nullable =
      (front.all nullable && (pss.map fun ps => ofConcat (ps.drop n)).any nullable) := by
  induction pss with
  | nil => exact (Bool.and_false _).symm
  | cons ps pss ih =>
    obtain ⟨hps, hrest⟩ := List.forall_mem_cons.1 h
    have hfirst : (Regex.concat ps).nullable =
        (front.all nullable && (ofConcat (ps.drop n)).nullable) := by
      rw [nullable, allNullable_eq, nullable_ofConcat, ← List.all_append, hps]
    rw [List.map_cons, List.any_cons, ih hrest, hfirst, List.map_cons, List.any_cons,
      Bool.and_or_distrib_left]

/-- **Alternatives** can match nothing if one of them can. -/
theorem nullable_factorAlternation (fuel : Nat) (rs : List Regex) :
    (factorAlternation fuel rs).nullable = rs.any nullable := by
  fun_induction factorAlternation fuel rs with
  | case1 fuel rs hnil =>
    rw [← any_openAlternations, hnil]
    rfl
  | case2 fuel rs r hone =>
    rw [← any_openAlternations, hone]
    exact (Bool.or_false _).symm
  | case3 fuel rs r hnil hone hset => rw [nullable_asOneSet? hset, any_openAlternations]
  | case4 => rw [nullable, anyNullable_eq, any_openAlternations]
  | case5 =>
    rename_i rs fuel first rest n hfold tails _ _ _ hparts ih
    rw [nullable_ofConcat, List.all_append, List.all_cons, ih, List.all_nil, Bool.and_true,
      ← any_openAlternations rs, eq_map_of_partsOf? hparts, any_sequences (front_append_drop hfold)]
  | case6 => rw [nullable, anyNullable_eq, any_openAlternations]

end Multiscan.Regex
