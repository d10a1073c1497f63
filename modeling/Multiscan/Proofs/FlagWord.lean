import Multiscan.Pattern
/-!
# Sets of flags as words of bits — what a word says

The word of a set has the bits of its flags and no others, whichever variant it
is for. So what is read from a word depends on the set alone (`has_encode`), and
a pattern means the same to both variants (`parse_congr`).
-/

namespace Multiscan

/-- The bit of a flag that reaches a variant. -/
theorem Flag.bits?_eq_some {f : Flag} {v : Variant} {bits : UInt32}
    (h : f.bits? v = some bits) : bits = f.bit := by
  rw [Flag.bits?] at h
  split at h
  · next hf =>
    obtain rfl := Option.some.inj h
    rw [hf]
    rfl
  · split at h
    · exact nomatch h
    · exact (Option.some.inj h).symm

/-- Flags that reach engines have bits of their own. -/
theorem Flag.has_bit {f : Flag} (g : Flag) (hf : f ≠ .extractMatched) :
    FlagWord.has g.bit f = (g == f) := by
  cases f
  case extractMatched => exact absurd rfl hf
  all_goals cases g <;> rfl

namespace FlagWord

theorem or_and (v w m : UInt32) : (v ||| w) &&& m = (v &&& m) ||| (w &&& m) := by
  apply UInt32.toNat_inj.1
  rw [UInt32.toNat_and, UInt32.toNat_or, UInt32.toNat_or, UInt32.toNat_and, UInt32.toNat_and,
    Nat.and_or_distrib_right]

theorem has_or (v w : UInt32) (f : Flag) : has (v ||| w) f = (has v f || has w f) := by
  rw [Bool.eq_iff_iff, Bool.or_eq_true, has, has, has, or_and, bne_iff_ne, bne_iff_ne, bne_iff_ne,
    Ne, UInt32.or_eq_zero_iff, Decidable.not_and_iff_or_not]

end FlagWord

namespace FlagSet

theorem has_packList {v : Variant} {fs : List Flag} {word : UInt32}
    (h : packList v fs = .ok word) {f : Flag} (hf : f ≠ .extractMatched) :
    FlagWord.has word f = fs.contains f := by
  induction fs generalizing word with
  | nil =>
    obtain rfl := Except.ok.inj h
    cases f <;> rfl
  | cons g fs ih =>
    rw [packList] at h
    split at h
    · exact nomatch h
    · next bits hbits =>
      rcases hrest : packList v fs with e | rest
      · rw [hrest] at h
        exact nomatch h
      · rw [hrest] at h
        obtain rfl := Except.ok.inj h
        rw [Flag.bits?_eq_some hbits, FlagWord.has_or, Flag.has_bit g hf, ih hrest,
          List.contains_cons, Bool.beq_comm]

/-- **A word says which flags are in the set** that it was packed from. -/
theorem has_encode {s : FlagSet} {v : Variant} {word : UInt32} (h : s.encode v = .ok word)
    {f : Flag} (hf : f ≠ .extractMatched) : FlagWord.has word f = s.contains f := by
  rw [encode] at h
  split at h
  · next hpack =>
    obtain rfl := Except.ok.inj h
    rw [has_packList hpack hf, Bool.eq_iff_iff, List.contains_iff_mem, mem_toList]
  · exact nomatch h

/-- The bits of a flag that reaches a variant are known to it. -/
theorem bits?_known {f : Flag} {v : Variant} : ∀ bits ∈ f.bits? v, bits &&& ~~~v.knownBits = 0 := by
  intro bits hbits
  rw [Flag.bits?_eq_some hbits]
  cases f <;> cases v <;> first | rfl | cases hbits

/-- **Flags that reach a variant have a word** there, with no bits but known
ones. -/
theorem encode_of_known {s : FlagSet} {v : Variant}
    (h : ∀ f, s.contains f = true → (f.bits? v).isSome = true) :
    ∃ word, s.encode v = .ok word ∧ word &&& ~~~v.knownBits = 0 := by
  have hpack : ∀ fs : List Flag, (∀ f ∈ fs, (f.bits? v).isSome = true) →
      ∃ word, packList v fs = .ok word ∧ word &&& ~~~v.knownBits = 0 := by
    intro fs
    induction fs with
    | nil => exact fun _ => ⟨0, rfl, UInt32.zero_and⟩
    | cons f fs ih =>
      intro hfs
      obtain ⟨hf, hfs⟩ := List.forall_mem_cons.1 hfs
      obtain ⟨bits, hbits⟩ := Option.isSome_iff_exists.1 hf
      obtain ⟨word, hword, hknown⟩ := ih hfs
      refine ⟨bits ||| word, ?_, ?_⟩
      · rw [packList, hbits]
        dsimp only
        rw [hword]
        rfl
      · rw [FlagWord.or_and, bits?_known bits hbits, hknown]
        rfl
  obtain ⟨word, hword, hknown⟩ := hpack s.toList fun f hf => h f (mem_toList.1 hf)
  exact ⟨word, by rw [encode, hword], hknown⟩

end FlagSet

/-- **A pattern means the same** under words that agree on the flags for
reading patterns. -/
theorem Pattern.parse_congr {word word' : UInt32} (pattern : List Char)
    (h : ∀ f ∈ [Flag.caseless, .multiLine, .dotAll, .utf8, .ucp],
      FlagWord.has word f = FlagWord.has word' f) :
    Pattern.parse pattern word = Pattern.parse pattern word' := by
  simp only [List.forall_mem_cons, List.not_mem_nil, false_imp_iff, implies_true, and_true] at h
  obtain ⟨hcaseless, hmultiLine, hdotAll, hutf8, hucp⟩ := h
  have hsetting : setting word = setting word' := by
    rw [setting, setting, hcaseless, hmultiLine, hdotAll, hutf8]
  have hspelled : spelled pattern word = spelled pattern word' := by
    rw [spelled, spelled, hutf8]
  have hadapted : ∀ t, adapted t word = adapted t word' := by
    intro t
    rw [adapted, adapted, hutf8, hucp]
  rw [parse, parse, hsetting, hspelled]
  exact bind_congr fun t => by rw [hadapted t]

end Multiscan
