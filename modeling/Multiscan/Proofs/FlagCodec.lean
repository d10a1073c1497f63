import Mathlib.Data.Nat.Bitwise
import Multiscan.Proofs.FlagWord
/-!
# Sets of flags as words of bits — packing and unpacking

The word of a list of flags is the union of their bits, whichever variant it is
for. Cut down to the bits that a variant knows, any word is that of the flags read
from it (`ofList_isSet`). So packing and unpacking undo each other, each refuses
what the other cannot give, and both say what they refuse
(`words_and_sets_correspond`).
-/

namespace Multiscan

/-! ## Digits of a number -/

theorem Text.hexDigit?_digitChar {n : Nat} (h : n < 16) : hexDigit? n.digitChar = some n := by
  have all_digits : ∀ m : Fin 16, hexDigit? m.val.digitChar = some m.val := by decide
  exact all_digits ⟨n, h⟩

/-- **The digits of a number** read back as the number. -/
theorem Text.hexNumber_smallHex (n : Nat) : hexNumber (smallHex n).toList = n := by
  rw [smallHex, String.toList_ofList]
  induction n using Nat.strongRecOn with
  | ind n ih =>
    by_cases h : n < 16
    · rw [Nat.toDigits_of_lt_base h, hexNumber, List.foldl_cons, List.foldl_nil,
        hexDigit?_digitChar h, Option.getD_some]
      omega
    · have hrest := ih (n / 16) (by omega)
      rw [hexNumber] at hrest
      rw [Nat.toDigits_of_base_le (by decide) (by omega), hexNumber, List.foldl_append, hrest,
        List.foldl_cons, List.foldl_nil, hexDigit?_digitChar (by omega), Option.getD_some]
      omega

/-! ## Words as unions of bits -/

namespace FlagWord

theorem and_or (m v w : UInt32) : m &&& (v ||| w) = (m &&& v) ||| (m &&& w) := by
  rw [UInt32.and_comm, or_and, UInt32.and_comm v, UInt32.and_comm w]

theorem not_or (v w : UInt32) : ~~~(v ||| w) = ~~~v &&& ~~~w :=
  UInt32.toBitVec_inj.1 BitVec.not_or

theorem not_and (v w : UInt32) : ~~~(v &&& w) = ~~~v ||| ~~~w :=
  UInt32.toBitVec_inj.1 BitVec.not_and

/-- What is in a word is in a mask or outside of it. -/
theorem and_or_and_not (w m : UInt32) : (w &&& m) ||| (w &&& ~~~m) = w := by
  rw [← and_or, UInt32.or_not_self, UInt32.and_neg_one]

/-- The union of the bits of flags. -/
def ofList (fs : List Flag) : UInt32 := fs.foldr (fun f word => f.bit ||| word) 0

theorem ofList_cons (f : Flag) (fs : List Flag) : ofList (f :: fs) = f.bit ||| ofList fs := rfl

/-- A word has the whole bit of a flag or nothing of it. -/
theorem and_bit (w : UInt32) (f : Flag) : w &&& f.bit = if has w f then f.bit else 0 := by
  have hpow : f.bit.toNat = 0 ∨ f.bit.toNat = 2 ^ f.bit.toNat.log2 := by cases f <;> decide
  by_cases hhas : has w f = true
  · rw [if_pos hhas]
    rw [has, bne_iff_ne, ne_eq, ← UInt32.toNat_inj, UInt32.toNat_and] at hhas
    rw [← UInt32.toNat_inj, UInt32.toNat_and]
    obtain hzero | hpow := hpow
    · rw [hzero] at hhas
      exact absurd (Nat.and_zero _) hhas
    · rw [hpow, Nat.and_two_pow] at hhas ⊢
      cases hbit : w.toNat.testBit f.bit.toNat.log2
      · rw [hbit, Bool.toNat_false, Nat.zero_mul] at hhas
        exact absurd rfl hhas
      · rw [Bool.toNat_true, Nat.one_mul]
  · rw [if_neg hhas]
    rwa [has, bne_iff_ne, ne_eq, Decidable.not_not] at hhas

theorem ofList_filter_cons (p : Flag → Bool) (f : Flag) (fs : List Flag) :
    ofList ((f :: fs).filter p) = (if p f then f.bit else 0) ||| ofList (fs.filter p) := by
  rw [List.filter_cons]
  split
  · rfl
  · exact (UInt32.zero_or).symm

/-- What a word has of the bits of flags are the bits of those that it has. -/
theorem and_ofList (w : UInt32) (fs : List Flag) :
    w &&& ofList fs = ofList (fs.filter (has w)) := by
  induction fs with
  | nil => exact UInt32.and_zero
  | cons f fs ih => rw [ofList_cons, and_or, and_bit, ih, ofList_filter_cons]

/-- The bits of two selections of flags are those of their union. -/
theorem ofList_filter_or (p q : Flag → Bool) (fs : List Flag) :
    ofList (fs.filter fun f => p f || q f) = ofList (fs.filter p) ||| ofList (fs.filter q) := by
  induction fs with
  | nil => exact (UInt32.or_self).symm
  | cons f fs ih =>
    have hbit : (if p f || q f then f.bit else 0) =
        (if p f then f.bit else 0) ||| (if q f then f.bit else 0) := by
      cases p f <;> cases q f <;> simp
    rw [ofList_filter_cons, ofList_filter_cons, ofList_filter_cons, ih, hbit]
    ac_rfl

/-- Bits that are cleared one by one are those of the whole list. -/
theorem foldl_clear (fs : List Flag) (w : UInt32) :
    fs.foldl (fun rest f => rest &&& ~~~f.bit) w = w &&& ~~~ofList fs := by
  induction fs generalizing w with
  | nil => exact (UInt32.and_neg_one).symm
  | cons f fs ih => rw [List.foldl_cons, ih, ofList_cons, not_or, UInt32.and_assoc]

end FlagWord

/-! ## Flags that a variant takes -/

/-- A variant takes the flags whose bits it knows, and the one flag that reaches
no engine. -/
def Variant.Takes (v : Variant) (f : Flag) : Prop :=
  f = .extractMatched ∨ f.bit &&& v.knownBits ≠ 0

instance (v : Variant) (f : Flag) : Decidable (v.Takes f) :=
  inferInstanceAs (Decidable (_ ∨ _))

/-- The bits of a flag that a variant takes are its bit. -/
theorem Flag.bits?_eq (f : Flag) (v : Variant) :
    f.bits? v = if v.Takes f then some f.bit else none := by
  cases f <;> cases v <;> rfl

/-- The bits that a variant knows are those of the flags it takes. -/
theorem Variant.knownBits_eq (v : Variant) :
    v.knownBits = FlagWord.ofList (Flag.all.filter fun f => v.Takes f) := by
  cases v <;> rfl

namespace FlagSet

variable {v : Variant} {s t : FlagSet} {word : UInt32}

/-! ## Packing -/

theorem packList_of_takes {fs : List Flag} (h : ∀ f ∈ fs, v.Takes f) :
    packList v fs = .ok (FlagWord.ofList fs) := by
  induction fs with
  | nil => rfl
  | cons f fs ih =>
    obtain ⟨hf, hfs⟩ := List.forall_mem_cons.1 h
    rw [packList, Flag.bits?_eq, if_pos hf]
    dsimp only
    rw [ih hfs]
    rfl

/-- Packing stops at the first flag that the variant does not take. -/
theorem packList_of_not_takes {fs gs : List Flag} {f : Flag} (hfs : ∀ f ∈ fs, v.Takes f)
    (hf : ¬ v.Takes f) : packList v (fs ++ f :: gs) = .error f := by
  induction fs with
  | nil => rw [List.nil_append, packList, Flag.bits?_eq, if_neg hf]
  | cons g fs ih =>
    obtain ⟨hg, hfs⟩ := List.forall_mem_cons.1 hfs
    rw [List.cons_append, packList, Flag.bits?_eq, if_pos hg]
    dsimp only
    rw [ih hfs]
    rfl

/-- A set whose flags a variant takes all has the same word for each such
variant. -/
theorem encode_of_takes (h : ∀ f, s.contains f = true → v.Takes f) :
    s.encode v = .ok (FlagWord.ofList s.toList) := by
  rw [encode, packList_of_takes fun f hf => h f (mem_toList.1 hf)]

/-- The first flag of a set that a variant does not take is named. -/
theorem encode_of_first {before after : List Flag} {f : Flag}
    (hall : Flag.all = before ++ f :: after)
    (hbefore : ∀ g ∈ before, s.contains g = true → v.Takes g) (hs : s.contains f = true)
    (hf : ¬ v.Takes f) :
    s.encode v = .error (.invalid
      ("flag '" ++ f.name ++ "' is not supported by the " ++ v.name ++ " engine")) := by
  have hlist : s.toList = before.filter s.contains ++ f :: after.filter s.contains := by
    rw [toList, hall, List.filter_append, List.filter_cons_of_pos hs]
  have hpack : packList v s.toList = .error f := by
    rw [hlist]
    refine packList_of_not_takes (fun g hg => ?_) hf
    obtain ⟨hg, hs⟩ := List.mem_filter.1 hg
    exact hbefore g hg hs
  rw [encode, hpack]

/-- There is one if not all flags are taken. -/
theorem encode_of_not_takes (h : ¬ ∀ f, s.contains f = true → v.Takes f) :
    ∃ before f after, Flag.all = before ++ f :: after ∧
      (∀ g ∈ before, s.contains g = true → v.Takes g) ∧ s.contains f = true ∧ ¬ v.Takes f ∧
      s.encode v = .error (.invalid
        ("flag '" ++ f.name ++ "' is not supported by the " ++ v.name ++ " engine")) := by
  have hfind : ∃ f, Flag.all.find? (fun f => s.contains f && !decide (v.Takes f)) = some f := by
    simp only [not_forall] at h
    obtain ⟨f, hs, hf⟩ := h
    exact Option.isSome_iff_exists.1 (List.find?_isSome.2 ⟨f, Flag.mem_all f, by simp [hs, hf]⟩)
  obtain ⟨f, hfind⟩ := hfind
  obtain ⟨hf, before, after, hall, hbefore⟩ := List.find?_eq_some_iff_append.1 hfind
  obtain ⟨hs, hf⟩ := (Bool.and_eq_true _ _).mp hf
  have hf : ¬ v.Takes f := by simpa using hf
  have hbefore : ∀ g ∈ before, s.contains g = true → v.Takes g := by
    intro g hg hs
    simpa [hs] using hbefore g hg
  exact ⟨before, f, after, hall, hbefore, hs, hf, encode_of_first hall hbefore hs hf⟩

/-- A set that has a word for a variant has flags that it takes only. -/
theorem takes_of_encode (h : s.encode v = .ok word) : ∀ f, s.contains f = true → v.Takes f := by
  by_contra hnot
  obtain ⟨-, f, -, -, -, -, -, herror⟩ := encode_of_not_takes hnot
  exact nomatch herror.symm.trans h

/-- So the word is the union of their bits. -/
theorem encode_eq_ok : s.encode v = .ok word ↔
    (∀ f, s.contains f = true → v.Takes f) ∧ word = FlagWord.ofList s.toList := by
  constructor
  · intro h
    have htakes := takes_of_encode h
    exact ⟨htakes, Except.ok.inj (h.symm.trans (encode_of_takes htakes))⟩
  · rintro ⟨htakes, rfl⟩
    exact encode_of_takes htakes

/-! ## Unpacking -/

/-- A flag is read from a word if the variant takes it and the word has its
bit. -/
theorem isSet_eq (v : Variant) (word : UInt32) (f : Flag) :
    isSet v word f = (decide (v.Takes f) && FlagWord.has word f) := by
  rw [isSet, Flag.bits?_eq]
  by_cases hf : v.Takes f
  · rw [if_pos hf, decide_eq_true hf, Bool.true_and]
    dsimp only
    rw [FlagWord.and_bit]
    by_cases hhas : FlagWord.has word f = true
    · have hbit : f.bit ≠ 0 := by
        intro hzero
        rw [FlagWord.has, hzero, UInt32.and_zero] at hhas
        exact absurd hhas (by decide)
      simp [hhas, hbit]
    · rw [if_neg hhas, Bool.eq_false_iff.2 hhas]
      by_cases hzero : f.bit = 0
      · rw [hzero]
        rfl
      · rw [beq_eq_false_iff_ne.2 (Ne.symm hzero), Bool.and_false]
  · rw [if_neg hf, decide_eq_false hf, Bool.false_and]

/-- The flags read from a word have its known bits. -/
theorem ofList_isSet (v : Variant) (word : UInt32) :
    FlagWord.ofList (Flag.all.filter (isSet v word)) = word &&& v.knownBits := by
  rw [v.knownBits_eq, FlagWord.and_ofList, List.filter_filter]
  congr 1
  exact List.filter_congr fun f _ => (isSet_eq v word f).trans (Bool.and_comm _ _)

/-- The bits that no flag accounts for are those that the variant does not
know. -/
theorem unknownBits_eq (v : Variant) (word : UInt32) :
    unknownBits v word = word &&& ~~~v.knownBits := by
  rw [unknownBits, FlagWord.foldl_clear, ofList_isSet, FlagWord.not_and, FlagWord.and_or,
    UInt32.and_not_self, UInt32.zero_or]

/-- A word without unknown bits is packed again as it was. -/
theorem encode_isSet (h : word &&& ~~~v.knownBits = 0) :
    (FlagSet.mk (isSet v word)).encode v = .ok word := by
  refine encode_eq_ok.2 ⟨fun f hf => ?_, ?_⟩
  · have hset := (isSet_eq v word f).symm.trans hf
    exact of_decide_eq_true (Bool.and_eq_true_iff.1 hset).1
  · rw [toList, ofList_isSet]
    conv_lhs => rw [← FlagWord.and_or_and_not word v.knownBits, h, UInt32.or_zero]

/-- A word that was packed is unpacked to the flags that reach engines. -/
theorem isSet_encode (h : s.encode v = .ok word) :
    FlagSet.mk (isSet v word) = s.erase .extractMatched := by
  ext f
  refine (isSet_eq v word f).trans ?_
  rw [contains_erase]
  by_cases hf : f = .extractMatched
  · rw [hf, FlagWord.has, Flag.bit, UInt32.and_zero]
    exact Bool.and_false _
  · rw [has_encode h hf, bne_iff_ne.2 hf, Bool.true_and]
    cases hs : s.contains f
    · exact Bool.and_false _
    · rw [decide_eq_true (takes_of_encode h f hs)]
      rfl

/-- And it has no unknown bits. -/
theorem known_of_encode (h : s.encode v = .ok word) : word &&& ~~~v.knownBits = 0 := by
  obtain ⟨word', hword', hknown⟩ := encode_of_known (s := s) (v := v) fun f hf => by
    rw [Flag.bits?_eq, if_pos (takes_of_encode h f hf)]
    rfl
  rwa [Except.ok.inj (h.symm.trans hword')]

/-! ## Both ways -/

/-- The word of a union is the union of the words. -/
theorem encode_union : (s.union t).encode v = .ok word ↔
    ∃ ws wt, s.encode v = .ok ws ∧ t.encode v = .ok wt ∧ word = ws ||| wt := by
  have hword : FlagWord.ofList (s.union t).toList =
      FlagWord.ofList s.toList ||| FlagWord.ofList t.toList :=
    FlagWord.ofList_filter_or s.contains t.contains Flag.all
  have htakes : (∀ f, (s.union t).contains f = true → v.Takes f) ↔
      (∀ f, s.contains f = true → v.Takes f) ∧ (∀ f, t.contains f = true → v.Takes f) := by
    simp only [contains_union, Bool.or_eq_true, or_imp, forall_and]
  rw [encode_eq_ok, htakes, hword]
  constructor
  · rintro ⟨⟨hs, ht⟩, hor⟩
    exact ⟨_, _, encode_of_takes hs, encode_of_takes ht, hor⟩
  · rintro ⟨ws, wt, hs, ht, hor⟩
    obtain ⟨htakes, rfl⟩ := encode_eq_ok.1 hs
    obtain ⟨htakes', rfl⟩ := encode_eq_ok.1 ht
    exact ⟨⟨htakes, htakes'⟩, hor⟩

/-- **Words and sets correspond.** A word is unpacked if and only if the variant
knows all its bits, and is packed again as it was; otherwise the error gives the
unknown bits. A set is packed if and only if the variant takes all its flags, and
is unpacked again but for the flag that reaches no engine; otherwise the error
names the first flag that the variant does not take. Packing takes unions to
unions, and gives one word for both variants. -/
theorem words_and_sets_correspond (v v' : Variant) (word word' : UInt32) (s t : FlagSet) :
    (word &&& ~~~v.knownBits = 0 →
      ∃ u, decode v word = .ok u ∧ u.encode v = .ok word) ∧
    (word &&& ~~~v.knownBits ≠ 0 →
      ∃ digits, Text.hexNumber digits.toList = (word &&& ~~~v.knownBits).toNat ∧
        decode v word = .error (.invalid
          ("unknown flag bits 0x" ++ digits ++ " for the " ++ v.name ++ " engine"))) ∧
    ((∀ f, s.contains f = true → v.Takes f) →
      ∃ w, s.encode v = .ok w ∧ decode v w = .ok (s.erase .extractMatched)) ∧
    ((¬ ∀ f, s.contains f = true → v.Takes f) →
      ∃ before f after, Flag.all = before ++ f :: after ∧
        (∀ g ∈ before, s.contains g = true → v.Takes g) ∧ s.contains f = true ∧ ¬ v.Takes f ∧
        s.encode v = .error (.invalid
          ("flag '" ++ f.name ++ "' is not supported by the " ++ v.name ++ " engine"))) ∧
    ((s.union t).encode v = .ok word ↔
      ∃ ws wt, s.encode v = .ok ws ∧ t.encode v = .ok wt ∧ word = ws ||| wt) ∧
    (s.encode v = .ok word → s.encode v' = .ok word' → word = word') := by
  refine ⟨fun hknown => ?_, fun hunknown => ?_, fun htakes => ?_, encode_of_not_takes,
    encode_union, fun hword hword' => ?_⟩
  · exact ⟨_, by rw [decode, unknownBits_eq, if_pos hknown], encode_isSet hknown⟩
  · exact ⟨_, Text.hexNumber_smallHex _, by rw [decode, unknownBits_eq, if_neg hunknown]⟩
  · have hword := encode_of_takes htakes
    refine ⟨_, hword, ?_⟩
    rw [decode, unknownBits_eq, if_pos (known_of_encode hword), isSet_encode hword]
  · rw [(encode_eq_ok.1 hword).2, (encode_eq_ok.1 hword').2]

/-- A word with a bit that only the base variant knows, and the set of that flag
and the one that reaches no engine. -/
theorem words_and_sets_correspond_of_allow_empty :
    let s := FlagSet.ofList [.allowEmpty, .extractMatched]
    (∃ u, decode .base 0x30 = .ok u ∧ u.encode .base = .ok 0x30) ∧
      (∃ digits, Text.hexNumber digits.toList = 16 ∧ decode .extended 0x30 =
        .error (.invalid ("unknown flag bits 0x" ++ digits ++ " for the " ++
          Variant.extended.name ++ " engine"))) ∧
      (∃ w, s.encode .base = .ok w ∧ decode .base w = .ok (s.erase .extractMatched)) ∧
      (∃ f, s.contains f = true ∧ s.encode .extended = .error (.invalid
        ("flag '" ++ f.name ++ "' is not supported by the " ++ Variant.extended.name ++
          " engine"))) := by
  have hbase := words_and_sets_correspond .base .extended 0x30 0x30
    (.ofList [.allowEmpty, .extractMatched]) .empty
  have hextended := words_and_sets_correspond .extended .base 0x30 0x30
    (.ofList [.allowEmpty, .extractMatched]) .empty
  have htakes : ∀ f ∈ [Flag.allowEmpty, .extractMatched], Variant.base.Takes f := by decide
  have hnot : ¬ Variant.extended.Takes .allowEmpty := by decide
  refine ⟨hbase.1 (by decide), hextended.2.1 (by decide), hbase.2.2.1 fun f hf => ?_, ?_⟩
  · rw [contains_ofList, List.contains_iff_mem] at hf
    exact htakes f hf
  · obtain ⟨-, f, -, -, -, hs, -, herror⟩ := hextended.2.2.2.1 fun h => hnot (h _ rfl)
    exact ⟨f, hs, herror⟩

end FlagSet

end Multiscan
