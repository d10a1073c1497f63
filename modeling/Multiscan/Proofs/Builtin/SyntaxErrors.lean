import Multiscan.Proofs.Builtin.Verdicts
import Multiscan.Proofs.Regex.ErrorPlaces
import Multiscan.Proofs.Text.Decimal
/-!
# Built-in engine — where syntax errors point

A pattern that cannot be read is refused with an index, whether it is compiled or
facts about it are asked for. The index counts bytes of the text that is read. That is
the pattern itself if characters are read, or if it is in ASCII so far; otherwise it is
the pattern spelled in bytes, which is longer, and so the index lies behind the place
that is meant (`syntax_errors_point`).
-/

namespace Multiscan

open Engine Syntax
open Text (bytesOf)

/-- The words for what is wrong at an index. -/
def parseErrorAt (k : Nat) (rest : String) : String :=
  "Parse error at index " ++ Nat.repr k ++ ": " ++ rest

variable {k : Nat} {rest s : String}

theorem toList_parseErrorAt (k : Nat) (rest : String) : (parseErrorAt k rest).toList =
    "Parse error at index ".toList ++ ((Nat.repr k).toList ++ ':' :: ' ' :: rest.toList) := by
  have hcolon : (": " : String).toList = [':', ' '] := rfl
  unfold parseErrorAt
  simp only [String.toList_append, List.append_assoc, hcolon, List.cons_append, List.nil_append]

/-- Words that begin in another way are not such words. -/
theorem ne_parseErrorAt (front : String) (h : front.toList <+: s.toList)
    (hlength : 3 ≤ front.toList.length) (hfront : front.toList.take 3 ≠ ['P', 'a', 'r']) :
    s ≠ parseErrorAt k rest := by
  obtain ⟨tail, htail⟩ := h
  rintro rfl
  refine hfront ?_
  rw [← List.take_append_of_le_length hlength, htail, toList_parseErrorAt,
    List.take_append_of_le_length (by simp)]
  simp

namespace Syntax.SyntaxError

variable {err : SyntaxError}

theorem message_eq (err : SyntaxError) :
    err.message = parseErrorAt err.offset (err.fault.message ++ ".") := by
  refine String.toList_inj.1 ?_
  unfold SyntaxError.message parseErrorAt
  simp only [String.toList_append, List.append_assoc]
  rfl

/-- **The words of an error tell** where it points and what is wrong there. -/
theorem of_message (h : err.message = parseErrorAt k rest) :
    err.offset = k ∧ rest = err.fault.message ++ "." := by
  have hlists := congrArg String.toList h
  rw [message_eq, toList_parseErrorAt, toList_parseErrorAt] at hlists
  have hdigits := List.append_cancel_left hlists
  obtain ⟨hoffset, hrest⟩ := Text.eq_of_digits_append (by decide) hdigits
  exact ⟨hoffset, (String.toList_inj.1 (List.tail_eq_of_cons_eq hrest)).symm⟩

end Syntax.SyntaxError

namespace Expression

/-- The word of an expression has the bits of its flags. -/
theorem has_word (e : Expression) {f : Flag} (hf : f ≠ .extractMatched) :
    FlagWord.has e.word f = e.flags.contains f := by
  have hlist (fs : List Flag) : FlagWord.has (FlagWord.ofList fs) f = fs.contains f := by
    induction fs with
    | nil => cases f <;> rfl
    | cons g fs ih =>
      rw [FlagWord.ofList_cons, FlagWord.has_or, ih, Flag.has_bit g hf, List.contains_cons,
        Bool.beq_comm]
  rw [word, hlist, Bool.eq_iff_iff, List.contains_iff_mem, FlagSet.mem_toList]

end Expression

namespace Builtin

variable {setup : Setup} {e : Expression} {err : Error} {bytes : Text.Bytes}
variable {word : UInt32}

/-! ## Refusals in such words -/

/-- A parameter that is found to be invalid is told in other words. -/
theorem reason_invalid_ne (front : String) {context : String}
    (h : front.toList <+: context.toList) (hlength : 3 ≤ front.toList.length)
    (hfront : front.toList.take 3 ≠ ['P', 'a', 'r']) :
    (Error.invalid context).reason ≠ parseErrorAt k rest := by
  refine ne_parseErrorAt front (h.trans ?_) hlength hfront
  change _ <+: (context ++ ": " ++ ErrorKind.invalidParameter.message).toList
  rw [String.toList_append, String.toList_append, List.append_assoc]
  exact List.prefix_append _ _

/-- What there is no automaton for is refused in other words. -/
theorem message_ne_parseErrorAt (failure : BuildFailure) :
    failure.message ≠ parseErrorAt k rest := by
  rcases failure with n | reason
  · refine ne_parseErrorAt "Pattern is too large: exceeds the limit of " ?_ (by simp) (by simp)
    rw [toList_tooLarge]
    exact List.prefix_append _ _
  · refine ne_parseErrorAt "Pattern could not be built: " ?_ (by simp) (by simp)
    rw [toList_other]
    exact List.prefix_append _ _

/-- What is refused in such words when it is compiled cannot be read. -/
theorem exists_of_verdict (he : e.Presentable)
    (h : verdict setup e = .error (parseErrorAt k rest)) :
    ∃ serr, Pattern.parse e.pattern.toList e.word = .error serr ∧
      serr.message = parseErrorAt k rest := by
  rw [verdict_of_parse he] at h
  split at h
  · next serr hparse => exact ⟨serr, hparse, Except.error.inj h⟩
  · split at h
    · cases h
    · next failure _ => exact absurd (Except.error.inj h) (message_ne_parseErrorAt failure)

/-- And so does what is refused in them when facts about it are asked for. -/
theorem exists_of_analyze (hword : e.flags.encode .base = .ok word)
    (hbytes : patternBytes e.pattern = .ok bytes)
    (h : analyze (some bytes) word = .error (parseErrorAt k rest)) :
    ∃ serr, Pattern.parse e.pattern.toList word = .error serr ∧
      serr.message = parseErrorAt k rest := by
  have hflags : readFlags .base word = .ok () := if_pos (FlagSet.known_of_encode hword)
  rw [analyze, readPattern_of_patternBytes hbytes, hflags] at h
  simp only [bind, Except.bind, readRegex] at h
  rcases hparse : Pattern.parse e.pattern.toList word with serr | r
  · rw [hparse] at h
    exact ⟨serr, rfl, Except.error.inj h⟩
  · rw [hparse] at h
    simp only [Except.mapError] at h
    split at h
    · exact absurd (Except.error.inj h)
        (ne_parseErrorAt "Pattern can never match." (List.prefix_refl _) (by simp) (by simp))
    · split at h
      · exact absurd (Except.error.inj h)
          (ne_parseErrorAt _ (List.prefix_refl _) (by simp) (by simp))
      · cases h

/-- Compiling an expression fails in such words only if its pattern cannot be read. -/
theorem exists_of_compile (groups : Bool) (w : World Heap)
    (h : ((Database.compile (engine setup) groups [e]).attempt w).1 = .error err)
    (hreason : err.reason = parseErrorAt k rest) :
    ∃ serr, Pattern.parse e.pattern.toList e.word = .error serr ∧
      serr.message = parseErrorAt k rest := by
  rcases e.presentable_or_unfit with he | ⟨reason, he⟩
  · rcases hverdict : verdict setup e with message | p
    · obtain ⟨c, hc, rfl⟩ := compile_alone_of_error he hverdict groups w
      obtain rfl := Except.error.inj (h.symm.trans hc)
      rw [show c.message = parseErrorAt k rest from hreason] at hverdict
      exact exists_of_verdict he hverdict
    · obtain ⟨d, hd⟩ := (compile_alone_iff he groups w).2 ⟨p, hverdict⟩
      cases h.symm.trans hd
  · have hrequest := request?_of_unfit groups (length_singleton_lt e) (List.forall_mem_nil _) he
    have hdeclined := congrArg Prod.fst (Task.run_of_error hrequest (engine setup) w)
    obtain rfl := Except.error.inj (h.symm.trans hdeclined)
    refine absurd hreason (reason_invalid_ne "expression " ?_ (by simp) (by simp))
    rw [String.toList_append, String.toList_append, String.toList_append, List.append_assoc,
      List.append_assoc]
    exact List.prefix_append _ _

/-- And so does asking for facts about it. -/
theorem exists_of_info (w : World Heap)
    (h : ((e.info (engine setup)).attempt w).1 = .error err)
    (hreason : err.reason = parseErrorAt k rest) :
    ∃ serr, Pattern.parse e.pattern.toList e.word = .error serr ∧
      serr.message = parseErrorAt k rest := by
  by_cases htakes : ∀ f, e.flags.contains f = true → Variant.base.Takes f
  · have hword : e.flags.encode .base = .ok e.word := FlagSet.encode_of_takes htakes
    rcases hbytes : patternBytes e.pattern with err' | bytes
    · rw [Expression.info, hword, Act.attempt_bind_ok, hbytes, Act.attempt_bind_error] at h
      obtain rfl := Except.error.inj h
      unfold patternBytes at hbytes
      dsimp only at hbytes
      split at hbytes
      · cases hbytes
      · obtain rfl := Except.error.inj hbytes
        refine absurd hreason (reason_invalid_ne "pattern contains a NUL byte at offset " ?_
          (by simp) (by simp))
        rw [String.toList_append]
        exact List.prefix_append _ _
    · rw [info_of_encode hword hbytes w] at h
      split at h
      · next message hanalyze =>
        obtain rfl := Except.error.inj h
        rw [show message = parseErrorAt k rest from hreason] at hanalyze
        exact exists_of_analyze hword hbytes hanalyze
      · cases h
  · obtain ⟨-, f, -, -, -, -, -, hword⟩ := FlagSet.encode_of_not_takes htakes
    rw [Expression.info, hword, Act.attempt_bind_error] at h
    obtain rfl := Except.error.inj h
    refine absurd hreason (reason_invalid_ne "flag '" ?_ (by simp) (by simp))
    rw [String.toList_append, String.toList_append, String.toList_append, String.toList_append,
      List.append_assoc, List.append_assoc, List.append_assoc]
    exact List.prefix_append _ _

/-! ## The main statement -/

/-- **A syntax error points to the pattern as it is read.** Where compiling an
expression fails with an index, or asking for facts about it, the index is the place
at which the pattern could not be read, a place between two characters of the text
that is read, where what the message says shows. If characters are read, that text is
the pattern. If bytes are read, it begins as the pattern does, up to the first
character outside ASCII; so the index is a place in the pattern if no such character
stands before it, and is not counted in the pattern otherwise. -/
theorem syntax_errors_point (setup : Setup) (e : Expression) (groups : Bool)
    (w : World Heap) {err : Error} {k : Nat} {rest : String}
    (h : ((Database.compile (engine setup) groups [e]).attempt w).1 = .error err ∨
      ((e.info (engine setup)).attempt w).1 = .error err)
    (hreason : err.reason = "Parse error at index " ++ Nat.repr k ++ ": " ++ rest) :
    ∃ fault : Fault, rest = fault.message ++ "." ∧
      Pattern.parse e.pattern.toList e.word = .error ⟨fault, k⟩ ∧
      SyntaxError.Points (Pattern.spelled e.pattern.toList e.word) ⟨fault, k⟩ ∧
      ∀ front behind, e.pattern.toList = front ++ behind →
        (e.flags.contains .utf8 = true ∨ ∀ x ∈ front, x.toNat < 128) →
        (k ≤ Text.byteLength front → Text.Between e.pattern.toList k) ∧
        (k < Text.byteLength front ∨ behind = [] →
          SyntaxError.Points e.pattern.toList ⟨fault, k⟩) := by
  have hparse : ∃ serr, Pattern.parse e.pattern.toList e.word = .error serr ∧
      serr.message = parseErrorAt k rest := by
    rcases h with h | h
    · exact exists_of_compile groups w h hreason
    · exact exists_of_info w h hreason
  obtain ⟨⟨fault, offset⟩, hparse, hmessage⟩ := hparse
  obtain ⟨rfl, rfl⟩ := SyntaxError.of_message hmessage
  refine ⟨fault, rfl, hparse, Pattern.points_spelled hparse, fun front behind hpattern hfront => ?_⟩
  rw [← e.has_word (by decide)] at hfront
  rw [hpattern] at hparse ⊢
  exact Pattern.points_pattern hparse hfront

/-- A group that is not closed behind a character outside ASCII, which is read as one
character or as two escapes of four characters each. -/
theorem syntax_errors_point_of_opened :
    let opened (flags : List Flag) : Expression := ⟨"é(", .ofList flags, none⟩
    let compiled (flags : List Flag) :=
      ((Database.compile (engine .unlimited) true [opened flags]).attempt world).1
    (∃ err, compiled [.utf8] = .error err ∧
      err.reason = "Parse error at index " ++ Nat.repr 2 ++ ": " ++ "unclosed group." ∧
      SyntaxError.Points ['é', '('] ⟨.groupUnclosed, 2⟩) ∧
    ∃ err, compiled [] = .error err ∧
      err.reason = "Parse error at index " ++ Nat.repr 8 ++ ": " ++ "unclosed group." ∧
      SyntaxError.Points (spellInBytes ['é', '(']) ⟨.groupUnclosed, 8⟩ ∧
      ¬ Text.Between ['é', '('] 8 := by
  intro opened compiled
  have hrefused (flags : List Flag) (message : String) (hfit : (opened flags).Presentable)
      (hverdict : refusal (verdict .unlimited (opened flags)) = some message) :
      ∃ err, compiled flags = .error err ∧ err.reason = message := by
    rcases hcase : verdict .unlimited (opened flags) with reason | p
    · rw [hcase] at hverdict
      obtain rfl := Option.some.inj hverdict
      obtain ⟨c, hc, hmessage⟩ := compile_alone_of_error hfit hcase true world
      exact ⟨_, hc, hmessage⟩
    · rw [hcase] at hverdict
      cases hverdict
  obtain ⟨err, herr, hreason⟩ := hrefused [.utf8]
    ("Parse error at index " ++ Nat.repr 2 ++ ": " ++ "unclosed group.")
    ⟨by decide, fun f => by cases f <;> decide⟩ (by decide +kernel)
  obtain ⟨err', herr', hreason'⟩ := hrefused []
    ("Parse error at index " ++ Nat.repr 8 ++ ": " ++ "unclosed group.")
    ⟨by decide, fun f => by cases f <;> decide⟩ (by decide +kernel)
  obtain ⟨fault, -, hparse, -, hpattern⟩ :=
    syntax_errors_point .unlimited (opened [.utf8]) true world (.inl herr) hreason
  obtain ⟨fault', -, hparse', hspelled, -⟩ :=
    syntax_errors_point .unlimited (opened []) true world (.inl herr') hreason'
  have hgroup (flags : List Flag) {fault : Fault} {k : Nat}
      (hkind : ((Pattern.parse (opened flags).pattern.toList (opened flags).word).map
        fun _ => ()).mapError (·.fault) = .error .groupUnclosed)
      (hparse : Pattern.parse (opened flags).pattern.toList (opened flags).word =
        .error ⟨fault, k⟩) : fault = .groupUnclosed := by
    rw [hparse] at hkind
    exact Except.error.inj hkind
  obtain rfl := hgroup [.utf8] (by decide +kernel) hparse
  obtain rfl := hgroup [] (by decide +kernel) hparse'
  have htext : (opened [.utf8]).pattern.toList = ['é', '('] := by decide
  have hbytes : Pattern.spelled (opened []).pattern.toList (opened []).word =
      spellInBytes ['é', '('] := by decide +kernel
  rw [htext] at hpattern
  rw [hbytes] at hspelled
  refine ⟨⟨err, herr, hreason, ?_⟩, err', herr', hreason', hspelled, ?_⟩
  · exact (hpattern ['é', '('] [] rfl (.inl (by decide))).2 (.inr rfl)
  · intro hbetween
    have hboundary := hbetween.isBoundary
    exact absurd hboundary (by decide)

end Builtin

end Multiscan
