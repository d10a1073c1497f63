import Multiscan.Builtin.Estimate
import Multiscan.Proofs.Builtin.Outcome
import Multiscan.Proofs.Text.Decimal
import Multiscan.Validation
/-!
# Built-in engine — the verdicts on an expression

An expression is judged twice: the base variant is asked for facts about it, and
it is compiled alone. Both read the same pattern under the same word of flags, so
what cannot be read both refuse, in the same words. Beyond that the base variant
looks at the least length of a match and nothing else, and the extended one asks the
builder for an automaton and nothing else, whatever the builder (`verdicts_agree`).
-/

namespace Multiscan

open Engine
open Text (bytesOf)

/-- Flags that the extended variant takes the base variant takes as well. -/
theorem Variant.takes_base {f : Flag} (h : Variant.extended.Takes f) : Variant.base.Takes f := by
  revert h
  cases f
  all_goals decide

namespace Expression

/-- The word of the flags of an expression. -/
def word (e : Expression) : UInt32 := FlagWord.ofList e.flags.toList

variable {e : Expression}

/-- Both variants are given the same word. -/
theorem Presentable.encode (he : e.Presentable) (v : Variant) : e.flags.encode v = .ok e.word := by
  cases v with
  | base => exact FlagSet.encode_of_takes fun f hf => Variant.takes_base (he.flags f hf)
  | extended => exact FlagSet.encode_of_takes he.flags

/-- Each variant knows the word, and the pattern is read as it was written. -/
theorem Presentable.read (he : e.Presentable) (v : Variant) :
    Builtin.readPattern (some (bytesOf e.pattern)) = .ok e.pattern.toList ∧
      Builtin.readFlags v e.word = .ok () :=
  ⟨Builtin.readPattern_of_patternBytes (patternBytes_of_not_mem he.nul),
    if_pos (FlagSet.known_of_encode (he.encode v))⟩

/-- The extended variant does not take the flag for empty matches. -/
theorem Presentable.has_allowEmpty (he : e.Presentable) :
    FlagWord.has e.word .allowEmpty = false := by
  rw [FlagSet.has_encode (he.encode .base) (by decide), Bool.eq_false_iff]
  exact fun hflag => absurd (he.flags _ hflag) (by decide)

end Expression

namespace Builtin

variable {setup : Setup} {e : Expression} {err : Syntax.SyntaxError} {r : Regex}
variable {message : String}

/-! ## What is read -/

/-- What the base variant says of what an expression means. -/
def survey (r : Regex) : Except String RawInfo :=
  match Pattern.extent? r with
  | none => .error "Pattern can never match."
  | some x =>
    if x.least = 0 then
      .error "Pattern matches empty buffer; use HS_FLAG_ALLOWEMPTY to enable support."
    else .ok (rawInfo x)

/-- What the base variant says of what can be read, and of what cannot. -/
theorem analyze_of_parse (he : e.Presentable) : analyze (some (bytesOf e.pattern)) e.word =
    match Pattern.parse e.pattern.toList e.word with
    | .error err => .error err.message
    | .ok r => survey r := by
  obtain ⟨hread, hflags⟩ := he.read .base
  have hempty := he.has_allowEmpty
  rw [analyze, hread, hflags]
  simp only [bind, Except.bind, readRegex]
  rcases Pattern.parse e.pattern.toList e.word with err | r
  · rfl
  · rcases hextent : Pattern.extent? r with _ | x
    · simp [Except.mapError, survey, hextent]
    · simp [Except.mapError, survey, hextent, hempty]

/-- What the extended variant says of what can be read, and of what cannot. -/
theorem verdict_of_parse (he : e.Presentable) : verdict setup e =
    match Pattern.parse e.pattern.toList e.word with
    | .error err => .error err.message
    | .ok r =>
      match setup.failure? (e.flags.contains .utf8) r with
      | none => .ok ⟨0, FlagWord.has e.word .singleMatch, FlagWord.has e.word .utf8, r⟩
      | some failure => .error failure.message := by
  obtain ⟨hread, hflags⟩ := he.read .extended
  rw [← FlagSet.has_encode (he.encode .extended) (by decide)]
  change compileOne setup (some (bytesOf e.pattern)) e.word 0 = _
  rw [compileOne, hread, hflags]
  simp only [bind, Except.bind, build, readRegex]
  rcases Pattern.parse e.pattern.toList e.word with err | r
  · rfl
  · simp only [Except.mapError]
    rcases setup.failure? (FlagWord.has e.word .utf8) r with _ | failure
    · rfl
    · rfl

/-- The reason of a refusal, if it is one. -/
def refusal {α : Type} : Except String α → Option String
  | .ok _ => none
  | .error message => some message

/-! ## The two judges -/

variable {w : World Heap}

/-- What comes of asking for facts about what can be given to the base variant is what
that says. -/
theorem info_of_encode {bytes : Text.Bytes} {word : UInt32}
    (hword : e.flags.encode .base = .ok word) (hbytes : patternBytes e.pattern = .ok bytes)
    (w : World Heap) :
    ((e.info (engine setup)).attempt w).1 =
      match analyze (some bytes) word with
      | .error message => .error ((Error.ofCode Code.compilerError).within message)
      | .ok raw => .ok (.ofRaw raw) := by
  rw [Expression.info, hword, Act.attempt_bind_ok, hbytes, Act.attempt_bind_ok,
    Act.attempt_bind_lift, World.ask_apply]
  have hanswer : (engine setup).answer (.info bytes word) w.engine =
    answerInfo (some bytes) word w.engine := rfl
  rw [hanswer, answerInfo]
  rcases analyze (some bytes) word with message | raw
  · rfl
  · rfl

theorem info_apply (he : e.Presentable) (w : World Heap) :
    ((e.info (engine setup)).attempt w).1 =
      match analyze (some (bytesOf e.pattern)) e.word with
      | .error message => .error ((Error.ofCode Code.compilerError).within message)
      | .ok raw => .ok (.ofRaw raw) :=
  info_of_encode (he.encode .base) (patternBytes_of_not_mem he.nul) w

/-- **The base variant judges** by what it knows about an expression. -/
theorem judgeBase_apply (he : e.Presentable) (w : World Heap) :
    (e.judgeBase (engine setup) w).1 = refusal (analyze (some (bytesOf e.pattern)) e.word) := by
  rw [Expression.judgeBase, Step.bind_apply, info_apply he w]
  rcases analyze (some (bytesOf e.pattern)) e.word with message | raw
  · rfl
  · rfl

/-- **The extended variant judges** by what it makes of an expression. -/
theorem judgeExtended_apply (he : e.Presentable) (w : World Heap) :
    (e.judgeExtended (engine setup) w).1 = refusal (verdict setup e) := by
  rw [Expression.judgeExtended, Step.bind_apply]
  rcases hverdict : verdict setup e with message | p
  · obtain ⟨c, hc, hmessage⟩ := compile_alone_of_error he hverdict true w
    rw [hc]
    exact congrArg some hmessage
  · obtain ⟨d, hd⟩ := (compile_alone_iff he true w).2 ⟨p, hverdict⟩
    rw [hd]
    rfl

/-- The judges do not hear of each other. -/
theorem validate_apply (he : e.Presentable) (w : World Heap) :
    (e.validate (engine setup) w).1 =
      ⟨refusal (analyze (some (bytesOf e.pattern)) e.word), refusal (verdict setup e)⟩ := by
  have hbase : (e.judgeBase (engine setup) w).1 =
    refusal (analyze (some (bytesOf e.pattern)) e.word) := judgeBase_apply he w
  rw [← hbase, ← judgeExtended_apply he (e.judgeBase (engine setup) w).2]
  rfl

/-! ## The verdicts -/

/-- What cannot be read both variants refuse in the same words. -/
theorem validate_of_error (he : e.Presentable)
    (h : Pattern.parse e.pattern.toList e.word = .error err) (w : World Heap) :
    (e.validate (engine setup) w).1 = ⟨some err.message, some err.message⟩ := by
  rw [validate_apply he, analyze_of_parse he, verdict_of_parse he, h]
  rfl

/-- Of what can be read the base variant refuses what has no least length of a match,
or zero for it. -/
theorem validBase_of_parse (he : e.Presentable)
    (h : Pattern.parse e.pattern.toList e.word = .ok r) (w : World Heap) :
    (e.validate (engine setup) w).1.validBase = false ↔
      r.minLen? = none ∨ r.minLen? = some 0 := by
  rw [validate_apply he, analyze_of_parse he, h]
  simp only [Verdicts.validBase, survey, Pattern.extent?]
  rcases r.minLen? with _ | n
  · exact iff_of_true rfl (.inl rfl)
  · rcases n with _ | n
    · exact iff_of_true rfl (.inr rfl)
    · simp [refusal]

/-- Of what can be read the extended variant refuses what there is no automaton for,
in the words for that. -/
theorem extended_of_parse (he : e.Presentable)
    (h : Pattern.parse e.pattern.toList e.word = .ok r) (w : World Heap) :
    (e.validate (engine setup) w).1.extended =
      (setup.failure? (e.flags.contains .utf8) r).map BuildFailure.message := by
  rw [validate_apply he, verdict_of_parse he, h]
  simp only [refusal]
  rcases setup.failure? (e.flags.contains .utf8) r with _ | failure
  · rfl
  · rfl

theorem toList_tooLarge (n : Nat) : (BuildFailure.tooLarge n).message.toList =
    "Pattern is too large: exceeds the limit of ".toList ++
      ((Nat.repr n).toList ++ " bytes.".toList) := by
  change ("Pattern is too large: exceeds the limit of " ++ Nat.repr n ++ " bytes.").toList = _
  rw [String.toList_append, String.toList_append, List.append_assoc]

theorem toList_other (reason : String) : (BuildFailure.other reason).message.toList =
    "Pattern could not be built: ".toList ++ (reason.toList ++ ".".toList) := by
  change ("Pattern could not be built: " ++ reason ++ ".").toList = _
  rw [String.toList_append, String.toList_append, List.append_assoc]

/-- The words for too large an automaton are those for nothing else. -/
theorem eq_tooLarge_of_message {failure : BuildFailure} {n : Nat}
    (h : failure.message = (BuildFailure.tooLarge n).message) : failure = .tooLarge n := by
  have hlist := congrArg String.toList h
  rcases failure with m | reason
  · rw [toList_tooLarge, toList_tooLarge] at hlist
    have hdigits := List.append_cancel_right (List.append_cancel_left hlist)
    rw [Text.eq_of_repr_eq (String.ext_iff.2 hdigits)]
  · -- The two kinds of words part at their ninth letter.
    rw [toList_other, toList_tooLarge] at hlist
    have hletter : _[8]? = _[8]? := congrArg (fun cs => cs[8]?) hlist
    rw [List.getElem?_append_left (by decide), List.getElem?_append_left (by decide)] at hletter
    exact absurd hletter (by decide)

/-- A size is complained about only where it was limited, and the complaint names the
limit. -/
theorem limit_of_extended (he : e.Presentable)
    (h : Pattern.parse e.pattern.toList e.word = .ok r) {n : Nat}
    (hmessage : (e.validate (engine setup) w).1.extended = some (BuildFailure.tooLarge n).message) :
    setup.limit = some n := by
  rw [extended_of_parse he h, Option.map_eq_some_iff] at hmessage
  obtain ⟨failure, hfailure, hmessage⟩ := hmessage
  rw [eq_tooLarge_of_message hmessage] at hfailure
  exact setup.builder.limit_of_tooLarge hfailure

/-- Facts are told of what the base variant takes. -/
theorem info_isOk_iff (he : e.Presentable) (w u : World Heap) :
    (∃ i, ((e.info (engine setup)).attempt u).1 = .ok i) ↔
      (e.validate (engine setup) w).1.validBase = true := by
  rw [validate_apply he, info_apply he]
  rcases analyze (some (bytesOf e.pattern)) e.word with message | raw
  · exact iff_of_false (fun ⟨_, h⟩ => nomatch h) fun h => nomatch h
  · exact iff_of_true ⟨_, rfl⟩ rfl

/-- What the extended variant takes compiles alone. -/
theorem compile_isOk_iff (he : e.Presentable) (w u : World Heap) (groups : Bool) :
    (∃ d, ((Database.compile (engine setup) groups [e]).attempt u).1 = .ok d) ↔
      (e.validate (engine setup) w).1.validExtended = true := by
  rw [compile_alone_iff he, validate_apply he]
  rcases verdict setup e with message | p
  · exact iff_of_false (fun ⟨_, h⟩ => nomatch h) fun h => nomatch h
  · exact iff_of_true ⟨_, rfl⟩ rfl

/-- **The verdicts differ in nothing but emptiness and size**, whatever builds the
automata and whatever limit is set. Both variants are given the same word of flags.
What cannot be read both refuse in the same words. Of what can be read the extended
variant refuses what the builder does not build within the limit and nothing else: in
words that tell why, and where it is the size, name the limit that was set. The base
variant refuses what has no least length of a match or zero for it, and nothing else. So
wherever the verdicts differ, one of these is the reason. Facts are told of an
expression if and only if the base variant takes it, and it compiles alone if and only
if the extended one does, whatever was done before. -/
theorem verdicts_agree (setup : Setup) (he : e.Presentable) (w : World Heap) :
    ∃ word, e.flags.encode .base = .ok word ∧ e.flags.encode .extended = .ok word ∧
      let v := (e.validate (engine setup) w).1
      (∀ err, Pattern.parse e.pattern.toList word = .error err →
        v.base = some err.message ∧ v.extended = some err.message) ∧
      (∀ r, Pattern.parse e.pattern.toList word = .ok r →
        let failure? := setup.builder.failure? setup.limit (e.flags.contains .utf8) r
        (v.validExtended = false ↔ failure? ≠ none) ∧
        v.extended = failure?.map BuildFailure.message ∧
        (∀ n, v.extended = some (BuildFailure.tooLarge n).message → setup.limit = some n) ∧
        (v.validBase = false ↔ r.minLen? = none ∨ r.minLen? = some 0)) ∧
      (v.base ≠ v.extended → ∃ r, Pattern.parse e.pattern.toList word = .ok r ∧
        (setup.builder.failure? setup.limit (e.flags.contains .utf8) r ≠ none ∨
          r.minLen? = none ∨ r.minLen? = some 0)) ∧
      ∀ u : World Heap,
        ((∃ i, ((e.info (engine setup)).attempt u).1 = .ok i) ↔ v.validBase = true) ∧
        ∀ groups, (∃ d, ((Database.compile (engine setup) groups [e]).attempt u).1 = .ok d) ↔
          v.validExtended = true := by
  have hextended {r : Regex} (hr : Pattern.parse e.pattern.toList e.word = .ok r) :
      (e.validate (engine setup) w).1.validExtended = false ↔
        setup.failure? (e.flags.contains .utf8) r ≠ none := by
    rw [Verdicts.validExtended, extended_of_parse he hr, Option.isNone_map,
      Option.isNone_eq_false_iff, Option.isSome_iff_ne_none]
  refine ⟨e.word, he.encode .base, he.encode .extended, fun err herr => ?_, fun r hr => ?_,
    fun hdiffer => ?_, fun u => ?_⟩
  · rw [validate_of_error he herr]
    exact ⟨rfl, rfl⟩
  · exact ⟨hextended hr, extended_of_parse he hr w, fun n => limit_of_extended he hr,
      validBase_of_parse he hr w⟩
  · rcases hparse : Pattern.parse e.pattern.toList e.word with err | r
    · rw [validate_of_error he hparse] at hdiffer
      exact absurd rfl hdiffer
    · refine ⟨r, rfl, ?_⟩
      change setup.failure? (e.flags.contains .utf8) r ≠ none ∨ _
      rw [← hextended hparse, ← validBase_of_parse he hparse w]
      by_contra hboth
      rw [not_or, Bool.not_eq_false, Bool.not_eq_false] at hboth
      obtain ⟨hextended, hbase⟩ := hboth
      rw [Verdicts.validExtended, Option.isNone_iff_eq_none] at hextended
      rw [Verdicts.validBase, Option.isNone_iff_eq_none] at hbase
      exact hdiffer (hbase.trans hextended.symm)
  · exact ⟨info_isOk_iff he w u, compile_isOk_iff he w u⟩

/-- A pattern with empty matches, though their text is asked for, one that is not closed,
and one that is too large for a limit. -/
theorem verdicts_agree_of_star :
    let star : Expression := ⟨"a*", .ofList [.extractMatched], none⟩
    let opened : Expression := .ofPattern "(a" .empty
    let letters : Expression := .ofPattern "[a-z]{300}" .empty
    let tight : Setup := ⟨.estimate, some 1⟩
    (star.Presentable ∧ (star.validate (engine .unlimited) world).1.validBase = false ∧
      (star.validate (engine .unlimited) world).1.validExtended = true) ∧
    (opened.Presentable ∧ ∃ message,
      (opened.validate (engine .unlimited) world).1.base = some message ∧
      (opened.validate (engine .unlimited) world).1.extended = some message) ∧
    letters.Presentable ∧ (letters.validate (engine tight) world).1.validBase = true ∧
      (letters.validate (engine tight) world).1.extended =
        some "Pattern is too large: exceeds the limit of 1 bytes." := by
  intro star opened letters tight
  have hstar : star.Presentable :=
    { nul := by decide
      flags := fun f => by cases f <;> decide }
  have hopened : opened.Presentable := Expression.presentable_ofPattern (by decide)
  have hletters : letters.Presentable := Expression.presentable_ofPattern (by decide)
  refine ⟨⟨hstar, ?_⟩, ⟨hopened, ?_⟩, hletters, ?_⟩
  · obtain ⟨word, hword, -, -, hread, -⟩ := verdicts_agree .unlimited hstar world
    have hzero : (star.flags.encode .base).toOption = some 0 := by decide
    obtain rfl := Except.ok.inj (hword.symm.trans (eq_ok_of_toOption hzero))
    have hparse : (Pattern.parse star.pattern.toList 0).toOption.map (·.minLen?) =
        some (some 0) := by decide +kernel
    obtain ⟨r, hr, hleast⟩ := Option.map_eq_some_iff.1 hparse
    obtain ⟨hextended, -, -, hbase⟩ := hread r (eq_ok_of_toOption hr)
    exact ⟨hbase.2 (.inr hleast), Bool.of_not_eq_false fun h => hextended.1 h rfl⟩
  · obtain ⟨word, hword, -, hrefused, -⟩ := verdicts_agree .unlimited hopened world
    have hzero : (opened.flags.encode .base).toOption = some 0 := by decide
    obtain rfl := Except.ok.inj (hword.symm.trans (eq_ok_of_toOption hzero))
    have hparse : (Pattern.parse opened.pattern.toList 0).isOk = false := by decide +kernel
    rcases hcase : Pattern.parse opened.pattern.toList 0 with err | r
    · exact ⟨err.message, hrefused err hcase⟩
    · rw [hcase] at hparse
      cases hparse
  · obtain ⟨word, hword, -, -, hread, -⟩ := verdicts_agree tight hletters world
    have hzero : (letters.flags.encode .base).toOption = some 0 := by decide
    obtain rfl := Except.ok.inj (hword.symm.trans (eq_ok_of_toOption hzero))
    have hparse : (Pattern.parse letters.pattern.toList 0).toOption.map (fun r =>
        (r.minLen?, tight.failure? false r)) = some (some 300, some (.tooLarge 1)) := by
      decide +kernel
    obtain ⟨r, hr, hfound⟩ := Option.map_eq_some_iff.1 hparse
    obtain ⟨hleast, hfailure⟩ := Prod.mk.inj hfound
    obtain ⟨-, hextended, -, hbase⟩ := hread r (eq_ok_of_toOption hr)
    refine ⟨Bool.of_not_eq_false fun h => ?_, ?_⟩
    · rcases hbase.1 h with hnone | hzero
      · exact nomatch hleast.symm.trans hnone
      · exact nomatch hleast.symm.trans hzero
    · exact hextended.trans (congrArg (Option.map BuildFailure.message) hfailure)

end Builtin

end Multiscan
