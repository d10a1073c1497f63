import Multiscan.Cli.Run
import Multiscan.Proofs.Cli.Parts
import Multiscan.Proofs.Text.Characters
/-!
# Command line — what is compiled for a command line

The patterns of a command line are those that its parts name, in their order. What
its parts say of all patterns, that they are to be read literally or with which flags,
counts for each of them, wherever it stands; so it can be moved, repeated and written
in another form (`readTokens_respelled`), and a file of patterns is as good as its
lines one by one (`commandExpressions_unfiled`). The main statement on command lines
is `patterns_and_flags_independent`.
-/

namespace Multiscan.Cli

open Builtin (Builder)
open Text (Bytes bytesOf)

/-! ## What is said of all patterns -/

namespace Token

/-- Whether a part says something of all patterns: a flag that they have, or that they
are to be read literally. -/
def general (c : Command) (t : Token) : Bool := (t.flag? c).isSome || t.asks c .fixedStrings

variable {c : Command} {t : Token}

theorem free_of_general (h : t.general c = true) : t.Free c := by
  rw [general, Bool.or_eq_true, Option.isSome_iff_exists] at h
  rcases h with ⟨f, hf⟩ | hasks
  · exact free_of_flag? hf
  · exact free_of_asks hasks

theorem setting?_of_general (h : t.general c = true) :
    ∃ y, t.setting? c = some y ∧ (y = .fixedStrings ∨ y = .namedFlag ∨ ∃ f, y = .flag f) := by
  rw [general, Bool.or_eq_true, Option.isSome_iff_exists] at h
  rcases h with ⟨f, hf⟩ | hasks
  · rcases setting?_of_flag? hf with hset | hset
    · exact ⟨_, hset, .inr (.inr ⟨f, rfl⟩)⟩
    · exact ⟨_, hset, .inr (.inl rfl)⟩
  · exact ⟨_, setting?_of_asks hasks, .inl rfl⟩

/-- What a part says of all patterns is all that it says. -/
theorem silent_of_general (h : t.general c = true) :
    t.source? c = none ∧ t.haystack? c = none ∧ t.limit? c = none ∧ t.rounds? c = none := by
  obtain ⟨y, hy, rfl | rfl | ⟨f, rfl⟩⟩ := setting?_of_general h
  all_goals exact ⟨source?_eq_none hy nofun nofun, haystack?_eq_none hy nofun,
    limit?_eq_none hy nofun, rounds?_eq_none hy nofun⟩

theorem asks_of_general (h : t.general c = true) {x : Setting}
    (hx : x ∈ [Setting.quiet, .noTable, .noGroups, .count]) : t.asks c x = false := by
  obtain ⟨y, hy, hkind⟩ := setting?_of_general h
  refine asks_eq_false hy ?_
  rintro rfl
  rcases hkind with rfl | rfl | ⟨f, rfl⟩ <;> simp at hx

end Token

variable {c : Command} {ts ts' : List Token}

/-- **What is said of all patterns** can be moved, repeated and written in another form:
two command lines set the same if they agree but for that, and what is said of all
patterns comes to the same in both. -/
theorem readTokens_respelled (h : (readTokens c .default ts).stop = none)
    (hothers : (ts'.filter fun t => !t.general c) = ts.filter fun t => !t.general c)
    (hflags : ∀ f, f ∈ ts'.filterMap (Token.flag? c) ↔ f ∈ ts.filterMap (Token.flag? c))
    (hfixed : ts'.any (Token.asks c .fixedStrings) = ts.any (Token.asks c .fixedStrings)) :
    readTokens c .default ts' = readTokens c .default ts := by
  have hgeneral {t : Token} (ht : (!t.general c) = false) : t.general c = true := by
    rwa [Bool.not_eq_false'] at ht
  have hstop := stop_eq_of_filter hothers (fun t ht => t.free_of_general (hgeneral ht)) .default
  have hsame {α : Type} {f : Token → Option α} (hf : ∀ t, t.general c = true → f t = none) :
      ts'.filterMap f = ts.filterMap f :=
    filterMap_eq_of_filter hothers fun t ht => hf t (hgeneral ht)
  have hask (x : Setting) (hx : x ∈ [Setting.quiet, .noTable, .noGroups, .count]) :
      ts'.any (Token.asks c x) = ts.any (Token.asks c x) :=
    any_eq_of_filter hothers fun t ht => t.asks_of_general (hgeneral ht) hx
  have hset : FlagSet.ofList (ts'.filterMap (Token.flag? c)) =
      .ofList (ts.filterMap (Token.flag? c)) := by
    ext f
    rw [FlagSet.contains_ofList, FlagSet.contains_ofList, Bool.eq_iff_iff, List.contains_iff_mem,
      List.contains_iff_mem, hflags]
  rw [readTokens_eq_ofTokens (hstop.trans h), readTokens_eq_ofTokens h, Settings.ofTokens,
    Settings.ofTokens, hask .quiet (by decide), hask .noTable (by decide),
    hask .noGroups (by decide), hask .count (by decide), hfixed, hset,
    hsame fun t ht => (t.silent_of_general ht).1, hsame fun t ht => (t.silent_of_general ht).2.1,
    hsame fun t ht => (t.silent_of_general ht).2.2.1,
    hsame fun t ht => (t.silent_of_general ht).2.2.2]

/-! ## Where patterns come from -/

variable {files : Files}

theorem allPatterns_append (a b : List PatternSource) :
    allPatterns files (a ++ b) =
      allPatterns files a >>= fun x => (allPatterns files b).map (x ++ ·) := by
  rw [allPatterns, List.mapM_append, allPatterns, allPatterns]
  rcases a.mapM (PatternSource.patterns files) with m | x
  · rfl
  · rcases b.mapM (PatternSource.patterns files) with m | y
    · rfl
    · exact congrArg Except.ok List.flatten_append

theorem allPatterns_given (ps : List String) :
    allPatterns files (ps.map PatternSource.given) = .ok ps := by
  induction ps with
  | nil => rfl
  | cons p ps ih =>
    rw [List.map_cons, ← List.singleton_append, allPatterns_append, ih]
    rfl

theorem allPatterns_file (path : Bytes) :
    allPatterns files [.file path] =
      (about ("failed to read " ++ Text.lossy path) (files path).readText).map patternsOfText := by
  rw [allPatterns, List.mapM_cons, List.mapM_nil, PatternSource.patterns]
  rcases (files path).readText with m | text
  · rfl
  · exact congrArg Except.ok (List.append_nil _)

theorem textOf_bytesOf (p : String) : textOf (bytesOf p) = .ok p := by
  simp only [textOf, bytesOf, Text.decode?_encode, String.ofList_toList]

namespace Token

/-- Whether a part says nothing of where patterns come from. -/
def sourceless (c : Command) (t : Token) : Bool := (t.source? c).isNone

variable {t : Token}

theorem exists_source (h : t.sourceless c = false) : ∃ p, t.source? c = some p :=
  Option.isSome_iff_exists.1 (by rw [← Option.not_isNone, ← sourceless, h, Bool.not_false])

theorem free_of_source (h : t.sourceless c = false) : t.Free c :=
  (exists_source h).elim fun _ => free_of_source?

/-- What a part says of where patterns come from is all that it says. -/
theorem silent_of_source (h : t.sourceless c = false) :
    t.flag? c = none ∧ t.limit? c = none ∧ t.rounds? c = none := by
  obtain ⟨p, hp⟩ := exists_source h
  rcases setting?_of_source? hp with hset | hset | ⟨value, rfl, -⟩
  · exact ⟨flag?_eq_none hset nofun nofun, limit?_eq_none hset nofun, rounds?_eq_none hset nofun⟩
  · exact ⟨flag?_eq_none hset nofun nofun, limit?_eq_none hset nofun, rounds?_eq_none hset nofun⟩
  · exact ⟨rfl, rfl, rfl⟩

theorem asks_of_source (h : t.sourceless c = false) (x : Setting) : t.asks c x = false := by
  cases t with
  | flag name => cases h
  | _ => rfl

end Token

/-- The part that names one pattern by an option. -/
theorem source?_patternOption {name : Name} (hname : c.setting? name = some .pattern) (p : String) :
    (Token.option name (bytesOf p)).source? c = some (.given p) := by
  simp only [Token.source?, hname, textOf_bytesOf]
  rfl

theorem ofName?_name (f : Flag) : Flag.ofName? f.name = .ok f := by
  cases f <;> rfl

/-- Each name of an option stands for it. -/
theorem setting?_of_hasName {o : OptionEntry} (ho : o ∈ c.options) {name : Name}
    (hname : o.hasName name = true) : c.setting? name = some o.setting := by
  have hnames : ∀ c : Command, (c.options.all fun o =>
      c.setting? (.long o.long) == some o.setting &&
        o.short?.all fun x => c.setting? (.short x) == some o.setting) = true := by
    intro c
    cases c <;> rfl
  have hnamed := List.all_eq_true.1 (hnames c) o ho
  rw [Bool.and_eq_true, beq_iff_eq] at hnamed
  cases name with
  | short x =>
    have hshort := hnamed.2
    rw [beq_iff_eq.1 hname, Option.all_some, beq_iff_eq] at hshort
    exact hshort
  | long long =>
    obtain rfl := beq_iff_eq.1 hname
    exact hnamed.1

/-- **The forms of a flag** all set it: each name of its option, -/
theorem flag?_of_hasName {o : OptionEntry} (ho : o ∈ c.options) {name : Name}
    (hname : o.hasName name = true) {f : Flag} (hf : o.setting = .flag f) :
    (Token.flag name).flag? c = some f := by
  simp only [Token.flag?, setting?_of_hasName ho hname, hf]

/-- and its name behind the option for flags by name. -/
theorem flag?_of_name (hc : c ≠ .version) (f : Flag) :
    (Token.option (.long "flag") (bytesOf f.name)).flag? c = some f := by
  have hnamed : c.setting? (.long "flag") = some .namedFlag := by
    cases c
    case version => exact absurd rfl hc
    all_goals decide +kernel
  simp only [Token.flag?, hnamed, parsed, textOf_bytesOf, bind, Except.bind, ofName?_name]
  rfl

/-! ## Command lines -/

/-- The parts of the arguments of a command. -/
def Command.parts (c : Command) (arguments : List Bytes) (allPositional : Bool) : List Token :=
  if allPositional then arguments.map .positional else tokens c.takesValue arguments

/-- A command line names a command and is split into parts behind it. -/
def Splits (arguments : List Bytes) (c : Command) (ts : List Token) : Prop :=
  ∃ name rest allPositional, first arguments = .command name rest allPositional ∧
    commandOf name = .ok c ∧ c.parts rest allPositional = ts

/-- What a command line comes to, given its parts. -/
theorem run_of_splits {arguments : List Bytes} (h : Splits arguments c ts) (builder : Builder) :
    run files arguments builder = runReading builder files c (readTokens c .default ts) := by
  obtain ⟨name, rest, allPositional, hfirst, hcommand, rfl⟩ := h
  simp only [run, readLine, hfirst, hcommand]
  rfl

/-- The expressions that a command line is about, unless it is refused. -/
def commandExpressions (files : Files) (c : Command) (ts : List Token) :
    Except String (List Expression) := do
  let r := readTokens c .default ts
  let patterns ← allPatterns files r.settings.patterns
  match r.stop with
  | some message => .error message
  | none => r.settings.expressions patterns

/-- What a command does with expressions. -/
def Command.carryOut (builder : Builder) (files : Files) (s : Settings) (es : List Expression) :
    Command → Try Report
  | .info => runInfo builder s es
  | .scan => runScan builder files s es
  | .validate => runValidate builder s es
  | .version => return versionReport builder

/-- Nothing is done with where patterns came from. -/
theorem carryOut_patterns (builder : Builder) (s : Settings) (sources : List PatternSource)
    (es : List Expression) :
    c.carryOut builder files { s with patterns := sources } es =
      c.carryOut builder files s es := by
  cases c <;> rfl

/-- The command lines whose expressions are known: none of their parts is refused, all
their files can be read, and they name some pattern. -/
theorem commandExpressions_eq_ok {es : List Expression} :
    commandExpressions files c ts = .ok es ↔
      (readTokens c .default ts).stop = none ∧
        ∃ patterns, allPatterns files (ts.filterMap (Token.source? c)) = .ok patterns ∧
          patterns ≠ [] ∧ es = patterns.map (Settings.ofTokens c ts).expression := by
  constructor
  · intro h
    rw [commandExpressions] at h
    rcases hpatterns : allPatterns files (readTokens c .default ts).settings.patterns with m | ps
    · rw [hpatterns] at h
      cases h
    rw [hpatterns] at h
    rcases hstop : (readTokens c .default ts).stop with _ | m
    · rw [readTokens_eq_ofTokens hstop] at h hpatterns
      refine ⟨rfl, ps, hpatterns, ?_⟩
      change (Settings.ofTokens c ts).expressions ps = _ at h
      rw [Settings.expressions] at h
      split at h
      · cases h
      · next hsome => exact ⟨fun hnil => hsome (hnil ▸ rfl), (Except.ok.inj h).symm⟩
    · simp only [hstop] at h
      cases h
  · rintro ⟨hstop, ps, hpatterns, hsome, rfl⟩
    rw [commandExpressions, readTokens_eq_ofTokens hstop]
    change allPatterns files (ts.filterMap (Token.source? c)) >>= _ = _
    rw [hpatterns]
    change (Settings.ofTokens c ts).expressions ps = _
    rw [Settings.expressions, if_neg fun hnil => hsome (List.isEmpty_iff.1 hnil)]

/-- **What a command line comes to**: the command is carried out with the expressions, if
there are any to be had. -/
theorem run_eq_carryOut (builder : Builder) (files : Files) (hc : c ≠ .version)
    {arguments : List Bytes} (hts : Splits arguments c ts) :
    run files arguments builder =
      match commandExpressions files c ts with
      | .error message => .failed message
      | .ok es => reported (c.carryOut builder files (.ofTokens c ts) es) := by
  rw [run_of_splits hts builder, runReading, commandExpressions]
  rcases hpatterns : allPatterns files (readTokens c .default ts).settings.patterns with m | ps
  · rfl
  rcases hstop : (readTokens c .default ts).stop with _ | m
  · rw [readTokens_eq_ofTokens hstop]
    cases c with
    | version => exact absurd rfl hc
    | _ =>
      simp only [runCommand, bind, Except.bind]
      cases (Settings.ofTokens _ ts).expressions ps <;> rfl
  · rfl

/-! ### A file and its lines -/

/-- The parts that name patterns one by one, by an option. -/
def patternParts (name : Name) (ps : List String) : List Token :=
  ps.map fun p => .option name (bytesOf p)

section Unfiled

variable {before after : List Token} {f p : Name} {path : Bytes}

theorem source?_patternParts (hp : c.setting? p = some .pattern) (ps : List String) :
    (patternParts p ps).filterMap (Token.source? c) = ps.map .given := by
  induction ps with
  | nil => rfl
  | cons q ps ih => exact (List.filterMap_cons_some (source?_patternOption hp q)).trans (ih ▸ rfl)

/-- Parts that say nothing of where patterns come from are all that is left of a file or
of its lines. -/
theorem filter_unfiled (hf : c.setting? f = some .patternFile) (hp : c.setting? p = some .pattern)
    (path : Bytes) (ps : List String) :
    (before ++ patternParts p ps ++ after).filter (Token.sourceless c) =
      (before ++ .option f path :: after).filter (Token.sourceless c) := by
  have hlines : (patternParts p ps).filter (Token.sourceless c) = [] := by
    refine List.filter_eq_nil_iff.2 fun t ht => ?_
    obtain ⟨q, -, rfl⟩ := List.mem_map.1 ht
    rw [Token.sourceless, source?_patternOption hp q]
    exact Bool.false_ne_true
  have hfile : ¬ (Token.option f path).sourceless c = true := by
    simp only [Token.sourceless, Token.source?, hf, Option.isNone_some, Bool.false_eq_true,
      not_false_eq_true]
  rw [List.append_assoc, List.filter_append, List.filter_append, List.filter_append, hlines,
    List.filter_cons_of_neg hfile, List.nil_append]

/-- Command lines that agree but for where patterns come from set the same but for
that. -/
theorem ofTokens_of_filter (h : ts'.filter (Token.sourceless c) = ts.filter (Token.sourceless c)) :
    Settings.ofTokens c ts' =
      { Settings.ofTokens c ts with patterns := ts'.filterMap (Token.source? c) } := by
  have hask (x : Setting) : ts'.any (Token.asks c x) = ts.any (Token.asks c x) :=
    any_eq_of_filter h fun t ht => t.asks_of_source ht x
  simp only [Settings.ofTokens, hask,
    filterMap_eq_of_filter h fun t ht => (t.silent_of_source ht).1,
    filterMap_eq_of_filter h fun t ht => (t.silent_of_source ht).2.1,
    filterMap_eq_of_filter h fun t ht => (t.silent_of_source ht).2.2,
    filterMap_eq_of_filter h fun t ht => (t.free_of_source ht).haystack]

/-- **A file of patterns** is as good as its lines one by one. -/
theorem commandExpressions_unfiled {es : List Expression}
    (h : commandExpressions files c (before ++ .option f path :: after) = .ok es)
    (hf : c.setting? f = some .patternFile) :
    ∃ text, (files path).readText = .ok text ∧ ∀ p, c.setting? p = some .pattern →
      commandExpressions files c (before ++ patternParts p (patternsOfText text) ++ after) =
        .ok es := by
  obtain ⟨hstop, ps, hpatterns, hsome, rfl⟩ := commandExpressions_eq_ok.1 h
  have hfile : (Token.option f path).source? c = some (.file path) := by
    simp only [Token.source?, hf]
  rw [List.filterMap_append, List.filterMap_cons_some hfile, ← List.singleton_append,
    allPatterns_append, allPatterns_append, allPatterns_file] at hpatterns
  rcases htext : (files path).readText with m | text
  · rw [htext] at hpatterns
    rcases hbefore : allPatterns files (before.filterMap (Token.source? c)) with m' | x
    · rw [hbefore] at hpatterns
      cases hpatterns
    · rw [hbefore] at hpatterns
      cases hpatterns
  refine ⟨text, rfl, fun p hp => commandExpressions_eq_ok.2 ⟨?_, ps, ?_, hsome, ?_⟩⟩
  · refine (stop_eq_of_filter (filter_unfiled hf hp path _) ?_ _).trans hstop
    exact fun t => t.free_of_source
  · rw [List.append_assoc, List.filterMap_append, List.filterMap_append, source?_patternParts hp,
      allPatterns_append, allPatterns_append, allPatterns_given, ← hpatterns, htext]
    rfl
  · rw [ofTokens_of_filter (filter_unfiled hf hp path _)]
    rfl

end Unfiled

/-! ### The text to scan -/

/-- Something that fails whatever it works with. -/
def Hopeless {α : Type} (t : Try α) : Prop := ∀ w, ∃ m, (t.run w).1 = .error m

theorem run_bind {α β : Type} (x : Try α) (f : α → Try β) (w : World Builtin.Heap) :
    (x >>= f).run w = match x.run w with
      | (.ok a, w') => (f a).run w'
      | (.error m, w') => (.error m, w') := by
  change (ExceptT.bind x f).run w = _
  simp only [ExceptT.bind, ExceptT.run, ExceptT.mk, bind, StateT.bind, ExceptT.bindCont]
  rcases x w with ⟨m | a, w'⟩ <;> rfl

theorem hopeless_bind {α β : Type} {f : α → Try β} (h : ∀ a, Hopeless (f a)) (x : Try α) :
    Hopeless (x >>= f) := by
  intro w
  rw [run_bind]
  rcases x.run w with ⟨m | a, w'⟩
  · exact ⟨m, rfl⟩
  · exact h a w'

theorem hopeless_of_error {α β : Type} (m : String) (f : α → Try β) :
    Hopeless (ExceptT.mk (pure (.error m)) >>= f) := fun _ => ⟨m, rfl⟩

theorem failure_of_hopeless {t : Try Report} (h : Hopeless t) : (reported t).failure ≠ none := by
  obtain ⟨m, hm⟩ := h Builtin.world
  simp only [reported, hm]
  exact nofun

/-- There is no scan without a haystack. -/
theorem hopeless_of_no_haystack (builder : Builder) (files : Files) {s : Settings}
    (h : s.haystack = none) (es : List Expression) : Hopeless (runScan builder files s es) := by
  rw [runScan]
  refine hopeless_bind (fun d => ?_) _
  refine hopeless_bind (fun size => ?_) _
  refine hopeless_bind (fun scanner => ?_) _
  refine hopeless_bind (fun scratch => ?_) _
  simp only [Settings.haystackText, h]
  exact hopeless_of_error _ _

/-! ## The main statement -/

/-- **Patterns and what is said of them are independent of each other.** A command line
that is not refused is carried out with the patterns that its parts name, in their
order: values of options, lines of files, and arguments. Each is read literally if any
part asks for that, and has all flags that any part sets.

So nothing changes if what is said of all patterns is moved, repeated or written in
another form of the same flag, and nothing changes if a file is replaced by its lines.
A scan has one haystack and no more. -/
theorem patterns_and_flags_independent (builder : Builder) (files : Files) {c : Command}
    (hc : c ≠ .version) {arguments : List Bytes} {ts : List Token} (hts : Splits arguments c ts)
    {es : List Expression} (h : commandExpressions files c ts = .ok es) :
    (run files arguments builder = reported (c.carryOut builder files (.ofTokens c ts) es) ∧
      ∃ patterns, allPatterns files (ts.filterMap (Token.source? c)) = .ok patterns ∧
        es = patterns.map fun p =>
          .ofPattern (literalPattern (ts.any (Token.asks c .fixedStrings)) p)
            (.ofList (ts.filterMap (Token.flag? c)))) ∧
    (∀ arguments' ts', Splits arguments' c ts' →
      (ts'.filter fun t => !t.general c) = (ts.filter fun t => !t.general c) →
      (∀ f, f ∈ ts'.filterMap (Token.flag? c) ↔ f ∈ ts.filterMap (Token.flag? c)) →
      ts'.any (Token.asks c .fixedStrings) = ts.any (Token.asks c .fixedStrings) →
      commandExpressions files c ts' = .ok es ∧
        run files arguments' builder = run files arguments builder) ∧
    ((∀ o ∈ c.options, ∀ name, o.hasName name = true →
        (∀ f, o.setting = .flag f → (Token.flag name).flag? c = some f) ∧
          (o.setting = .fixedStrings → (Token.flag name).asks c .fixedStrings = true)) ∧
      ∀ f, (Token.option (.long "flag") (bytesOf f.name)).flag? c = some f) ∧
    (∀ before name path after, ts = before ++ .option name path :: after →
      c.setting? name = some .patternFile →
      ∃ text, (files path).readText = .ok text ∧
        ∀ arguments' pattern, c.setting? pattern = some .pattern →
          Splits arguments' c (before ++ patternParts pattern (patternsOfText text) ++ after) →
          commandExpressions files c
              (before ++ patternParts pattern (patternsOfText text) ++ after) = .ok es ∧
            run files arguments' builder = run files arguments builder) ∧
    ((ts.filterMap (Token.haystack? c)).length ≤ 1 ∧
      (c = .scan → (run files arguments builder).failure = none →
        (ts.filterMap (Token.haystack? c)).length = 1)) := by
  have hrun := run_eq_carryOut builder files hc hts
  rw [h] at hrun
  obtain ⟨hstop, ps, hpatterns, hsome, hes⟩ := commandExpressions_eq_ok.1 h
  refine ⟨⟨hrun, ps, hpatterns, hes⟩, ?respelled, ⟨?forms, flag?_of_name hc⟩, ?unfiled,
    haystacks_le_one hstop, ?haystack⟩
  case respelled =>
    intro arguments' ts' hts' hothers hflags hfixed
    have hsame := readTokens_respelled hstop hothers hflags hfixed
    refine ⟨?_, ?_⟩
    · rw [commandExpressions, hsame]
      exact h
    · rw [run_of_splits hts' builder, hsame, run_of_splits hts builder]
  case forms =>
    intro o ho name hname
    refine ⟨fun f hf => flag?_of_hasName ho hname hf, fun hfixed => ?_⟩
    rw [Token.asks, setting?_of_hasName ho hname, hfixed]
    rfl
  case unfiled =>
    rintro before name path after rfl hname
    obtain ⟨text, htext, hunfiled⟩ := commandExpressions_unfiled h hname
    refine ⟨text, htext, fun arguments' pattern hpattern hts' => ?_⟩
    have hes' := hunfiled pattern hpattern
    refine ⟨hes', ?_⟩
    rw [run_eq_carryOut builder files hc hts', hes', hrun]
    dsimp only
    rw [ofTokens_of_filter (filter_unfiled hname hpattern path _), carryOut_patterns]
  case haystack =>
    rintro rfl hsucceeded
    have hle := haystacks_le_one hstop
    refine Nat.le_antisymm hle (Nat.pos_of_ne_zero fun hzero => ?_)
    refine failure_of_hopeless (hopeless_of_no_haystack builder files ?_ es) (hrun ▸ hsucceeded)
    rw [Settings.ofTokens, List.eq_nil_of_length_eq_zero hzero]
    rfl

/-- A scan for the lines of a file, read literally and with a flag. The same comes of it
if the flag is given by name, twice, and behind the file. -/
theorem independent_of_caseless :
    let files := findIn [(bytesOf "list", bytesOf "a.b\n\nc\n")]
    let arguments := ["scan", "-iF", "-f", "list", "-y", "ab"].map bytesOf
    let moved := ["scan", "-f", "list", "--flag", "caseless", "-y", "ab", "-iF"].map bytesOf
    let es := ["a\\.b", "c"].map (Expression.ofPattern · (.ofList [.caseless]))
    let ts : List Token := [.flag (.short 'i'), .flag (.short 'F'),
      .option (.short 'f') (bytesOf "list"), .option (.short 'y') (bytesOf "ab")]
    Splits arguments .scan ts ∧ commandExpressions files .scan ts = .ok es ∧
      run files moved = run files arguments := by
  intro files arguments moved es ts
  let ts' : List Token := [.option (.short 'f') (bytesOf "list"),
    .option (.long "flag") (bytesOf "caseless"), .option (.short 'y') (bytesOf "ab"),
    .flag (.short 'i'), .flag (.short 'F')]
  have hts : Splits arguments .scan ts := ⟨bytesOf "scan", _, false, rfl, rfl, by decide +kernel⟩
  have hts' : Splits moved .scan ts' := ⟨bytesOf "scan", _, false, rfl, rfl, by decide +kernel⟩
  have hes : commandExpressions files .scan ts = .ok es := by rfl
  have h := (patterns_and_flags_independent .estimate (c := .scan) files nofun hts hes).2.1 moved
    ts' hts' (by decide +kernel) (fun f => by cases f <;> decide +kernel) (by decide +kernel)
  exact ⟨hts, hes, h.2⟩

end Multiscan.Cli
