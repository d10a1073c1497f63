import Multiscan.Proofs.Cli.Scanning
import Multiscan.Proofs.Text.Escaped
/-!
# Command line — the text of a scan

A text given in an argument, in escaped form, is scanned like a file that holds it
(`run_escaped`): readings that name the same text in one way or the other agree in all
else that they set (`Settings.SameText`). And what is printed of a match can be read back
from its line (`ofLine?_matchLine`), whatever characters its text has. The main statement
is `scan_faithful_to_text`.
-/

namespace Multiscan.Cli

open Builtin Engine
open Text (Bytes bytesOf)

variable {builder : Builder} {files : Files} {s s' : Settings} {c : Command} {t : Token}
variable {name : Name}

/-! ## The same text from elsewhere -/

/-- Settings that differ in nothing but where the text to scan comes from, and it is the
same text. -/
structure Settings.SameText (files : Files) (s s' : Settings) : Prop where
  others : s' = { s with haystack := s'.haystack }
  isSome : s'.haystack.isSome = s.haystack.isSome
  text : s'.haystackText files = s.haystackText files

namespace Settings.SameText

/-- They still do after one more part. -/
theorem after (h : SameText files s s') (t : Token) :
    SameText files (s.after c t) (s'.after c t) := by
  obtain ⟨hothers, hsome, htext⟩ := h
  generalize s'.haystack = y at hothers hsome
  subst hothers
  refine ⟨rfl, ?_, ?_⟩
  · simp only [Settings.after]
    cases t.haystack? c
    · exact hsome
    · rfl
  · simp only [Settings.after, haystackText]
    cases t.haystack? c
    · exact htext
    · rfl

/-- And after all parts, of which the same one is refused. -/
theorem readTokens (h : SameText files s s') (ts : List Token) :
    (readTokens c s' ts).stop = (readTokens c s ts).stop ∧
      SameText files (readTokens c s ts).settings (readTokens c s' ts).settings := by
  induction ts generalizing s s' with
  | nil => exact ⟨rfl, h⟩
  | cons t ts ih =>
    have hmap := setToken_map h.isSome t (c := c)
    rcases hset : setToken c s t with m | u
    · rw [hset] at hmap
      rw [readTokens_cons_error hset, readTokens_cons_error hmap]
      exact ⟨rfl, h⟩
    · rw [hset] at hmap
      rw [readTokens_cons_ok hset, readTokens_cons_ok hmap, eq_after_of_setToken hset]
      exact ih (h.after t)

/-- **A scan asks for the text** and not for where it comes from. -/
theorem runScan (h : SameText files s s') (es : List Expression) :
    runScan builder files s' es = runScan builder files s es := by
  obtain ⟨hothers, -, htext⟩ := h
  generalize s'.haystack = y at hothers
  subst hothers
  simp only [Cli.runScan, htext]
  rfl

/-- **A command line is carried out alike** in readings that end alike and set the same but
for where the text comes from. -/
theorem runReading {r r' : Reading} (h : SameText files r.settings r'.settings)
    (hstop : r'.stop = r.stop) :
    runReading builder files .scan r' = runReading builder files .scan r := by
  have hpatterns : r'.settings.patterns = r.settings.patterns := by rw [h.others]
  have hexpressions (ps : List String) : r'.settings.expressions ps = r.settings.expressions ps := by
    rw [h.others]
    rfl
  simp only [Cli.runReading, hpatterns, hstop, runCommand, hexpressions, h.runScan]

end Settings.SameText

/-! ## Parts that name the text -/

/-- A part that is refused if there is a haystack already, and names one otherwise. -/
def Token.Names (t : Token) (y : HaystackSource) : Prop :=
  ∀ s, setToken .scan s t = (needNoHaystack s).map fun _ => { s with haystack := some y }

/-- **Where the text comes from** can be told by one part or by another in its place. -/
theorem Settings.SameText.swapped {t t' : Token} {y y' : HaystackSource} (ht : t.Names y)
    (ht' : t'.Names y')
    (hsame : ∀ s : Settings, SameText files { s with haystack := some y }
      { s with haystack := some y' }) (s : Settings) (before after : List Token) :
    (Cli.readTokens .scan s (before ++ t' :: after)).stop =
        (Cli.readTokens .scan s (before ++ t :: after)).stop ∧
      SameText files (Cli.readTokens .scan s (before ++ t :: after)).settings
        (Cli.readTokens .scan s (before ++ t' :: after)).settings := by
  induction before generalizing s with
  | nil =>
    have hset := ht s
    have hset' := ht' s
    rcases hneed : needNoHaystack s with m | u
    · rw [hneed] at hset hset'
      rw [List.nil_append, List.nil_append, readTokens_cons_error hset,
        readTokens_cons_error hset']
      exact ⟨rfl, rfl, rfl, rfl⟩
    · rw [hneed] at hset hset'
      rw [List.nil_append, List.nil_append, readTokens_cons_ok hset, readTokens_cons_ok hset']
      exact (hsame s).readTokens after
  | cons u before ih =>
    rcases hset : setToken .scan s u with m | s'
    · rw [List.cons_append, List.cons_append, readTokens_cons_error hset,
        readTokens_cons_error hset]
      exact ⟨rfl, rfl, rfl, rfl⟩
    · rw [List.cons_append, List.cons_append, readTokens_cons_ok hset, readTokens_cons_ok hset]
      exact ih s'

/-- A text as it is written in an argument. -/
def escaped (text : String) : String := String.ofList (Text.escape text.toList)

theorem unescapeHaystack_escaped (text : String) : unescapeHaystack (escaped text) = .ok text := by
  simp only [unescapeHaystack, escaped, String.toList_ofList, Text.unescape_escape,
    Text.decode?_encode, String.ofList_toList]

/-- The option for a haystack with a text in escaped form names that text. -/
theorem names_escaped (hname : Command.scan.setting? name = some .haystack) (text : String) :
    (Token.option name (bytesOf (escaped text))).Names (.given text) := by
  intro s
  obtain ⟨o, ho, hsetting⟩ := exists_entry hname
  rw [setToken, ho]
  change setValueOption s (bytesOf (escaped text)) o.setting = _
  rw [hsetting]
  simp only [setValueOption, textOf_bytesOf, about, Except.mapError, bind, Except.bind,
    unescapeHaystack_escaped]
  rcases needNoHaystack s with m | u <;> rfl

/-- An argument names the file at that path. -/
theorem names_positional (path : Bytes) : (Token.positional path).Names (.file path) := by
  intro s
  rw [setToken, setPositional]
  rcases needNoHaystack s with m | u <;> rfl

/-- **A text in an argument is as good as a file** that holds it. -/
theorem run_escaped {arguments arguments' : List Bytes} {before after : List Token} {path : Bytes}
    {text : String} (hname : Command.scan.setting? name = some .haystack)
    (hinline : Splits arguments .scan
      (before ++ .option name (bytesOf (escaped text)) :: after))
    (hfile : Splits arguments' .scan (before ++ .positional path :: after))
    (hpath : files path = .file (bytesOf text)) :
    run files arguments builder = run files arguments' builder := by
  have hsame (s : Settings) : Settings.SameText files { s with haystack := some (.file path) }
      { s with haystack := some (.given text) } := by
    refine ⟨rfl, rfl, ?_⟩
    simp only [Settings.haystackText, hpath, Found.haystack, Found.openFault, bytesOf,
      Text.decode?_encode, String.ofList_toList]
  obtain ⟨hstop, hsettings⟩ := Settings.SameText.swapped (names_positional path)
    (names_escaped hname text) hsame .default before after
  rw [run_of_splits hinline builder, run_of_splits hfile builder]
  exact hsettings.runReading hstop

/-- Both names of the option take the next argument for the haystack. -/
theorem tokens_haystack {option : String} (hoption : option ∈ ["-y", "--haystack"])
    (value : Bytes) (rest : List Bytes) :
    ∃ name, Command.scan.setting? name = some .haystack ∧
      tokens Command.scan.takesValue (bytesOf option :: value :: rest) =
        .option name value :: tokens Command.scan.takesValue rest := by
  simp only [List.mem_cons, List.not_mem_nil, or_false] at hoption
  rcases hoption with rfl | rfl
  · have hvalue : Command.scan.takesValue (.short 'y') = true := by decide +kernel
    have hshape : shape (bytesOf "-y") = .shorts [121] := rfl
    have hfirst : firstChar [121] = ('y', 1) := rfl
    have hgroup : shortGroup Command.scan.takesValue none [121] = ⟨[], some (.short 'y')⟩ := by
      rw [shortGroup]
      · simp only [hfirst, hvalue]
        rfl
      · exact fun _ h => by cases h
    refine ⟨.short 'y', by decide +kernel, ?_⟩
    simp only [tokens, hshape, hgroup, List.nil_append]
  · have hvalue : Command.scan.takesValue (.long "haystack") = true := by decide +kernel
    have hshape : shape (bytesOf "--haystack") = .long (.long "haystack") none := rfl
    refine ⟨.long "haystack", by decide +kernel, ?_⟩
    simp only [tokens, hshape, hvalue, if_true]

/-- A path that does not begin with a dash is no option. -/
theorem tokens_path {path : Bytes} (hpath : path.toList.head? ≠ some 45) (rest : List Bytes) :
    tokens Command.scan.takesValue (path :: rest) =
      .positional path :: tokens Command.scan.takesValue rest := by
  have hshape : shape path = .positional := by
    rw [shape]
    split
    all_goals first | rfl | next heq => exact absurd (congrArg List.head? heq) hpath
  simp only [tokens, hshape]

/-! ## Lines of matches -/

/-- What a line tells of a match. -/
structure Told where
  id : Nat
  start : Nat
  stop : Nat
  text : Option String
  deriving DecidableEq, Repr

/-- What is told of a match. -/
def told (m : Match) : Told := ⟨m.id, m.start, m.stop, m.text⟩

/-- The number at the start of some text, and what stands behind it. -/
def readNumber (cs : List Char) : Nat × List Char :=
  (Nat.ofDigitChars 10 (cs.takeWhile Char.isDigit) 0, cs.dropWhile Char.isDigit)

/-- What a line tells, read back: three numbers and, behind a third colon, a text in escaped
form. -/
def Told.ofLine? (line : String) : Option Told :=
  match readNumber line.toList with
  | (id, ':' :: cs) =>
    match readNumber cs with
    | (start, ':' :: cs) =>
      match readNumber cs with
      | (stop, []) => some ⟨id, start, stop, none⟩
      | (stop, ':' :: cs) =>
        (Text.decode? (Text.unescape cs).toArray).map fun text =>
          ⟨id, start, stop, some (String.ofList text)⟩
      | _ => none
    | _ => none
  | _ => none

theorem isDigit_of_mem_repr {n : Nat} {x : Char} (h : x ∈ (Nat.repr n).toList) :
    x.isDigit = true := by
  rw [Nat.toList_repr] at h
  exact Nat.isDigit_of_mem_toDigits (by decide) (by decide) h

/-- A number is read back, and what stands behind it is left, unless that begins with a
digit. -/
theorem readNumber_repr (n : Nat) {rest : List Char}
    (hrest : ∀ x ∈ rest.head?, x.isDigit = false) :
    readNumber ((Nat.repr n).toList ++ rest) = (n, rest) := by
  have hdigits : ∀ x ∈ (Nat.repr n).toList, x.isDigit = true := fun x => isDigit_of_mem_repr
  have hend : rest.takeWhile Char.isDigit = [] ∧ rest.dropWhile Char.isDigit = rest := by
    rcases rest with _ | ⟨x, rest⟩
    · exact ⟨rfl, rfl⟩
    · have hx : ¬ x.isDigit = true := Bool.eq_false_iff.1 (hrest x rfl)
      exact ⟨List.takeWhile_cons_of_neg hx, List.dropWhile_cons_of_neg hx⟩
  rw [readNumber, List.takeWhile_append_of_pos hdigits, List.dropWhile_append_of_pos hdigits,
    hend.1, hend.2, List.append_nil, Nat.toList_repr, Nat.ofDigitChars_ten_toDigits]

/-- What stands in the line of a match. -/
theorem toList_matchLine (m : Match) :
    (matchLine m).toList = (Nat.repr m.id).toList ++ ':' :: ((Nat.repr m.start).toList ++ ':' ::
      ((Nat.repr m.stop).toList ++ m.text.elim [] fun text => ':' :: Text.escape text.toList)) := by
  have hcolon : (":" : String).toList = [':'] := rfl
  rw [matchLine]
  cases m.text <;>
    simp [String.toList_append, hcolon]

/-- **The line of a match is read back** as what it tells of the match. -/
theorem ofLine?_matchLine (m : Match) : Told.ofLine? (matchLine m) = some (told m) := by
  have hcolon {rest : List Char} : ∀ x ∈ (':' :: rest).head?, x.isDigit = false := by
    rintro _ ⟨⟩
    rfl
  rw [Told.ofLine?, toList_matchLine, readNumber_repr _ hcolon]
  simp only [readNumber_repr _ hcolon, told]
  rcases m.text with _ | text
  · have hend : ∀ x ∈ ([] : List Char).head?, x.isDigit = false := by
      rintro _ ⟨⟩
    simp only [Option.elim_none, readNumber_repr m.stop hend]
  · simp only [Option.elim_some, readNumber_repr _ hcolon, Text.unescape_escape,
      Text.decode?_encode, Option.map_some, String.ofList_toList]

/-- It is one line. -/
theorem shows_of_mem_matchLine {m : Match} {x : Char} (h : x ∈ (matchLine m).toList) :
    Text.shows x = true := by
  have hdigit {n : Nat} {y : Char} (hy : y ∈ (Nat.repr n).toList) : Text.shows y = true := by
    have hdigit := isDigit_of_mem_repr hy
    simp only [Char.isDigit, Bool.and_eq_true, decide_eq_true_eq, UInt32.le_iff_toNat_le,
      ge_iff_le] at hdigit
    simp only [Text.shows, Bool.not_eq_true', Bool.or_eq_false_iff, decide_eq_false_iff_not,
      Char.toNat]
    change 48 ≤ y.val.toNat ∧ y.val.toNat ≤ 57 at hdigit
    omega
  simp only [toList_matchLine, List.mem_append, List.mem_cons] at h
  rcases h with hid | rfl | hstart | rfl | hstop | htext
  · exact hdigit hid
  · rfl
  · exact hdigit hstart
  · rfl
  · exact hdigit hstop
  · rcases hm : m.text with _ | text
    · rw [hm] at htext
      cases htext
    · rw [hm] at htext
      rcases List.mem_cons.1 htext with rfl | hescaped
      · rfl
      · exact Text.shows_of_mem_escape hescaped

/-! ## The main statement -/

variable {arguments : List Bytes} {ts : List Token}

/-- A report on a scan comes without a failure. -/
theorem failure_of_runScan {es : List Expression} {r : Report} {w : World Heap}
    (h : ((Cli.runScan builder files s es).run w).1 = .ok r) : r.failure = none := by
  obtain ⟨hes, hcount, jobs, patterns, text, hjobs, hpatterns, htext, hsize⟩ := exists_of_runScan h
  obtain ⟨ms, hms, -⟩ := translateAll_orderedEvents (h := none) hcount hjobs hpatterns text
  rw [runScan_eq hes hcount hjobs hpatterns htext hsize hms] at h
  obtain rfl := Except.ok.inj h
  rfl

/-- A scan that fails tells of no match. -/
theorem lines_of_failure (hts : Splits arguments .scan ts)
    (h : (run files arguments builder).failure ≠ none) :
    (run files arguments builder).lines = [] := by
  rw [run_eq_carryOut builder (c := .scan) files (by decide) hts] at h ⊢
  rcases hexpressions : commandExpressions files .scan ts with m | es
  · rfl
  · rw [hexpressions] at h
    dsimp only [Command.carryOut] at h ⊢
    rcases hr : ((Cli.runScan builder files (.ofTokens .scan ts) es).run Builtin.world).1 with m | r
    · rw [reported, hr]
      rfl
    · rw [reported_eq hr] at h
      exact absurd (failure_of_runScan hr) h

/-- Every pattern of a command line has the flags that its parts set. -/
theorem contains_of_flag? {f : Flag} {es : List Expression}
    (h : commandExpressions files c ts = .ok es) (hf : f ∈ ts.filterMap (Token.flag? c)) :
    ∀ e ∈ es, e.flags.contains f = true := by
  obtain ⟨-, patterns, -, -, rfl⟩ := commandExpressions_eq_ok.1 h
  intro e he
  obtain ⟨p, -, rfl⟩ := List.mem_map.1 he
  change (FlagSet.ofList (ts.filterMap (Token.flag? c))).contains f = true
  rw [FlagSet.contains_ofList]
  exact List.contains_iff_mem.2 hf

/-- Every match stands for an event. -/
theorem exists_stands {d : Database} {text : String} {events : List Event} {ms : List Match}
    (h : List.Forall₂ (Scanner.Stands d text) events ms) :
    ∀ m ∈ ms, ∃ ev, Scanner.Stands d text ev m := by
  induction h with
  | nil => exact List.forall_mem_nil _
  | cons hstands _ ih => exact List.forall_mem_cons.2 ⟨⟨_, hstands⟩, ih⟩

/-- The line of a match that has a text. -/
theorem matchLine_of_text {m : Match} {text : String} (h : m.text = some text) :
    matchLine m = Nat.repr m.id ++ ":" ++ Nat.repr m.start ++ ":" ++ Nat.repr m.stop ++ ":" ++
      escaped text := by
  rw [matchLine, h, escaped]
  simp only [String.append_assoc]

/-- Matches on whose lines the same is printed are told alike. -/
theorem told_eq_of_matchLine {m m' : Match} (h : matchLine m' = matchLine m) :
    told m' = told m := by
  have hread := ofLine?_matchLine m'
  rw [h, ofLine?_matchLine m] at hread
  exact (Option.some.inj hread).symm

/-- **What a line ends with** stands for the characters of the match, if its text is asked
for. -/
theorem exists_line_of_stands {d : Database} {text : String} {ev : Event} {m : Match}
    (hstand : Scanner.Stands d text ev m)
    (hflag : m.expression.flags.contains .extractMatched = true) :
    ∃ x, matchLine m = Nat.repr m.id ++ ":" ++ Nat.repr m.start ++ ":" ++ Nat.repr m.stop ++
        ":" ++ x ∧
      m.text = some (String.ofList ((text.toList.drop m.start).take (m.stop - m.start))) ∧
      Text.unescape x.toList =
        Text.encode ((text.toList.drop m.start).take (m.stop - m.start)) := by
  have hmatched := hstand.matched
  rw [if_pos hflag] at hmatched
  refine ⟨_, matchLine_of_text hmatched, hmatched, ?_⟩
  rw [escaped, String.toList_ofList, Text.unescape_escape, String.toList_ofList]

/-- **A scan is faithful to its text.** A text in escaped form behind the option for a
haystack gives the same report as the path of a file that holds the text, wherever on a
command line it stands; escaped text has no blank or control character, so it can stand
there. And where the texts of matches are asked for, a line is printed for each match,
from which it can be read back and no other: its id, start, end and text, which stands
for the characters between start and end of the text that was scanned. -/
theorem scan_faithful_to_text (builder : Builder) (files : Files) :
    (∀ text path, files path = .file (bytesOf text) →
      (∀ arguments arguments' before name after, Command.scan.setting? name = some .haystack →
        Splits arguments .scan (before ++ .option name (bytesOf (escaped text)) :: after) →
        Splits arguments' .scan (before ++ .positional path :: after) →
        run files arguments builder = run files arguments' builder) ∧
      (path.toList.head? ≠ some 45 → ∀ option ∈ ["-y", "--haystack"], ∀ rest,
        run files (bytesOf "scan" :: bytesOf option :: bytesOf (escaped text) :: rest) builder =
          run files (bytesOf "scan" :: path :: rest) builder)) ∧
    (∀ text, ∀ x ∈ (escaped text).toList, Text.shows x = true) ∧
    ∀ arguments ts, Splits arguments .scan ts →
      Flag.extractMatched ∈ ts.filterMap (Token.flag? .scan) →
      ts.any (Token.asks .scan .quiet) = false → ts.any (Token.asks .scan .count) = false →
      let s := Settings.ofTokens .scan ts
      ∃ ms, (run files arguments builder).lines = ms.map matchLine ∧
        ((run files arguments builder).failure = none → ∃ es text events,
          commandExpressions files .scan ts = .ok es ∧ s.haystackText files = .ok text ∧
          ((once (s.engine builder) (!s.noGroups) es text).attempt Builtin.world).1 =
            .ok (ms, events)) ∧
        ∀ m ∈ ms, '\n' ∉ (matchLine m).toList ∧ Told.ofLine? (matchLine m) = some (told m) ∧
          (∀ m', matchLine m' = matchLine m → told m' = told m) ∧
          ∃ text x, s.haystackText files = .ok text ∧ m.start ≤ m.stop ∧ m.stop ≤ text.length ∧
            matchLine m = Nat.repr m.id ++ ":" ++ Nat.repr m.start ++ ":" ++ Nat.repr m.stop ++
              ":" ++ x ∧
            m.text = some (String.ofList ((text.toList.drop m.start).take (m.stop - m.start))) ∧
            Text.unescape x.toList =
              Text.encode ((text.toList.drop m.start).take (m.stop - m.start)) := by
  refine ⟨fun text path hpath => ⟨?anywhere, ?first⟩, ?shows, ?told⟩
  case anywhere =>
    intro arguments arguments' before name after hname hinline hfile
    exact run_escaped hname hinline hfile hpath
  case first =>
    intro hdash option hoption rest
    obtain ⟨name, hname, htokens⟩ := tokens_haystack hoption (bytesOf (escaped text)) rest
    have hinline : Splits (bytesOf "scan" :: bytesOf option :: bytesOf (escaped text) :: rest) .scan
        ([] ++ .option name (bytesOf (escaped text)) :: tokens Command.scan.takesValue rest) :=
      ⟨bytesOf "scan", _, false, rfl, rfl, htokens⟩
    exact run_escaped hname hinline
      ⟨bytesOf "scan", _, false, rfl, rfl, tokens_path hdash rest⟩ hpath
  case shows =>
    intro text x hx
    rw [escaped, String.toList_ofList] at hx
    exact Text.shows_of_mem_escape hx
  case told =>
    intro arguments ts hts hextract hquiet hcount s
    by_cases hsucceeded : (run files arguments builder).failure = none
    · obtain ⟨es, text, ms, events, patterns, hexpressions, htext, honce, d, rfl, hstands, hscan⟩ :=
        exists_scanned hts hsucceeded
      have hrun := run_eq_carryOut builder (c := .scan) files (by decide) hts
      rw [hexpressions] at hrun
      dsimp only [Command.carryOut] at hrun
      rw [reported_eq (hscan s rfl htext Builtin.world)] at hrun
      have hlines : scanLines s d.expressions.length ms = ms.map matchLine := by
        have hquiet' : s.quiet = false := hquiet
        have hcount' : s.count = false := hcount
        rw [scanLines, hquiet', hcount', if_neg Bool.false_ne_true, if_neg Bool.false_ne_true]
      refine ⟨ms, by rw [hrun, hlines], fun _ => ⟨_, _, _, hexpressions, htext, honce⟩,
        fun m hm => ⟨fun hline => absurd (shows_of_mem_matchLine hline) (by decide),
          ofLine?_matchLine m, fun m' => told_eq_of_matchLine, text, ?_⟩⟩
      obtain ⟨ev, hstand⟩ := exists_stands hstands m hm
      have hflag : m.expression.flags.contains .extractMatched = true :=
        contains_of_flag? hexpressions hextract _ (List.mem_of_getElem? hstand.expression)
      obtain ⟨x, hline, hmatched, hread⟩ := exists_line_of_stands hstand hflag
      exact ⟨x, htext, hstand.start_le, hstand.stop_le, hline, hmatched, hread⟩
    · exact ⟨[], lines_of_failure hts hsucceeded, fun h => absurd h hsucceeded,
        List.forall_mem_nil _⟩

/-- A text with a colon, a line end, a backslash and a null character, in an argument and
in a file. -/
theorem scan_faithful_to_text_of_controls :
    let files := findIn [(bytesOf "t", bytesOf "a:\n\\é\x00b")]
    let inline := ["scan", "-y", "a:\\n\\\\é\\0b", "-x", "-p", "a.*|b"].map bytesOf
    let named := ["scan", "t", "-x", "-p", "a.*|b"].map bytesOf
    run files inline = run files named ∧ (run files named).failure = none ∧
      ∃ ms : List Match, (run files named).lines = ms.map matchLine ∧
        ∀ m ∈ ms, Told.ofLine? (matchLine m) = some (told m) := by
  intro files inline named
  let es := [Expression.ofPattern "a.*|b" (.ofList [.extractMatched])]
  let ts : List Token := [.positional (bytesOf "t"), .flag (.short 'x'),
    .option (.short 'p') (bytesOf "a.*|b")]
  have hts : Splits named .scan ts := ⟨bytesOf "scan", _, false, rfl, rfl, by decide +kernel⟩
  have hpath : files (bytesOf "t") = .file (bytesOf "a:\n\\é\x00b") := by rfl
  have hes : commandExpressions files .scan ts = .ok es := by rfl
  have hcompile : ((Database.compile (engine .standard) true es).attempt
      Builtin.world).1.toOption.isSome = true := by decide +kernel
  obtain ⟨d, hd⟩ := Option.isSome_iff_exists.1 hcompile
  have hsucceeded : (run files named).failure = none := by
    rw [run_eq_carryOut .estimate (c := .scan) files (by decide) hts, hes]
    exact succeeds_of_compile (Prod.ext (eq_ok_of_toOption hd) rfl) rfl (by decide)
  obtain ⟨hsame, -, htold⟩ := scan_faithful_to_text .estimate files
  have hinline := (hsame _ _ hpath).2 (by decide) "-y" (by decide)
    (["-x", "-p", "a.*|b"].map bytesOf)
  obtain ⟨ms, hlines, -, hread⟩ := htold named ts hts (by decide +kernel) (by decide +kernel)
    (by decide +kernel)
  exact ⟨hinline, hsucceeded, ms, hlines, fun m hm => (hread m hm).2.1⟩

end Multiscan.Cli
