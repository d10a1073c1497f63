import Multiscan.Proofs.Builtin.Merge
import Multiscan.Proofs.Builtin.Once
import Multiscan.Proofs.Regex.Fronts
import Multiscan.Proofs.Regex.Literal
import Multiscan.Proofs.Regex.SimpleForm
/-!
# Built-in engine — encodings and ASCII

The flags for UTF-8 and for Unicode classes say what symbols and shorthand classes
are to a pattern. A pattern in ASCII finds the same in a text in ASCII whatever
they are, and callers see the same matches (`encodings_agree_on_ascii`). It must
mean what it says as it is written, and not name with a literal one of the two
characters outside ASCII that have variants there (`encodings_disagree`). It does mean
what it says if its form keeps the choices (`Expression.findsAsWritten_of_keepsChoice`).
-/

namespace Multiscan

open Engine Builtin Regex Syntax
open Text (AllAscii bytesOf encode)

/-! ## Encodings -/

/-- What symbols and shorthand classes are to a pattern. -/
inductive Encoding
  /-- Symbols are bytes. -/
  | bytes
  /-- Symbols are characters, and shorthand classes stay in ASCII. -/
  | characters
  /-- Symbols are characters, and shorthand classes are those of Unicode. -/
  | unicode
  deriving DecidableEq, Repr

/-- The flags for an encoding. -/
def Encoding.flags : Encoding → FlagSet
  | .bytes => .empty
  | .characters => .ofList [.utf8]
  | .unicode => .ofList [.utf8, .ucp]

theorem Encoding.contains_flags (enc : Encoding) {f : Flag} (h : f ∉ [Flag.utf8, .ucp]) :
    enc.flags.contains f = false := by
  cases enc <;> cases f <;> first | rfl | exact absurd (by decide) h

namespace Expression

variable {e : Expression} {enc enc' : Encoding}

/-- The expression in an encoding. -/
def within (e : Expression) (enc : Encoding) : Expression :=
  { e with flags := e.flags.union enc.flags }

/-- All other flags stay as they are. -/
theorem contains_within (e : Expression) (enc : Encoding) {f : Flag}
    (h : f ∉ [Flag.utf8, .ucp]) : (e.within enc).flags.contains f = e.flags.contains f := by
  rw [within, FlagSet.contains_union, enc.contains_flags h, Bool.or_false]

/-- No literal of the pattern has variants in ASCII in one of two encodings only. -/
def KeepsCase (e : Expression) (enc enc' : Encoding) : Prop :=
  ∀ word word' tree, (e.within enc).flags.encode .extended = .ok word →
    (e.within enc').flags.encode .extended = .ok word' →
    Tree.ofPattern? e.pattern.toList = .ok tree →
      Regex.KeepsCase (Pattern.setting word) (Pattern.setting word') tree

/-- The pattern finds in a text what it finds as it is written: bringing it into a
simple form has changed nothing. -/
def FindsAsWritten (e : Expression) (text : String) : Prop :=
  ∀ word r s, e.flags.encode .extended = .ok word → Pattern.parse e.pattern.toList word = .ok r →
    (Reading.ofWord word).parseWritten e.pattern.toList word = .ok s →
      findAll (bytesOf text) (e.flags.contains .utf8) r =
        findAll (bytesOf text) (e.flags.contains .utf8) s

/-- By its form, the pattern offers the same choices in simple form as it is written. -/
def KeepsChoice (e : Expression) : Prop :=
  ∀ word tree, e.flags.encode .extended = .ok word →
    Tree.ofPattern? (Pattern.spelled e.pattern.toList word) = .ok tree →
      (Reading.ofWord word).KeepsChoice (Pattern.setting word) tree

/-- **A pattern that keeps its choices** finds in every text in ASCII what it finds as
it is written. -/
theorem findsAsWritten_of_keepsChoice {text : String} (h : e.KeepsChoice)
    (htext : ∀ c ∈ text.toList, c.toNat < 128) : e.FindsAsWritten text := by
  intro word r s hword hr hs
  rw [Reading.parse_eq] at hr
  exact Reading.findAll_written (Text.allAscii_encode htext) (Reading.standard_ofWord word)
    (fun tree => h word tree hword) hr hs _

end Expression

/-- What is found by a match: its id, the characters it covers, and their text. -/
def Match.found (m : Match) : Nat × Nat × Nat × Option String := (m.id, m.start, m.stop, m.text)

/-- What a scan with one expression comes to: what its matches have found, and the
events that they come from. -/
def seen {σ : Type} (E : Engine σ) (groups : Bool) (e : Expression) (text : String) (w : World σ) :
    Except Error (List (Nat × Nat × Nat × Option String) × List Event) :=
  ((once E groups [e] text).attempt w).1.map fun result => (result.1.map Match.found, result.2)

namespace Builtin

variable {setup setup' : Setup} {groups groups' : Bool} {e : Expression}
variable {enc enc' : Encoding} {p p' : Compiled} {text : String} {w w' : World Heap}

/-! ## One expression -/

/-- An expression that compiles on its own. -/
theorem exists_compiled {d : Database} {u : World Heap}
    (h : (Database.compile (engine setup) groups [e]).attempt w = (.ok d, u)) :
    ∃ j p, Database.job 0 e = .ok j ∧ (sourceOf j).Compiles setup p := by
  obtain ⟨-, -, jobs, patterns, hjobs, hpatterns⟩ := compileAll_of_compile h
  rw [Database.jobs] at hjobs
  rcases hjob : Database.job 0 e with err | j
  · rw [hjob] at hjobs
    cases hjobs
  · rw [hjob] at hjobs
    obtain rfl := Except.ok.inj hjobs
    obtain ⟨p, -, hp, -, -⟩ := List.forall₂_cons_left_iff.1 ((compileAll_iff 0).1 hpatterns)
    exact ⟨j, p, rfl, hp⟩

/-- What is to be seen of an event. -/
def foundAt (e : Expression) (text : String) (ev : Event) : Nat × Nat × Nat × Option String :=
  let span := (Text.OffsetMap.ofText text.toList).span ev.start.toNat ev.stop.toNat
  let matched :=
    if e.flags.contains .extractMatched then
      some (String.ofList ((text.toList.drop span.1).take (span.2 - span.1)))
    else none
  (ev.id.toNat, span.1, span.2, matched)

theorem found_eq {h : Option Handle} {ev : Event} {m : Match}
    (hstands : Scanner.Stands ⟨h, [e]⟩ text ev m) : m.found = foundAt e text ev := by
  have hexpression : m.expression = e :=
    List.mem_singleton.1 (List.mem_of_getElem? hstands.expression)
  have hmatched := hstands.matched
  rw [hexpression] at hmatched
  rw [foundAt, Match.found, hmatched, hstands.id, ← hstands.span]

/-- **What a scan comes to** with an expression that compiles: the events of its
pattern, and what there is to see of them. Only a text that is too long is
refused. -/
theorem seen_eq {j : Job} (hjob : Database.job 0 e = .ok j) (hp : (sourceOf j).Compiles setup p)
    (groups : Bool) (text : String) (w : World Heap) :
    seen (engine setup) groups e text w =
      if UInt32.size ≤ (bytesOf text).size then .error (Scanner.tooLong (bytesOf text).size)
      else .ok ((orderedEvents [p] (bytesOf text)).map (foundAt e text),
        orderedEvents [p] (bytesOf text)) := by
  have hjobs : Database.jobs 0 [e] = .ok [j] := by
    rw [Database.jobs, hjob]
    rfl
  have hone : 1 < UInt32.size := by decide
  have hcount : [e].length < UInt32.size := hone
  obtain ⟨ms, w', honce, hstands⟩ := once_eq (List.cons_ne_nil _ _) hcount hjobs
    ((compileAll_iff 0).2 (.cons hp .nil)) groups text w
  have hfound : (orderedEvents [p] (bytesOf text)).map (foundAt e text) = ms.map Match.found := by
    rw [← List.forall₂_eq_eq_eq, List.forall₂_map_left_iff, List.forall₂_map_right_iff]
    exact hstands.imp fun ev m h => (found_eq h).symm
  rw [seen, honce, hfound]
  split
  · rfl
  · rfl

/-! ## Two encodings -/

/-- The events of patterns with one id that find the same. -/
theorem orderedEvents_singleton_congr {data : Text.Bytes} (hid : p.id = p'.id)
    (hmatches : p.matches data = p'.matches data) :
    orderedEvents [p] data = orderedEvents [p'] data := by
  have hevent : p.event = p'.event := by
    funext m
    rw [Compiled.event, Compiled.event, hid]
  have hevents : p.events data = p'.events data := by
    rw [p.events_eq, p'.events_eq, hmatches, hevent]
  rw [orderedEvents, orderedEvents, List.flatMap_singleton, List.flatMap_singleton, hevents]

/-- **What a pattern in ASCII finds** in two encodings is the same. -/
theorem matches_within {j j' : Job} (hpattern : ∀ c ∈ e.pattern.toList, c.toNat < 128)
    (htext : ∀ c ∈ text.toList, c.toNat < 128)
    (hjob : Database.job 0 (e.within enc) = .ok j) (hp : (sourceOf j).Compiles setup p)
    (hjob' : Database.job 0 (e.within enc') = .ok j') (hp' : (sourceOf j').Compiles setup' p')
    (hcase : e.KeepsCase enc enc') (hwritten : (e.within enc).FindsAsWritten text)
    (hwritten' : (e.within enc').FindsAsWritten text) :
    p.matches (bytesOf text) = p'.matches (bytesOf text) := by
  obtain ⟨word, hword, hparse, hwhole, hsingle⟩ := parse_of_job hjob hp
  obtain ⟨word', hword', hparse', hwhole', hsingle'⟩ := parse_of_job hjob' hp'
  have hlike : (Pattern.setting word).Like (Pattern.setting word') := by
    refine like_setting fun f hf => ?_
    have hall : ∀ f ∈ [Flag.caseless, .multiLine, .dotAll],
        f ≠ .extractMatched ∧ f ∉ [Flag.utf8, .ucp] := by decide
    obtain ⟨hreaches, hother⟩ := hall f hf
    rw [FlagSet.has_encode hword hreaches, FlagSet.has_encode hword' hreaches,
      e.contains_within enc hother, e.contains_within enc' hother]
  obtain ⟨s, hs⟩ := Reading.exists_parseWritten (Reading.parse_eq _ word ▸ hparse)
  obtain ⟨s', hs'⟩ := Reading.exists_parseWritten (Reading.parse_eq _ word' ▸ hparse')
  have hfound : findAll (bytesOf text) p.whole p.regex =
      findAll (bytesOf text) p'.whole p'.regex := by
    rw [hwhole, hwhole', hwritten word p.regex s hword hparse hs,
      hwritten' word' p'.regex s' hword' hparse' hs']
    exact findAll_parseWritten (Text.allAscii_encode htext) hpattern hlike
      (fun tree htree => hcase word word' tree hword hword' htree) hs hs' _ _
  have hsame : p.single = p'.single := by
    rw [hsingle, hsingle', e.contains_within enc (by decide), e.contains_within enc' (by decide)]
  rw [Compiled.matches, Compiled.matches, hfound, hsame]

/-- **Encodings do not matter in ASCII.** Take a pattern in ASCII under any flags,
and two encodings in which it compiles. If it means in both what it says as it is
written, and case does not tell its literals apart, then a scan of a text in ASCII
comes to the same in both, whatever the engines have given out before: the same
matches in the same order, with the same offsets and texts, unless the text is too
long for either. -/
theorem encodings_agree_on_ascii {d d' : Database} {u u' : World Heap}
    (hpattern : ∀ c ∈ e.pattern.toList, c.toNat < 128) (htext : ∀ c ∈ text.toList, c.toNat < 128)
    (hcompile : (Database.compile (engine setup) groups [e.within enc]).attempt w = (.ok d, u))
    (hcompile' :
      (Database.compile (engine setup') groups' [e.within enc']).attempt w' = (.ok d', u'))
    (hcase : e.KeepsCase enc enc') (hwritten : (e.within enc).FindsAsWritten text)
    (hwritten' : (e.within enc').FindsAsWritten text) (v v' : World Heap) :
    seen (engine setup) groups (e.within enc) text v =
        seen (engine setup') groups' (e.within enc') text v' ∧
      ((bytesOf text).size < UInt32.size →
        ∃ found, seen (engine setup) groups (e.within enc) text v = .ok found) := by
  obtain ⟨j, p, hjob, hp⟩ := exists_compiled hcompile
  obtain ⟨j', p', hjob', hp'⟩ := exists_compiled hcompile'
  have hmatches := matches_within hpattern htext hjob hp hjob' hp' hcase hwritten hwritten'
  have hid : p.id = p'.id := by
    rw [hp.id, hp'.id]
    exact (id_of_job hjob).trans (id_of_job hjob').symm
  have hevents := orderedEvents_singleton_congr hid hmatches
  have hshown : foundAt (e.within enc') text = foundAt (e.within enc) text := by
    funext ev
    rw [foundAt, foundAt, e.contains_within enc (by decide), e.contains_within enc' (by decide)]
  refine ⟨?_, fun hsize => ?_⟩
  · rw [seen_eq hjob hp, seen_eq hjob' hp', hshown, hevents]
  · exact ⟨_, (seen_eq hjob hp groups text v).trans (if_neg (Nat.not_le.2 hsize))⟩

/-- A word character with an s behind it. -/
def wordThenS : Expression := ⟨"\\ws", .ofList [.extractMatched], none⟩

/-- The pattern has neither a repetition nor alternatives. -/
theorem keepsChoice_wordThenS (enc : Encoding) (word : UInt32)
    (hword : ((wordThenS.within enc).flags.encode .extended).toOption = some word)
    (htree : Tree.ofPattern? (Pattern.spelled wordThenS.pattern.toList word) =
      .ok (.concat ⟨0, 3⟩ [.shorthand ⟨⟨0, 2⟩, .word, false⟩, .literal ⟨⟨2, 3⟩, .verbatim, 's'⟩])) :
    (wordThenS.within enc).KeepsChoice := by
  intro word' tree hword' htree'
  obtain rfl := Except.ok.inj ((eq_ok_of_toOption hword).symm.trans hword')
  obtain rfl := Except.ok.inj (htree.symm.trans htree')
  exact ⟨trivial, trivial, trivial⟩

theorem encodings_agree_on_ascii_of_word :
    wordThenS.KeepsCase .bytes .unicode ∧
      (wordThenS.within .bytes).FindsAsWritten "glass" ∧
      (wordThenS.within .unicode).FindsAsWritten "glass" ∧
      seen (engine .unlimited) false (wordThenS.within .bytes) "glass" world =
        seen (engine .unlimited) false (wordThenS.within .unicode) "glass" world ∧
      ∃ found, seen (engine .unlimited) false (wordThenS.within .bytes) "glass" world =
        .ok found := by
  have hcompiled : ((Database.compile (engine .unlimited) false [wordThenS.within .bytes]).attempt
      world).1.toOption.isSome = true := by decide +kernel
  have hcompiled' : ((Database.compile (engine .unlimited) false
      [wordThenS.within .unicode]).attempt world).1.toOption.isSome = true := by decide +kernel
  have hglass : ∀ c ∈ "glass".toList, c.toNat < 128 := Text.ascii_of_all (by decide)
  have hwritten : (wordThenS.within .bytes).FindsAsWritten "glass" :=
    Expression.findsAsWritten_of_keepsChoice (keepsChoice_wordThenS .bytes 0 (by decide) rfl) hglass
  have hwritten' : (wordThenS.within .unicode).FindsAsWritten "glass" :=
    Expression.findsAsWritten_of_keepsChoice
      (keepsChoice_wordThenS .unicode (Flag.utf8.bit ||| Flag.ucp.bit) (by decide) rfl) hglass
  have hcase : wordThenS.KeepsCase .bytes .unicode := by
    intro word word' tree _ _ htree
    have hshape : Tree.ofPattern? wordThenS.pattern.toList = .ok (.concat ⟨0, 3⟩
      [.shorthand ⟨⟨0, 2⟩, .word, false⟩, .literal ⟨⟨2, 3⟩, .verbatim, 's'⟩]) := rfl
    obtain rfl := Except.ok.inj (htree.symm.trans hshape)
    exact ⟨trivial, fun _ _ => by decide, trivial⟩
  obtain ⟨d, hd⟩ := Option.isSome_iff_exists.1 hcompiled
  obtain ⟨d', hd'⟩ := Option.isSome_iff_exists.1 hcompiled'
  obtain ⟨u, hcompile⟩ := exists_of_toOption hd
  obtain ⟨u', hcompile'⟩ := exists_of_toOption hd'
  obtain ⟨hsame, hfound⟩ := encodings_agree_on_ascii (Text.ascii_of_all (by decide)) hglass
    hcompile hcompile' hcase hwritten hwritten' world world
  exact ⟨hcase, hwritten, hwritten', hsame, hfound (by decide +kernel)⟩

/-! ## Where encodings disagree -/

/-- What a scan comes to with an expression, the matches of its pattern being
known. -/
theorem seen_of_found (word : UInt32) {r : Regex} {ms : List (Nat × Nat)}
    (hcompile : ((Database.compile (engine setup) groups [e]).attempt w).1.toOption.isSome = true)
    (hword : (e.flags.encode .extended).toOption = some word)
    (hparse : Pattern.parse e.pattern.toList word = .ok r)
    (hsize : (bytesOf text).size < UInt32.size)
    (hfound : Compiled.matches ⟨0, e.flags.contains .singleMatch, e.flags.contains .utf8, r⟩
      (bytesOf text) = ms) :
    let events : List Event := ms.map fun m => ⟨0, UInt64.ofNat m.1, UInt64.ofNat m.2⟩
    seen (engine setup) groups e text w' = .ok (events.map (foundAt e text), events) := by
  obtain ⟨d, hd⟩ := Option.isSome_iff_exists.1 hcompile
  obtain ⟨u, hcompile⟩ := exists_of_toOption hd
  obtain ⟨j, p, hjob, hp⟩ := exists_compiled hcompile
  obtain ⟨word', hword', hparse', hwhole, hsingle⟩ := parse_of_job hjob hp
  obtain rfl := Except.ok.inj ((eq_ok_of_toOption hword).symm.trans hword')
  have hregex := Except.ok.inj (hparse'.symm.trans hparse)
  have hmatches : p.matches (bytesOf text) = ms := by
    rw [← hfound, Compiled.matches, Compiled.matches, hsingle, hwhole, hregex]
  have hid : p.id = 0 := hp.id.trans (id_of_job hjob)
  intro events
  have hevents : orderedEvents [p] (bytesOf text) = events := by
    rw [orderedEvents_singleton p hsize, p.events_eq, hmatches]
    refine List.map_congr_left fun m _ => ?_
    rw [Compiled.event, hid]
  rw [seen_eq hjob hp, if_neg (Nat.not_le.2 hsize), hevents]

/-- The long s by its number, where case does not count. -/
def longS : Expression := ⟨"\\x\x7b17F\x7d", .ofList [.caseless], none⟩

/-- In the letter s, the long s finds what a character finds that is the letter if
and only if the letter is a variant of the long s. -/
theorem findAll_longS {f : Setting} (c : Char)
    (hc : f.Variants 'ſ'.toNat 's'.toNat ↔ 's'.toNat = c.toNat) (whole : Bool) :
    findAll (bytesOf "s") whole (literalRegex f ⟨⟨0, 7⟩, .hexCode, 'ſ'⟩) =
      (Text.occurrencesFrom [c] 0 0 ['s']).map (stretchOf [c] ['s']) := by
  have hbs : AllAscii (bytesOf "s") := Text.allAscii_encode (Text.ascii_of_all (by decide))
  have hletter : ∀ (i : Nat) (b : UInt8), (bytesOf "s")[i]? = some b → b.toNat = 's'.toNat := by
    intro i b hb
    have hmem : b ∈ [(0x73 : UInt8)] := by
      have hbytes : bytesOf "s" = #[0x73] := by decide +kernel
      rw [hbytes] at hb
      exact Array.mem_toList_iff.2 (Array.mem_of_getElem? hb)
    rw [List.mem_singleton.1 hmem]
    rfl
  have halike : Alike (bytesOf "s") (literalRegex f ⟨⟨0, 7⟩, .hexCode, 'ſ'⟩)
      (.literal (encode [c])) := by
    have hchar : encode [c] = Text.encodeChar c := List.flatMap_singleton _ _
    have htake := takes_literalRegex hbs f ⟨⟨0, 7⟩, .hexCode, 'ſ'⟩
    rw [hchar]
    refine (htake.congr_of_mem fun i b hb => ?_).alike (takes_encodeChar hbs c)
    rw [hletter i b hb]
    exact hc
  obtain ⟨ks, hks, hfound⟩ := occurrences_findAll (List.cons_ne_nil c []) ['s'] whole
  rw [findAll_alike hbs halike whole whole, ← (Text.occurrences_iff (List.cons_ne_nil c [])).1 hks,
    ← hfound]
  rfl

/-- A word character or none, preferably none, before an a, or else before a c. -/
def wordOrNone : Expression := ⟨"\\w??a|[[:word:]]??c", .ofList [.singleMatch], none⟩

/-- The class of word characters in it. -/
def wordClass : Shorthand := ⟨⟨0, 3⟩, .word, false⟩

/-- Its fronts are the class of word characters and the named class with that
word. -/
theorem parse_wordOrNone {word : UInt32} (hword : word = Flag.singleMatch.bit ∨
    word = Flag.singleMatch.bit ||| Flag.utf8.bit ||| Flag.ucp.bit) :
    let f := Pattern.setting word
    Pattern.parse wordOrNone.pattern.toList word =
      .ok (ofLazyFronts f.alphabet (shorthandSet f wordClass)
        (foldThenNegate f false (asciiSet f wordClass.toAscii))) := by
  obtain rfl | rfl := hword
  · rfl
  · rfl

/-- The first thing found in "ca" tells whether the two ways to write the class
come to the same. -/
theorem findFirst_wordOrNone {f : Setting} {s t : SymbolSet} {c : Shorthand}
    (hkind : c.kind = .word)
    (hnegated : c.negated = false) (hs : s = shorthandSet f c)
    (ht : t = foldThenNegate f false (asciiSet f c.toAscii)) (whole : Bool) :
    (findAll (bytesOf "ca") whole (ofLazyFronts f.alphabet s t)).take 1 =
      [(0, if s = t then 1 else 2)] := by
  have hmember : ∀ n ∈ [97, 99], s.contains n = true ∧ t.contains n = true := by
    intro n hn
    have hall : ∀ n ∈ [97, 99], n < 128 ∧ ShorthandKind.word.HasAscii n := by decide
    obtain ⟨hn, hascii⟩ := hall n hn
    have hno : ¬ (c.negated = true) := hnegated ▸ Bool.false_ne_true
    rw [hs, ht, foldThenNegate_asciiSet, contains_shorthandSet (.inl hn),
      contains_asciiSet (isSymbol_of_ascii _ (by omega)), hkind]
    exact ⟨iff_of_false hno (not_not.2 (.inl hascii)), iff_of_false hno (not_not.2 (.inl hascii))⟩
  obtain ⟨hsa, hta⟩ := hmember 97 (by decide)
  obtain ⟨hsc, htc⟩ := hmember 99 (by decide)
  have hbytes : bytesOf "ca" = #[99, 97] := by decide +kernel
  rw [← findFirst_eq, findFirst, hbytes, find_of_ascii allAscii_letters,
    search_ofLazyFronts ⟨hsa, hsc⟩ ⟨hta, htc⟩]
  rfl

/-- Among bytes, they do. -/
theorem foldThenNegate_of_bytes {f : Setting} {c : Shorthand} (hcase : f.caseless = false)
    (hunicode : f.unicode = false) (hnegated : c.negated = false) :
    foldThenNegate f false (asciiSet f c.toAscii) = shorthandSet f c := by
  have hascii : asciiSet f c.toAscii =
      (SymbolSet.ofIntervals (asciiIntervals c.kind.toAscii)).joined := by
    change foldThenNegate f c.negated _ = _
    rw [foldThenNegate, hnegated, hcase]
    rfl
  have hshorthand : shorthandSet f c = .ofIntervals (asciiIntervals c.kind.toAscii) := by
    unfold shorthandSet shorthandIntervals
    rw [hnegated, hunicode]
    rfl
  have hvalid := SymbolSet.valid_ofIntervals (valid_asciiIntervals .byte c.kind.toAscii)
  rw [foldThenNegate_asciiSet, hascii, hshorthand, SymbolSet.joined,
    SymbolSet.ofIntervals_of_apart hvalid (SymbolSet.apart_ofIntervals _)]

/-- Among characters they do not: the long s is a word character of Unicode. -/
theorem foldThenNegate_ne_of_unicode {f : Setting} {c : Shorthand} (hcase : f.caseless = false)
    (hunicode : f.unicode = true) (hkind : c.kind = .word) (hnegated : c.negated = false) :
    foldThenNegate f false (asciiSet f c.toAscii) ≠ shorthandSet f c := by
  have halphabet : f.alphabet = .character := if_pos hunicode
  have hno : ¬ c.negated = true := hnegated ▸ Bool.false_ne_true
  have hnear : f.alphabet.Near 0x17F :=
    .inr ⟨by decide, fun hbyte => nomatch halphabet.symm.trans hbyte⟩
  have hvariant : ShorthandKind.word.HasVariant 0x17F := by decide
  have hascii : ¬ ShorthandKind.word.HasAscii 0x17F := by decide
  have hmember : (shorthandSet f c).contains 0x17F = true := by
    rw [contains_shorthandSet hnear, hkind]
    exact iff_of_false hno (not_not.2 (.inr ⟨hunicode, hvariant⟩))
  intro hsame
  rw [← hsame, foldThenNegate_asciiSet, contains_asciiSet hnear.isSymbol, hkind, hcase] at hmember
  exact hno (hmember.2 (by simp [hascii]))

/-- **Encodings disagree** on the long s where case does not count: among
characters the letter s is one of its variants, among bytes it has none. And they
disagree on two alternatives whose fronts are the same class in one encoding only. -/
theorem encodings_disagree :
    ((∀ c ∈ longS.pattern.toList, c.toNat < 128) ∧ (∀ c ∈ "s".toList, c.toNat < 128) ∧
        (∀ f, longS.flags.contains f = true → f = .caseless) ∧
        seen (engine .unlimited) false (longS.within .bytes) "s" world = .ok ([], []) ∧
        seen (engine .unlimited) false (longS.within .characters) "s" world =
          .ok ([(0, 0, 1, none)], [⟨0, 0, 1⟩])) ∧
      (∀ c ∈ wordOrNone.pattern.toList, c.toNat < 128) ∧ (∀ c ∈ "ca".toList, c.toNat < 128) ∧
        (∀ f, wordOrNone.flags.contains f = true → f = .singleMatch) ∧
        seen (engine .unlimited) false (wordOrNone.within .bytes) "ca" world =
          .ok ([(0, 0, 1, none)], [⟨0, 0, 1⟩]) ∧
        seen (engine .unlimited) false (wordOrNone.within .unicode) "ca" world =
          .ok ([(0, 0, 2, none)], [⟨0, 0, 2⟩]) := by
  have hone : ∀ {f g : Flag}, (FlagSet.ofList [f]).contains g = true → g = f := by
    intro f g h
    rw [FlagSet.contains_ofList, List.contains_iff_mem] at h
    exact List.mem_singleton.1 h
  have hnone : ¬ (Pattern.setting Flag.caseless.bit).Variants 'ſ'.toNat 's'.toNat := by
    rintro (hsame | ⟨-, ⟨-, hbyte⟩, -⟩)
    · exact absurd hsame (by decide)
    · exact absurd (hbyte rfl) (by decide)
  have hvariant : (Pattern.setting (Flag.caseless.bit ||| Flag.utf8.bit)).Variants 'ſ'.toNat
      's'.toNat := by
    have hletters : IsLetter 'ſ'.toNat ∧ IsLetter 's'.toNat := by decide
    exact .inr ⟨by decide, ⟨hletters.1, fun h => nomatch h⟩, ⟨hletters.2, fun h => nomatch h⟩,
      by decide⟩
  refine ⟨⟨Text.ascii_of_all (by decide), Text.ascii_of_all (by decide), fun _ => hone, ?_, ?_⟩,
    Text.ascii_of_all (by decide), Text.ascii_of_all (by decide), fun _ => hone, ?_, ?_⟩
  · exact seen_of_found (e := longS.within .bytes) (w := world) Flag.caseless.bit
      (by decide +kernel) (by decide) rfl (by decide +kernel)
      (findAll_longS 'ſ' (iff_of_false hnone (by decide)) false)
  · exact seen_of_found (e := longS.within .characters) (w := world)
      (Flag.caseless.bit ||| Flag.utf8.bit)
      (by decide +kernel) (by decide) rfl (by decide +kernel)
      (findAll_longS 's' (iff_of_true hvariant rfl) true)
  · have hsame := foldThenNegate_of_bytes (f := Pattern.setting Flag.singleMatch.bit)
      (c := wordClass) rfl rfl rfl
    have hfound := findFirst_wordOrNone (f := Pattern.setting Flag.singleMatch.bit)
      (c := wordClass) rfl rfl rfl rfl false
    rw [if_pos hsame.symm] at hfound
    exact seen_of_found (e := wordOrNone.within .bytes) (w := world) Flag.singleMatch.bit
      (by decide +kernel) (by decide) (parse_wordOrNone (.inl rfl)) (by decide +kernel) hfound
  · have hne := foldThenNegate_ne_of_unicode
      (f := Pattern.setting (Flag.singleMatch.bit ||| Flag.utf8.bit ||| Flag.ucp.bit))
      (c := wordClass) rfl rfl rfl rfl
    have hfound := findFirst_wordOrNone
      (f := Pattern.setting (Flag.singleMatch.bit ||| Flag.utf8.bit ||| Flag.ucp.bit))
      (c := wordClass) rfl rfl rfl rfl true
    rw [if_neg hne.symm] at hfound
    exact seen_of_found (e := wordOrNone.within .unicode) (w := world)
      (Flag.singleMatch.bit ||| Flag.utf8.bit ||| Flag.ucp.bit)
      (by decide +kernel) (by decide) (parse_wordOrNone (.inr rfl)) (by decide +kernel) hfound

end Builtin

end Multiscan
