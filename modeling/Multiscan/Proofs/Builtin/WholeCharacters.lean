import Multiscan.Proofs.Builtin.Once
import Multiscan.Proofs.Regex.TextOnly
import Multiscan.Proofs.Text.Offsets
/-!
# Built-in engine — matches of whole characters

An expression with the UTF-8 flag is about characters, unless its pattern goes
back to bytes with an inline flag and then says something of bytes outside
ASCII (`Expression.StaysText`). Every event of an expression that does not goes
from one boundary between characters to another, and the match that the event
becomes is made of the characters between (`WholeMatch`).
-/

namespace Multiscan

open Engine Builtin Regex Syntax
open Text (Between byteLength bytesOf encode)

/-- The pattern of an expression says nothing of bytes outside ASCII, wherever
its flags or an inline flag make it one for bytes. -/
def Expression.StaysText (e : Expression) : Prop :=
  ∀ word tree, e.flags.encode .extended = .ok word → Tree.ofPattern? e.pattern.toList = .ok tree →
    (Reading.ofWord word).StaysText (Pattern.setting word) tree

/-- An event whose offsets are both boundaries of the text, and a match of the
very characters between them: their bytes are the bytes of the event, and the
match covers them and has their text if its expression asks for it. -/
structure WholeMatch (text : String) (ev : Event) (m : Match) : Prop where
  start : Text.isBoundary (bytesOf text) ev.start.toNat = true
  stop : Text.isBoundary (bytesOf text) ev.stop.toNat = true
  covers : ev.start < ev.stop → ∃ before middle after,
    text.toList = before ++ (middle ++ after) ∧ byteLength before = ev.start.toNat ∧
    (encode middle).toArray = (bytesOf text).extract ev.start.toNat ev.stop.toNat ∧
    m.start = before.length ∧ m.stop = before.length + middle.length ∧
    m.text = if m.expression.flags.contains .extractMatched then some (String.ofList middle)
      else none

namespace Builtin

variable {setup : Setup} {groups : Bool} {es : List Expression} {jobs : List Job}
variable {patterns : List Compiled} {w : World Heap} {text : String}

/-- A match that stands for an event is made of the characters between its
offsets. -/
theorem wholeMatch_of_between {d : Database} {ev : Event} {m : Match}
    (hstart : Between text.toList ev.start.toNat) (hstop : Between text.toList ev.stop.toNat)
    (hstands : Scanner.Stands d text ev m) : WholeMatch text ev m where
  start := hstart.isBoundary
  stop := hstop.isBoundary
  covers hlt := by
    obtain ⟨before, middle, after, htext, hmiddle, hbefore, hbehind⟩ :=
      Text.exists_middle hstart hstop (UInt64.lt_iff_toNat_lt.1 hlt)
    have hspan := hstands.span
    have hmatched := hstands.matched
    rw [← hbefore, ← hbehind, htext, Text.OffsetMap.span_ofText before hmiddle after] at hspan
    obtain ⟨hfirst, hlast⟩ := Prod.mk.inj hspan
    rw [hfirst, hlast, htext, List.drop_left, Nat.add_sub_cancel_left, List.take_left] at hmatched
    refine ⟨before, middle, after, htext, hbefore, ?_, hfirst, hlast, hmatched⟩
    rw [bytesOf, htext, ← hbefore, ← hbehind, Text.extract_encode]

/-- **What an expression about text means** is an expression about text. -/
theorem textOnly_of_parse {e : Expression} {word : UInt32} {r : Regex}
    (hword : e.flags.encode .extended = .ok word) (hutf8 : e.flags.contains .utf8 = true)
    (htext : e.StaysText) (hparse : Pattern.parse e.pattern.toList word = .ok r) :
    r.TextOnly := by
  have hbit : FlagWord.has word .utf8 = true :=
    (FlagSet.has_encode hword (by decide)).trans hutf8
  rw [Reading.parse_eq, Reading.parse] at hparse
  obtain ⟨tree, htree, hparse⟩ := bind_eq_ok.1 hparse
  obtain ⟨⟨r, f⟩, hregex, hparse⟩ := bind_eq_ok.1 hparse
  obtain rfl := Except.ok.inj hparse
  rw [Pattern.spelled, if_pos hbit] at htree
  exact Reading.textOnly_regex tree (Syntax.counted_ofPattern? htree) (htext word tree hword htree)
    hregex

/-- **The events of an expression about text** go from one place between
characters to another. -/
theorem between_of_event {e : Expression} {ev : Event} (hcount : es.length < UInt32.size)
    (hjobs : Database.jobs 0 es = .ok jobs)
    (hpatterns : compileAll setup 0 (jobs.map sourceOf) = .ok patterns)
    (hsize : (bytesOf text).size < UInt32.size)
    (hev : ev ∈ orderedEvents patterns (bytesOf text)) (he : es[ev.id.toNat]? = some e)
    (hutf8 : e.flags.contains .utf8 = true) (htext : e.StaysText) :
    Between text.toList ev.start.toNat ∧ Between text.toList ev.stop.toNat := by
  obtain ⟨e', j, p, he', hjob, hp, m, hm, rfl⟩ :=
    exists_expression_of_event hcount hjobs hpatterns hev
  obtain rfl := Option.some.inj (he.symm.trans he')
  obtain ⟨word, hword, hparse, hwhole, -⟩ := parse_of_job hjob hp
  have hfound := p.mem_findAll hm
  have hbounds := findAll_bounds hfound
  -- The offsets of so short a text fit in the numbers of an event.
  have hfits : UInt32.size < UInt64.size := by decide
  have hstart : (p.event m).start.toNat = m.1 := UInt64.toNat_ofNat_of_lt' (by omega)
  have hstop : (p.event m).stop.toNat = m.2 := UInt64.toNat_ofNat_of_lt' (by omega)
  rw [hstart, hstop]
  rw [hwhole, hutf8] at hfound
  exact between_of_mem_findAll (textOnly_of_parse hword hutf8 htext hparse) hfound

/-- **In UTF-8 mode matches are whole characters**, for expressions that say
nothing of bytes outside ASCII. Whatever batch such an expression is compiled in
and whatever text is scanned, every event of it starts and ends at a boundary of
the text, empty ones included, and one that is not empty becomes a match of
exactly the characters between. Only a text that is too long is not scanned. -/
theorem matches_whole_characters {d : Database} {w' : World Heap}
    (hcompile : (Database.compile (engine setup) groups es).attempt w = (.ok d, w'))
    (text : String) :
    ((bytesOf text).size < UInt32.size →
      ∃ ms events w'', (once (engine setup) groups es text).attempt w =
        (.ok (ms, events), w'')) ∧
    ∀ ms events w'', (once (engine setup) groups es text).attempt w = (.ok (ms, events), w'') →
      List.Forall₂ (fun ev m => m.expression.flags.contains .utf8 = true →
        m.expression.StaysText → WholeMatch text ev m) events ms := by
  obtain ⟨hes, hcount, jobs, patterns, hjobs, hpatterns⟩ := compileAll_of_compile hcompile
  obtain ⟨ms, w'', honce, hstands⟩ := once_eq hes hcount hjobs hpatterns groups text w
  by_cases hlong : UInt32.size ≤ (bytesOf text).size
  · rw [if_pos hlong] at honce
    refine ⟨fun hsize => absurd hlong (Nat.not_le.2 hsize), fun ms' events w' hdone => ?_⟩
    cases honce.symm.trans hdone
  · rw [if_neg hlong] at honce
    refine ⟨fun _ => ⟨ms, _, w'', honce⟩, fun ms' events w' hdone => ?_⟩
    cases honce.symm.trans hdone
    have hmem := (List.forall₂_and_left _ _).2
      ⟨fun ev (hev : ev ∈ orderedEvents patterns (bytesOf text)) => hev, hstands⟩
    refine hmem.imp fun ev m hm hutf8 htext => ?_
    obtain ⟨hev, hm⟩ := hm
    obtain ⟨hstart, hstop⟩ := between_of_event hcount hjobs hpatterns (Nat.not_le.1 hlong) hev
      hm.expression hutf8 htext
    exact wholeMatch_of_between hstart hstop hm

/-- A letter as a byte, and any character behind it. -/
def byteThenCharacter : Expression := ⟨"(?-u:a).", .ofList [.utf8, .extractMatched], none⟩

/-- It says nothing of bytes outside ASCII. -/
theorem byteThenCharacter_staysText : byteThenCharacter.StaysText := by
  intro word tree hword htree
  have hflags : (byteThenCharacter.flags.encode .extended).toOption = some Flag.utf8.bit := by
    decide
  have hshape : Tree.ofPattern? byteThenCharacter.pattern.toList = .ok (.concat ⟨0, 8⟩
      [.group ⟨0, 7⟩ (.plain ⟨2, 4⟩ [⟨⟨2, 3⟩, .negation⟩, ⟨⟨3, 4⟩, .flag .unicode⟩])
        (.literal ⟨⟨5, 6⟩, .verbatim, 'a'⟩), .dot ⟨7, 8⟩]) := rfl
  obtain rfl := Except.ok.inj (hword.symm.trans (eq_ok_of_toOption hflags))
  obtain rfl := Except.ok.inj (htree.symm.trans hshape)
  refine ⟨fun _ b hb => (nomatch hb), fun r f hgroup => ⟨?_, fun _ _ _ => trivial⟩⟩
  -- Behind the group the flags are those before it.
  obtain ⟨_, -, hgroup⟩ := bind_eq_ok.1 hgroup
  obtain ⟨-, rfl⟩ := Prod.mk.inj (Except.ok.inj hgroup)
  have hunicode : (Pattern.setting Flag.utf8.bit).unicode = true := by decide
  exact hunicode

/-- An inline flag does no harm as long as what it is for is in ASCII. -/
theorem matches_whole_characters_of_byte :
    byteThenCharacter.flags.contains .utf8 = true ∧ byteThenCharacter.StaysText ∧
      ∃ ms events w, (once (engine .unlimited) false [byteThenCharacter] "aé").attempt world =
        (.ok (ms, events), w) ∧
        List.Forall₂ (fun ev m => m.expression.flags.contains .utf8 = true →
          m.expression.StaysText → WholeMatch "aé" ev m) events ms := by
  have hcompiled : ((Database.compile (engine .unlimited) false [byteThenCharacter]).attempt
      world).1.toOption.isSome = true := by decide +kernel
  obtain ⟨d, hd⟩ := Option.isSome_iff_exists.1 hcompiled
  obtain ⟨w', hcompile⟩ := exists_of_toOption hd
  obtain ⟨hscanned, hwhole⟩ := matches_whole_characters hcompile "aé"
  obtain ⟨ms, events, w, honce⟩ := hscanned (by decide +kernel)
  exact ⟨by decide, byteThenCharacter_staysText, ms, events, w, honce, hwhole ms events w honce⟩

end Builtin

end Multiscan
