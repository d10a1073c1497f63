import Multiscan.Builtin.Estimate
import Multiscan.Cli.Patterns
import Multiscan.Proofs.Batch
import Multiscan.Proofs.Builtin.Once
import Multiscan.Proofs.Regex.Literal
import Multiscan.Proofs.Regex.Quoted
/-!
# Built-in engine — fixed strings

A string that is to be found as it is, is quoted and compiled like any other
pattern. If case counts that compiles, and a scan has one match for each
occurrence of the string, which is that occurrence
(`fixed_string_finds_its_occurrences`). So for fixed strings it makes no
difference whether they are compiled with the UTF-8 flag or without.
-/

namespace Multiscan

open Engine Builtin
open Text (Occurrences OccursAt byteLength bytesOf encode)

namespace Builtin

/-! ## Compiling -/

/-- Quoting puts in no NUL. -/
theorem nul_not_mem_quote {cs : List Char} (h : '\x00' ∉ cs) : '\x00' ∉ Syntax.quote cs := by
  intro hmem
  obtain ⟨x, hx, hmem⟩ := List.mem_flatMap.1 hmem
  split at hmem
  · rcases List.mem_cons.1 hmem with heq | hmem
    · cases heq
    · exact h (List.mem_singleton.1 hmem ▸ hx)
  · exact h (List.mem_singleton.1 hmem ▸ hx)

/-- The flags under which a fixed string is found as it is. -/
def literalFlags : List Flag := [.utf8, .ucp, .dotAll, .multiLine, .extractMatched]

/-- The expression for a fixed string. -/
def fixedString (s : String) (flags : FlagSet) (tag : Option Tag) : Expression :=
  ⟨Cli.literalPattern true s, flags, tag⟩

variable {s : String} {flags : FlagSet} {builder : Builder}

/-- **A fixed string compiles**, into an expression that is its bytes. -/
theorem fixedString_compiles (hbuilds : builder.BuildsLiterals) (hs : s.toList ≠ [])
    (hnul : '\x00' ∉ s.toList) (hflags : ∀ f, flags.contains f = true → f ∈ literalFlags)
    (tag : Option Tag) (i : Nat) :
    ∃ j, Database.job i (fixedString s flags tag) = .ok j ∧ (sourceOf j).Compiles ⟨builder, none⟩
      ⟨UInt32.ofNat i, false, flags.contains .utf8, .literal (encode s.toList)⟩ := by
  have hpattern : (fixedString s flags tag).pattern.toList = Syntax.quote s.toList :=
    String.toList_ofList
  have hquoted : '\x00' ∉ (fixedString s flags tag).pattern.toList := by
    rw [hpattern]
    exact nul_not_mem_quote hnul
  have hbytes := patternBytes_of_not_mem hquoted
  have hreaches : ∀ f, flags.contains f = true → (f.bits? .extended).isSome = true := by
    intro f hf
    have hall : ∀ f ∈ literalFlags, (f.bits? .extended).isSome = true := by decide
    exact hall f (hflags f hf)
  obtain ⟨word, hword, hknown⟩ := FlagSet.encode_of_known hreaches
  have hout : ∀ f, f ∉ literalFlags → flags.contains f = false := fun f hf =>
    Bool.eq_false_iff.2 fun hcontains => hf (hflags f hcontains)
  have hcase : FlagWord.has word .caseless = false :=
    (FlagSet.has_encode hword (by decide)).trans (hout _ (by decide))
  have hnonempty : (encode s.toList).isEmpty = false :=
    List.isEmpty_eq_false_iff.2 (Text.encode_ne_nil hs)
  have hparse : Pattern.parse (fixedString s flags tag).pattern.toList word =
      .ok (.literal (encode s.toList)) := by
    rw [hpattern, Regex.parse_quote hcase, Regex.ofBytes, hnonempty, if_neg Bool.false_ne_true]
  have hbuilt : Setup.failure? ⟨builder, none⟩ (flags.contains .utf8)
    (.literal (encode s.toList)) = none := hbuilds _ _
  have hcompiles := compiles_of_parse i hbytes hword hknown hparse hbuilt
  have hsingle : (fixedString s flags tag).flags.contains .singleMatch = false :=
    hout _ (by decide)
  rwa [hsingle] at hcompiles

/-! ## Scanning -/

/-- The match at an occurrence. -/
def occurrenceMatch (s : String) (flags : FlagSet) (tag : Option Tag) (k : Nat) : Match where
  id := 0
  start := k
  stop := k + s.length
  text := if flags.contains .extractMatched then some s else none
  expression := fixedString s flags tag

/-- What stands for the event of an occurrence is the match there. -/
theorem eq_occurrenceMatch {tag : Option Tag} {h : Option Handle} {text : String} {k : Nat}
    {p : Compiled} {m : Match} (hs : s.toList ≠ []) (hp : p.id = 0)
    (hk : OccursAt s.toList text.toList k) (hsize : (bytesOf text).size < UInt32.size)
    (hstands : Scanner.Stands ⟨h, [fixedString s flags tag]⟩ text
      (p.event (Regex.stretchOf s.toList text.toList k)) m) :
    occurrenceMatch s flags tag k = m := by
  obtain ⟨before, after, htext, rfl⟩ := hk
  have hstretch : Regex.stretchOf s.toList text.toList before.length =
      (byteLength before, byteLength (before ++ s.toList)) := by
    rw [Regex.stretchOf, htext, List.take_left, ← List.length_append, ← List.append_assoc,
      List.take_left]
  -- The offsets of so short a text fit in the numbers of an event.
  have hfits : UInt32.size < UInt64.size := by decide
  rw [Text.size_bytesOf, htext, ← List.append_assoc, Text.byteLength_append] at hsize
  have hle : byteLength before ≤ byteLength (before ++ s.toList) := by
    rw [Text.byteLength_append]
    omega
  have hstart : (UInt64.ofNat (byteLength before)).toNat = byteLength before :=
    UInt64.toNat_ofNat_of_lt' (by omega)
  have hstop : (UInt64.ofNat (byteLength (before ++ s.toList))).toNat =
      byteLength (before ++ s.toList) := UInt64.toNat_ofNat_of_lt' (by omega)
  have hspan := hstands.span
  rw [hstretch, Compiled.event, hstart, hstop, htext,
    Text.OffsetMap.span_ofText before hs after] at hspan
  obtain ⟨hfirst, hlast⟩ := Prod.mk.inj hspan
  have hid : (p.event (Regex.stretchOf s.toList text.toList before.length)).id.toNat = 0 := by
    rw [Compiled.event, hp]
    rfl
  have hexpression := hstands.expression
  have hmatched := hstands.matched
  rw [hid] at hexpression
  obtain hexpression : fixedString s flags tag = m.expression := Option.some.inj hexpression
  rw [hfirst, hlast, htext, List.drop_left, Nat.add_sub_cancel_left, List.take_left,
    String.ofList_toList, ← hexpression] at hmatched
  have hmid : m.id = 0 := hstands.id.trans hid
  obtain ⟨id, start, stop, matched, expression⟩ := m
  dsimp only at *
  rw [hmid, hfirst, hlast, hmatched, ← hexpression, String.length_toList]
  rfl

/-- **A fixed string finds exactly its occurrences.** -/
theorem fixed_string_finds_its_occurrences (hbuilds : builder.BuildsLiterals) (hs : s ≠ "")
    (hnul : '\x00' ∉ s.toList)
    (hflags : ∀ f, flags.contains f = true → f ∈ literalFlags) (tag : Option Tag) (groups : Bool)
    (text : String) (w : World Heap) :
    (∃ d w',
      (Database.compile (engine ⟨builder, none⟩) groups [fixedString s flags tag]).attempt w =
      (.ok d, w')) ∧
    ∃ ks events w', Occurrences s.toList text.toList 0 ks ∧
      (once (engine ⟨builder, none⟩) groups [fixedString s flags tag] text).attempt w =
        (if UInt32.size ≤ (bytesOf text).size then .error (Scanner.tooLong (bytesOf text).size)
        else .ok (ks.map (occurrenceMatch s flags tag), events), w') := by
  have hlist : s.toList ≠ [] := by
    rwa [ne_eq, String.toList_eq_nil_iff]
  obtain ⟨j, hjob, hcompiles⟩ := fixedString_compiles hbuilds hlist hnul hflags tag 0
  have hjobs : Database.jobs 0 [fixedString s flags tag] = .ok [j] := by
    rw [Database.jobs, hjob]
    rfl
  have hpatterns := (compileAll_iff 0).2 (List.Forall₂.cons hcompiles .nil)
  have hone : 1 < UInt32.size := by decide
  have hcount : [fixedString s flags tag].length < UInt32.size := hone
  obtain ⟨notes, hcompile⟩ := compile_of_compileAll (List.cons_ne_nil _ _) hcount hjobs hpatterns
    groups w
  refine ⟨⟨_, _, hcompile⟩, ?_⟩
  obtain ⟨ms, w', honce, hstands⟩ := once_eq (List.cons_ne_nil _ _) hcount hjobs hpatterns groups
    text w
  obtain ⟨ks, hks, hfound⟩ := Regex.occurrences_findAll hlist text.toList (flags.contains .utf8)
  let p : Compiled := ⟨0, false, flags.contains .utf8, .literal (encode s.toList)⟩
  refine ⟨ks, orderedEvents [p] (bytesOf text), w', hks, honce.trans ?_⟩
  by_cases hlong : UInt32.size ≤ (bytesOf text).size
  · rw [if_pos hlong, if_pos hlong]
  · have hsize := Nat.not_le.1 hlong
    have hevents : orderedEvents [p] (bytesOf text) =
        ks.map fun k => p.event (Regex.stretchOf s.toList text.toList k) := by
      have hmatches : p.matches (bytesOf text) =
          ks.map (Regex.stretchOf s.toList text.toList) := hfound
      rw [orderedEvents_singleton p hsize, p.events_eq, hmatches, List.map_map]
      rfl
    have hms : ks.map (occurrenceMatch s flags tag) = ms := by
      change List.Forall₂ _ (orderedEvents [p] (bytesOf text)) ms at hstands
      rw [hevents, List.forall₂_map_left_iff] at hstands
      rw [← List.forall₂_eq_eq_eq, List.forall₂_map_left_iff]
      have hall := (List.forall₂_and_left _ _).2 ⟨hks.occursAt, hstands⟩
      exact hall.imp fun k m hk => eq_occurrenceMatch hlist rfl hk.1 hsize hk.2
    rw [if_neg hlong, if_neg hlong, hms]
    rfl

/-- A plus sign is one, and what is outside ASCII is found in byte mode, too. -/
theorem fixed_string_finds_its_occurrences_of_plus :
    ∃ events w', (once (engine .unlimited) false
        [fixedString "a+é" (.ofList [.extractMatched]) none] "éa+éa+a+é").attempt world =
      (.ok ([⟨0, 1, 4, some "a+é", fixedString "a+é" (.ofList [.extractMatched]) none⟩,
        ⟨0, 6, 9, some "a+é", fixedString "a+é" (.ofList [.extractMatched]) none⟩], events), w') := by
  have hflags : ∀ f, (FlagSet.ofList [.extractMatched]).contains f = true → f ∈ literalFlags := by
    intro f hf
    rw [FlagSet.contains_ofList, List.contains_iff_mem, List.mem_singleton] at hf
    subst hf
    decide
  obtain ⟨-, ks, events, w', hks, honce⟩ := fixed_string_finds_its_occurrences
    Builder.buildsLiterals_estimate (s := "a+é") (by decide) (by decide) hflags none false
    "éa+éa+a+é" world
  have hfound : ks = [1, 6] := (Text.occurrences_iff (by decide)).1 hks
  rw [hfound, if_neg (by decide +kernel)] at honce
  exact ⟨events, w', honce⟩

end Builtin

end Multiscan
