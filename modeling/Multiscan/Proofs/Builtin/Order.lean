import Mathlib.Data.List.Forall2
import Multiscan.Proofs.Builtin.Info
import Multiscan.Proofs.Builtin.Merge
import Multiscan.Proofs.Builtin.Outcome
import Multiscan.Proofs.Regex.Literal
import Multiscan.Proofs.Text.Spans
import Multiscan.Proofs.Translation
/-!
# Built-in engine — the order of matches

The built-in engine reports its events by end, then by start. Counted in
characters several offsets come to the same, and the span of an empty match may
be wider than the match, but what is in order stays in order
(`scan_keeps_order`).
-/

namespace Multiscan.Builtin

open Engine

variable {d : Database} {s : Scanner} {text : String} {events : List Event} {ms : List Match}

/-! ## Matches that stand for events -/

/-- Matches that come of a translation stand for its events. -/
theorem stands_of_translateAll (h : Scanner.translateAll d text.toList events = .ok ms) :
    List.Forall₂ (Scanner.Stands d text) events ms := by
  by_cases hknown : ∀ ev ∈ events, ev.id.toNat < d.length
  · obtain ⟨ms', hms', hstands⟩ := Scanner.translateAll_of_lt hknown text
    obtain rfl := Except.ok.inj (hms'.symm.trans h)
    exact hstands
  · obtain ⟨before, ev, after, rfl, hbefore, hev⟩ := exists_first hknown
    rw [Scanner.translateAll_of_ge hbefore (Nat.not_lt.1 hev)] at h
    cases h

/-- Matches that stand for two events are in the order of the events: the first
ends no later, and if the events end at one byte it starts no later either. -/
theorem order_of_stands {a b : Event} {m n : Match} (hm : Scanner.Stands d text a m)
    (hn : Scanner.Stands d text b n) (h : Event.Le a b) :
    m.stop ≤ n.stop ∧ (a.stop = b.stop → m.start ≤ n.start) := by
  rw [Event.le_iff] at h
  have hstart : m.start = ((Text.OffsetMap.ofText text.toList).span _ _).1 :=
    congrArg Prod.fst hm.span
  have hstart' : n.start = ((Text.OffsetMap.ofText text.toList).span _ _).1 :=
    congrArg Prod.fst hn.span
  have hstop : m.stop = ((Text.OffsetMap.ofText text.toList).span _ _).2 :=
    congrArg Prod.snd hm.span
  have hstop' : n.stop = ((Text.OffsetMap.ofText text.toList).span _ _).2 :=
    congrArg Prod.snd hn.span
  rw [hstart, hstart', hstop, hstop']
  refine ⟨Text.OffsetMap.span_snd_mono _ _ _ (by omega), fun hend => ?_⟩
  rw [hend] at h
  exact (Text.OffsetMap.span_mono (by omega) (by rw [hend])).1

/-- Events in order with the matches that stand for them. -/
theorem pairwise_zip (hall : List.Forall₂ (Scanner.Stands d text) events ms)
    (h : events.Pairwise Event.Le) :
    (events.zip ms).Pairwise fun a b =>
      a.2.stop ≤ b.2.stop ∧ (a.1.stop = b.1.stop → a.2.start ≤ b.2.start) := by
  obtain ⟨hlength, hstands⟩ := List.forall₂_iff_zip.1 hall
  rw [← List.map_fst_zip (Nat.le_of_eq hlength), List.pairwise_map] at h
  exact h.imp_of_mem fun ha hb hle => order_of_stands (hstands ha) (hstands hb) hle

/-! ## The scan -/

variable {setup : Setup} {w w' : World Heap}

/-- The events of a scan that keeps all matches are in order, of whatever is asked. -/
theorem collectScan_ordered (database scratch : Handle) (data : Text.Bytes) (heap : Heap) :
    (collectScan database scratch data heap).1.events.Pairwise Event.Le := by
  rw [collectScan_apply]
  rcases heap.database? (some database) with _ | patterns
  · exact .nil
  rcases heap.scratch? (some scratch) with _ | ⟨capacity, busy⟩
  · exact .nil
  dsimp only
  split
  · exact .nil
  split
  · exact .nil
  · exact orderedEvents_ordered patterns data

/-- A scan that succeeds keeps its events in order, and its matches stand for them. -/
theorem events_of_scan (h : (s.scan (engine setup) d text).attempt w = (.ok ms, w')) :
    let events := (s.scanStep (engine setup) d text w).1.2.events
    events.Pairwise Event.Le ∧ List.Forall₂ (Scanner.Stands d text) events ms := by
  have hstep : (s.scanStep (engine setup) d text w).1.1 = .ok ms := congrArg Prod.fst h
  rcases hask : s.toAsk d text with err | ⟨scratch, database, data⟩
  · rw [Scanner.scanStep, hask] at hstep
    cases hstep
  have hordered := collectScan_ordered database scratch data w.engine
  rcases hanswer : collectScan database scratch data w.engine with ⟨⟨code, events⟩, heap⟩
  rw [hanswer] at hordered
  rw [Scanner.scanStep_of_answer (E := engine setup) hask hanswer] at hstep ⊢
  split at hstep
  · exact ⟨hordered, stands_of_translateAll hstep⟩
  · cases hstep

/-- **Translation keeps the order of ends.** Spans are monotone in both offsets, in
every text. So whatever the built-in engine scans, the matches of a scan that
succeeds, which stand one by one for the events, are in the order of their ends in
characters, and those whose events end at the same byte in the order of their
starts. -/
theorem scan_keeps_order (setup : Setup) :
    (∀ (cs : List Char) (start start' stop stop' : Nat), start ≤ start' → stop ≤ stop' →
      ((Text.OffsetMap.ofText cs).span start stop).1 ≤
          ((Text.OffsetMap.ofText cs).span start' stop').1 ∧
        ((Text.OffsetMap.ofText cs).span start stop).2 ≤
          ((Text.OffsetMap.ofText cs).span start' stop').2) ∧
    ∀ (s : Scanner) (d : Database) (text : String) (w w' : World Heap) (ms : List Match),
      (s.scan (engine setup) d text).attempt w = (.ok ms, w') →
      let events := (s.scanStep (engine setup) d text w).1.2.events
      List.Forall₂ (Scanner.Stands d text) events ms ∧
        ms.Pairwise (fun m n => m.stop ≤ n.stop) ∧
        (events.zip ms).Pairwise fun a b => a.1.stop = b.1.stop → a.2.start ≤ b.2.start := by
  refine ⟨fun cs start start' stop stop' => Text.OffsetMap.span_mono, ?_⟩
  intro s d text w w' ms h events
  obtain ⟨hordered, hstands⟩ := events_of_scan h
  have hpairs := pairwise_zip hstands hordered
  refine ⟨hstands, ?_, hpairs.imp And.right⟩
  rw [← List.map_snd_zip (Nat.le_of_eq hstands.length_eq.symm), List.pairwise_map]
  exact hpairs.imp And.left

/-- The second byte of a character is found before the first in the batch, and behind
it in the text. -/
theorem scan_keeps_order_of_cut :
    let patterns : List Compiled :=
      [⟨0, false, false, .literal [0xA9]⟩, ⟨1, false, false, .literal [0xC3]⟩]
    let w : World Heap := .start ⟨#[some (.database patterns), some (.scratch 3 false [])]⟩
    let s : Scanner := ⟨.allocated 1, [⟨9, 9, 9⟩]⟩
    let d : Database := ⟨some 0, [.ofPattern "\\xA9" .empty, .ofPattern "\\xC3" .empty]⟩
    ∃ ms w', (s.scan (engine .unlimited) d "aé").attempt w = (.ok ms, w') ∧
      ms.map (fun m => (m.id, m.start, m.stop)) = [(1, 1, 2), (0, 1, 2)] ∧
      ms.Pairwise fun m n => m.stop ≤ n.stop := by
  intro patterns w s d
  have hbytes : Text.bytesOf "aé" = #[0x61, 0xC3, 0xA9] := by decide +kernel
  have hfound : patterns.flatMap (·.events (Text.bytesOf "aé")) = [⟨0, 2, 3⟩, ⟨1, 1, 2⟩] := by
    have hfirst : Regex.findAll #[0x61, 0xC3, 0xA9] false (.literal [0xA9]) = [(2, 3)] := by
      change Regex.findFrom _ _ _ 5 0 none = _
      simp only [Regex.findFrom, Regex.find_literal (List.cons_ne_nil _ _)]
      decide +kernel
    have hsecond : Regex.findAll #[0x61, 0xC3, 0xA9] false (.literal [0xC3]) = [(1, 2)] := by
      change Regex.findFrom _ _ _ 5 0 none = _
      simp only [Regex.findFrom, Regex.find_literal (List.cons_ne_nil _ _)]
      decide +kernel
    rw [hbytes, List.flatMap_cons, List.flatMap_singleton, Compiled.events_eq, Compiled.events_eq]
    simp only [Compiled.matches, hfirst, hsecond]
    rfl
  have hevents : orderedEvents patterns (Text.bytesOf "aé") = [⟨1, 1, 2⟩, ⟨0, 2, 3⟩] := by
    have hordered : List.Pairwise (Event.before · ·) [⟨1, 1, 2⟩, ⟨0, 2, 3⟩] := by decide
    have hperm := orderedEvents_perm patterns (Text.bytesOf "aé")
    rw [hfound] at hperm
    exact eq_of_perm_of_ordered (hperm.trans (.swap _ _ _)) (orderedEvents_ordered _ _)
      (hordered.imp Event.before_iff.1)
  have hanswer : (engine .unlimited).answer (.scan 0 1 (Text.bytesOf "aé")) w.engine =
      (⟨Code.success, orderedEvents patterns (Text.bytesOf "aé")⟩,
        w.engine.put 1 (.scratch 3 false (orderedEvents patterns (Text.bytesOf "aé")))) :=
    collectScan_apply (Text.bytesOf "aé")
  have hask : s.toAsk d "aé" = .ok (1, 0, Text.bytesOf "aé") := rfl
  have htranslated : (Scanner.translateAll d "aé".toList
      [⟨1, 1, 2⟩, ⟨0, 2, 3⟩]).toOption.map (List.map fun m => (m.id, m.start, m.stop)) =
      some [(1, 1, 2), (0, 1, 2)] := by decide +kernel
  obtain ⟨ms, hms, hshown⟩ := Option.map_eq_some_iff.1 htranslated
  clear_value d s w
  have hscan : ((s.scan (engine .unlimited) d "aé").attempt w).1 = .ok ms := by
    change (s.scanStep (engine .unlimited) d "aé" w).1.1 = _
    rw [Scanner.scanStep_of_answer hask hanswer, if_pos rfl, hevents]
    exact eq_ok_of_toOption hms
  obtain ⟨-, hordered, -⟩ := (scan_keeps_order .unlimited).2 s d "aé" w _ ms (Prod.ext hscan rfl)
  exact ⟨ms, _, Prod.ext hscan rfl, hshown, hordered⟩

end Multiscan.Builtin
