import Multiscan.Proofs.Builtin.Scratch
import Multiscan.Session.Probe
/-!
# Session — what the probe does

A request that the script says nothing about is left to the built-in engine.
What is to be taken back, and every question for a size, reaches the heap of
the built-in engine in any case. The script stays as it is.
-/

namespace Multiscan.Session

open Engine

/-- A script says nothing about a request. -/
def Script.LeavesAlone (s : Script) : Request → Prop
  | .compile _ _ => s.compile = none
  | .freeDatabase _ => s.freeDatabase = none
  | .databaseSize _ => s.databaseSize = none
  | .allocScratch _ _ => s.alloc = none
  | .freeScratch _ => s.freeScratch = none
  | .scratchSize _ => s.scratchSize = none
  | .baseScratchSize _ => s.baseScratchSize = none
  | .scan _ _ _ => s.events = none ∧ s.scan = none
  | .info _ _ => s.info = none
  | .freeInfo _ => True
  | .freeError _ _ => s.freeError = none

namespace Probe

variable {setup : Builtin.Setup} {p : Probe} {α β : Type}

/-! ## Running calls -/

namespace Call

@[simp] theorem pure_apply (a : α) (p : Probe) : (pure a : Call α) p = (a, p) := rfl

@[simp] theorem bind_apply (a : Call α) (f : α → Call β) (p : Probe) :
    (a >>= f) p = f (a p).1 (a p).2 := rfl

@[simp] theorem map_apply (f : α → β) (a : Call α) (p : Probe) :
    (f <$> a) p = (f (a p).1, (a p).2) := rfl

@[simp] theorem get_apply (p : Probe) : (get : Call Probe) p = (p, p) := rfl

@[simp] theorem forward_apply (call : Builtin.Call α) (p : Probe) :
    forward call p = ((call p.heap).1, { p with heap := (call p.heap).2 }) := rfl

@[simp] theorem count_apply (f : Tallies → Tallies) (p : Probe) :
    count f p = ((), { p with tallies := f p.tallies }) := rfl

end Call

/-! ## Requests -/

/-- **What is not scripted is left to the built-in engine.** -/
theorem answer_of_leavesAlone (setup : Builtin.Setup) {r : Request}
    (h : p.script.LeavesAlone r) :
    (answer setup r p).1 = (Builtin.answer setup r p.heap).1 ∧
      (answer setup r p).2.heap = (Builtin.answer setup r p.heap).2 ∧
      (answer setup r p).2.script = p.script := by
  rcases r with ⟨jobs, mode⟩ | d | d | ⟨d, scratch⟩ | s | s | s | ⟨d, s, data⟩ | ⟨pattern, flags⟩ |
    i | ⟨v, e⟩ <;> simp only [Script.LeavesAlone] at h
  case compile =>
    rcases hreply : Builtin.answer setup (.compile jobs mode) p.heap with
      ⟨⟨code, _ | d, _ | e⟩, heap⟩ <;>
      simp [answer, compile, h, hreply, countDatabase, countRecord]
  case info =>
    rcases hreply : Builtin.answer setup (.info pattern flags) p.heap with
      ⟨⟨code, _ | i, _ | e⟩, heap⟩ <;>
      simp [answer, info, h, hreply, countInfo, countRecord]
  case allocScratch =>
    rcases hreply : Builtin.answer setup (.allocScratch d scratch) p.heap with
      ⟨⟨code, _ | s⟩, heap⟩ <;> rcases scratch with _ | s' <;>
      simp [answer, allocScratch, h, hreply, countScratch]
  case scan => simp [answer, scan, h]
  all_goals simp [answer, measure, takeBack, *]

/-- A scripted refusal gives out its record, if it has one. -/
theorem refuse_apply (r : Refusal) (p : Probe) :
    refuse r p = match r.record with
      | none => ((r.code, none), p)
      | some (message, index) => ((r.code, some ⟨p.heap.cells.size, message, index⟩),
          ⟨(p.heap.give (.record message index)).2, p.script,
            { p.tallies with records := p.tallies.records.give }⟩) := by
  rcases r with ⟨code, _ | ⟨message, index⟩⟩
  · rfl
  · rfl

/-- A scripted reply to a request for scratch space leaves everything as it is. -/
theorem answer_alloc_of_script {code : Code} (h : p.script.alloc = some code) (d : Handle)
    (scratch : Option Handle) :
    answer setup (.allocScratch d scratch) p = (⟨code, scratch⟩, p) := by
  simp [answer, allocScratch, h]

/-- **Requests do not change the script.** -/
theorem script_answer (r : Request) (p : Probe) : (answer setup r p).2.script = p.script := by
  by_cases hleaves : p.script.LeavesAlone r
  · exact (answer_of_leavesAlone setup hleaves).2.2
  rcases r with ⟨jobs, mode⟩ | d | d | ⟨d, scratch⟩ | s | s | s | ⟨d, s, data⟩ | ⟨pattern, flags⟩ |
    i | ⟨v, e⟩ <;> simp only [Script.LeavesAlone] at hleaves
  case compile =>
    obtain ⟨r, hr⟩ := Option.ne_none_iff_exists'.1 hleaves
    rcases r with ⟨code, _ | ⟨message, index⟩⟩ <;> simp [answer, compile, hr, refuse_apply]
  case info =>
    obtain ⟨r | raw, hr⟩ := Option.ne_none_iff_exists'.1 hleaves
    · rcases r with ⟨code, _ | ⟨message, index⟩⟩ <;> simp [answer, info, hr, refuse_apply]
    · simp [answer, info, hr, countInfo]
  case allocScratch =>
    obtain ⟨code, hcode⟩ := Option.ne_none_iff_exists'.1 hleaves
    rw [answer_alloc_of_script hcode]
  case scan =>
    rcases hevents : p.script.events with _ | events <;>
      rcases hscan : p.script.scan with _ | code <;> simp_all [answer, scan]
  case freeInfo => exact absurd trivial hleaves
  all_goals
    obtain ⟨code, hcode⟩ := Option.ne_none_iff_exists'.1 hleaves
    simp [answer, measure, takeBack, hcode]

/-- A script does not change which scratch space is asked to grow. -/
theorem scratch_answer (d k : Handle) (p : Probe) :
    (answer setup (.allocScratch d (some k)) p).1.scratch = some k := by
  rcases hs : p.script.alloc with _ | code
  · have hleaves : p.script.LeavesAlone (.allocScratch d (some k)) := hs
    rw [(answer_of_leavesAlone setup hleaves).1]
    exact Builtin.scratch_allocScratch (some d) k p.heap
  · rw [answer_alloc_of_script hs]

end Probe

end Multiscan.Session
