import Multiscan.Builtin.Engine
import Multiscan.Proofs.Builtin.Heap
/-!
# Built-in engine — what one scan does

A scan is refused, and then nothing has changed, or it puts all matches into
the buffer in order and hands them over.
-/

namespace Multiscan.Builtin

open Engine

variable {heap : Heap} {d h : Handle} {patterns : List Compiled} {capacity : Nat}
variable {data : Option Text.Bytes} {length : Nat} {τ : Type}

/-- The matches of all patterns in order. -/
def orderedEvents (patterns : List Compiled) (data : Text.Bytes) : List Event :=
  (patterns.flatMap (·.events data)).mergeSort Event.before

theorem gather_eq (patterns : List Compiled) (data : Text.Bytes) (buffer : List Event) :
    gather patterns data buffer = buffer ++ patterns.flatMap (·.events data) := by
  rw [gather, List.foldl_append_eq_append, List.flatMap_def]

/-- Filling the buffer leaves nothing of what was in it. -/
theorem fill_eq {busy : Bool} {buffer : List Event}
    (hc : heap.cell? h = some (.scratch capacity busy buffer)) (patterns : List Compiled)
    (data : Text.Bytes) :
    heap.fill h patterns data =
      heap.put h (.scratch capacity busy (orderedEvents patterns data)) := by
  have hclear := Heap.cell?_put_self hc (.scratch capacity busy [])
  have hgather := Heap.cell?_put_self hc (.scratch capacity busy (gather patterns data []))
  simp only [Heap.fill, Heap.setBuffer_of_cell? hc, Heap.buffer_of_cell? hclear,
    Heap.setBuffer_of_cell? hclear, Heap.put_put, Heap.buffer_of_cell? hgather,
    Heap.setBuffer_of_cell? hgather]
  rw [gather_eq, List.nil_append, orderedEvents]

/-! ## Scans -/

namespace Scan

variable {α β : Type}

@[simp] theorem pure_apply (a : α) (t : τ) (heap : Heap) :
    (pure a : StateT τ Call α) t heap = ((a, t), heap) := rfl

@[simp] theorem bind_apply (a : StateT τ Call α) (f : α → StateT τ Call β) (t : τ) (heap : Heap) :
    (a >>= f) t heap = f (a t heap).1.1 (a t heap).1.2 (a t heap).2 := rfl

@[simp] theorem lift_apply (a : Call α) (t : τ) (heap : Heap) :
    (StateT.lift a : StateT τ Call α) t heap = (((a heap).1, t), (a heap).2) := rfl

end Scan

/-- A scan, run in a heap. -/
theorem scan_apply {d : Option Handle} (onEvent : Callback τ) (t : τ) :
    scan d (some h) data length onEvent t heap =
      match heap.database? d, heap.scratch? (some h) with
      | some patterns, some (capacity, busy) =>
        if data.isNone && length != 0 then ((Code.invalid, t), heap)
        else if capacity < patterns.length then ((Code.invalid, t), heap)
        else if busy then ((Code.scratchInUse, t), heap)
        else
          let filled := (heap.mark h true).fill h patterns ((data.getD #[]).extract 0 length)
          let ended := deliver onEvent (filled.buffer h) t filled
          (ended.1, ended.2.mark h false)
      | _, _ => ((Code.invalid, t), heap) := by
  rcases hd : heap.database? d with _ | patterns
  · simp [scan, hd]
  rcases hs : heap.scratch? (some h) with _ | ⟨capacity, busy⟩
  · simp [scan, hd, hs]
  simp only [scan, Scan.bind_apply, Scan.lift_apply, Call.get_apply, hd, hs]
  by_cases hnull : data.isNone && length != 0
  · simp only [if_pos hnull, Scan.pure_apply]
  by_cases hcap : capacity < patterns.length
  · simp only [if_neg hnull, if_pos hcap, Scan.pure_apply]
  rcases busy with _ | _
  · simp only [if_neg hnull, if_neg hcap, Bool.false_eq_true, if_false, Scan.bind_apply,
      Scan.lift_apply, Scan.pure_apply, Call.get_apply, Call.modify_apply]
  · simp only [if_neg hnull, if_neg hcap, if_true, Scan.pure_apply]

/-- **A scan with idle scratch space hands over all matches in order.** The
scratch space is in use meanwhile. -/
theorem scan_of_idle {d : Option Handle} (hd : heap.database? d = some patterns)
    (hs : heap.scratch? (some h) = some (capacity, false)) (hcap : patterns.length ≤ capacity)
    (hdata : data = none → length = 0) (onEvent : Callback τ) (t : τ) :
    let events := orderedEvents patterns ((data.getD #[]).extract 0 length)
    let ended := deliver onEvent events t (heap.put h (.scratch capacity true events))
    scan d (some h) data length onEvent t heap = (ended.1, ended.2.mark h false) := by
  obtain ⟨buffer, hc⟩ := Heap.scratch?_some.1 hs
  have hnull : (data.isNone && length != 0) = false := by
    rcases data with _ | bytes
    · simp [hdata rfl]
    · rfl
  have hmark := Heap.cell?_put_self hc (.scratch capacity true buffer)
  have hfill := Heap.cell?_put_self hc
    (.scratch capacity true (orderedEvents patterns ((data.getD #[]).extract 0 length)))
  rw [scan_apply, hd, hs]
  simp only [hnull, Nat.not_lt.2 hcap, Bool.false_eq_true, if_false, Heap.mark_of_cell? hc,
    fill_eq hmark, Heap.put_put, Heap.buffer_of_cell? hfill]

/-! ## Keeping all matches -/

theorem deliver_collect (events kept : List Event) :
    deliver collect events kept heap = ((Code.success, events.reverse ++ kept), heap) := by
  induction events generalizing kept with
  | nil => rfl
  | cons e rest ih =>
    have hcons : deliver collect (e :: rest) kept heap = deliver collect rest (e :: kept) heap := rfl
    rw [hcons, ih, List.reverse_cons, List.append_assoc, List.singleton_append]

/-- **A scan that keeps all matches** replies with them in order, or with an
error code and nothing. Apart from the buffer the heap stays as it is. -/
theorem collectScan_apply (data : Text.Bytes) :
    collectScan d h data heap =
      match heap.database? (some d), heap.scratch? (some h) with
      | some patterns, some (capacity, busy) =>
        if capacity < patterns.length then (⟨Code.invalid, []⟩, heap)
        else if busy then (⟨Code.scratchInUse, []⟩, heap)
        else (⟨Code.success, orderedEvents patterns data⟩,
          heap.put h (.scratch capacity false (orderedEvents patterns data)))
      | _, _ => (⟨Code.invalid, []⟩, heap) := by
  have hrun : collectScan d h data heap =
      let r := scan (some d) (some h) (some data) data.size collect [] heap
      (⟨r.1.1, r.1.2.reverse⟩, r.2) := rfl
  rw [hrun]
  rcases hd : heap.database? (some d) with _ | patterns
  · simp [scan_apply, hd]
  rcases hs : heap.scratch? (some h) with _ | ⟨capacity, busy⟩
  · simp [scan_apply, hd, hs]
  by_cases hcap : capacity < patterns.length
  · simp [scan_apply, hd, hs, hcap]
  rcases busy with _ | _
  · obtain ⟨buffer, hc⟩ := Heap.scratch?_some.1 hs
    have hbusy := Heap.cell?_put_self hc (.scratch capacity true (orderedEvents patterns data))
    have hnone : some data = none → data.size = 0 := nofun
    simp only [scan_of_idle hd hs (Nat.not_lt.1 hcap) hnone, Option.getD_some,
      Array.extract_size, deliver_collect, List.append_nil, List.reverse_reverse,
      Heap.mark_of_cell? hbusy, Heap.put_put, hcap, if_false, Bool.false_eq_true]
  · simp [scan_apply, hd, hs, hcap]

/-- With idle scratch space that has room, it replies with the matches. -/
theorem collectScan_of_idle (hd : heap.database? (some d) = some patterns)
    (hs : heap.scratch? (some h) = some (capacity, false)) (hcap : patterns.length ≤ capacity)
    (data : Text.Bytes) :
    collectScan d h data heap = (⟨Code.success, orderedEvents patterns data⟩,
      heap.put h (.scratch capacity false (orderedEvents patterns data))) := by
  rw [collectScan_apply, hd, hs]
  dsimp only
  rw [if_neg (Nat.not_lt.2 hcap), if_neg Bool.false_ne_true]

end Multiscan.Builtin
