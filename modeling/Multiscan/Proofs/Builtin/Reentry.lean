import Multiscan.Builtin.Raw
import Multiscan.Proofs.Builtin.Merge
import Multiscan.Proofs.Builtin.Scratch
/-!
# Built-in engine — calls made while a scan runs

A caller who is handed a match can call the engine again, with the scratch
space of the very scan. What it does at a match is a `Reaction`: it makes
calls, each after it has seen the reply to the one before, and then answers.
Scratch space in use refuses all that would change it, so `scan_refuses_reentry`
finds no difference between such a caller and one that answers the same and
makes no calls (`silent`). When a scan ends, its scratch space is idle.
-/

namespace Multiscan.Builtin

open Engine

variable {σ τ υ : Type}

/-! ## What a caller does at a match -/

/-- A call that uses the scratch space of the running scan. A scan comes with
a callback and a state of its own; `place` says whether there is a place for
the result. -/
inductive Inner (σ : Type)
  | scan (database : Option Handle) (data : Option Text.Bytes) (length : Nat)
      (onEvent : Callback σ) (s : σ)
  | alloc (database : Option Handle) (place : Bool)
  | free
  | size (place : Bool)
  | baseSize (place : Bool)

namespace Inner

/-- What comes back from a call: of a scan, the code and the state in which
its callback was left. -/
abbrev Reply : Inner σ → Type
  | .scan .. => Code × σ
  | .alloc .. => ScratchReply
  | .free => Code
  | .size _ | .baseSize _ => SizeReply

/-- The call, made with scratch space. -/
def run (h : Handle) : (c : Inner σ) → Call c.Reply
  | .scan database data length onEvent s => Builtin.scan database (some h) data length onEvent s
  | .alloc database place => callAlloc database (if place then some (some h) else none)
  | .free => freeScratch (some h)
  | .size place => callSize (scratchSize (some h)) place
  | .baseSize place => callSize (baseScratchSize (some h)) place

/-- Whether a scan has a database, data and room for all patterns. -/
def scannable (heap : Heap) (capacity : Nat) (database : Option Handle)
    (data : Option Text.Bytes) (length : Nat) : Bool :=
  match heap.database? database with
  | some patterns => (data.isSome || length == 0) && decide (patterns.length ≤ capacity)
  | none => false

/-- The reply to a call while the scratch space is in use. Scans leave the
state of their callback as it was; sizes are told. -/
def refusal (heap : Heap) (h : Handle) (capacity : Nat) : (c : Inner σ) → c.Reply
  | .scan database data length _ s =>
    (if scannable heap capacity database data length then Code.scratchInUse else Code.invalid, s)
  | .alloc database place =>
    if place then
      ⟨if (heap.database? database).isSome then Code.scratchInUse else Code.invalid, some h⟩
    else ⟨Code.invalid, none⟩
  | .free => Code.scratchInUse
  | .size place => if place then ⟨Code.success, wholeShare capacity⟩ else ⟨Code.invalid, 0⟩
  | .baseSize place => if place then ⟨Code.success, baseShare capacity⟩ else ⟨Code.invalid, 0⟩

end Inner

/-- What a caller does at a match: answer, in a new state, or make a call and
go on as the reply asks for. -/
inductive Reaction (σ τ : Type)
  | answer (value : Int) (own : τ)
  | call (c : Inner σ) (next : c.Reply → Reaction σ τ)

/-- A call that was made and the reply to it. -/
structure Replied (σ : Type) where
  call : Inner σ
  reply : call.Reply

namespace Reaction

/-- The answer, the new state and the calls that were made on the way. -/
def run (h : Handle) : Reaction σ τ → Call (Int × τ × List (Replied σ))
  | .answer value own => return (value, own, [])
  | .call c next => do
    let reply ← c.run h
    let (value, own, made) ← (next reply).run h
    return (value, own, ⟨c, reply⟩ :: made)

/-- The answer and the new state if calls were replied to in a given way. -/
def value (reply : (c : Inner σ) → c.Reply) : Reaction σ τ → Int × τ
  | .answer value own => (value, own)
  | .call c next => (next (reply c)).value reply

end Reaction

/-- What a caller knows: a state of its own, the matches it was handed and the
calls it made. -/
structure Diary (σ τ : Type) where
  own : τ
  handed : List Event
  made : List (Replied σ)

/-- The caller that reacts to matches. -/
def reacting (h : Handle) (react : Event → τ → Reaction σ τ) : Callback (Diary σ τ) := fun e => do
  let diary ← get
  let (value, own, made) ← StateT.lift ((react e diary.own).run h)
  set (⟨own, diary.handed ++ [e], diary.made ++ made⟩ : Diary σ τ)
  return value

/-- The caller that answers as if calls were replied to in a given way, and
makes none. -/
def silent (reply : (c : Inner σ) → c.Reply) (react : Event → τ → Reaction σ τ) :
    Callback (τ × List Event) := fun e => do
  let (own, handed) ← get
  let (value, own) := (react e own).value reply
  set (own, handed ++ [e])
  return value

variable {heap heap' : Heap} {h : Handle} {capacity : Nat}

theorem reacting_apply (react : Event → τ → Reaction σ τ) (e : Event) (diary : Diary σ τ) :
    reacting h react e diary heap =
      let ran := (react e diary.own).run h heap
      ((ran.1.1, ⟨ran.1.2.1, diary.handed ++ [e], diary.made ++ ran.1.2.2⟩), ran.2) := rfl

theorem silent_apply (reply : (c : Inner σ) → c.Reply) (react : Event → τ → Reaction σ τ)
    (e : Event) (own : τ) (handed : List Event) :
    silent reply react e (own, handed) heap =
      let answered := (react e own).value reply
      ((answered.1, (answered.2, handed ++ [e])), heap) := rfl

/-! ## Scratch space in use -/

/-- A scan with scratch space in use hands over nothing. -/
theorem scan_of_busy (hbusy : heap.scratch? (some h) = some (capacity, true))
    (d : Option Handle) (data : Option Text.Bytes) (length : Nat) (onEvent : Callback σ) (s : σ) :
    scan d (some h) data length onEvent s heap =
      ((if Inner.scannable heap capacity d data length then Code.scratchInUse else Code.invalid,
        s), heap) := by
  rw [scan_apply, hbusy]
  rcases hd : heap.database? d with _ | patterns
  · have hno : Inner.scannable heap capacity d data length = false := by simp [Inner.scannable, hd]
    rw [hno]
    rfl
  have hif : Inner.scannable heap capacity d data length =
      ((data.isSome || length == 0) && decide (patterns.length ≤ capacity)) := by
    simp [Inner.scannable, hd]
  rw [hif]
  dsimp only
  -- The checks come in this order: data, room, use.
  by_cases hnull : data.isNone && length != 0
  · have hbytes : (data.isSome || length == 0) = false := by
      cases data <;> simp_all
    simp [hnull, hbytes]
  · have hbytes : (data.isSome || length == 0) = true := by
      cases data <;> simp_all
    by_cases hroom : capacity < patterns.length
    · simp [hnull, hroom, Nat.not_le.2 hroom]
    · simp [hnull, hbytes, hroom, Nat.not_lt.1 hroom]

/-- **A call on scratch space in use** is refused and changes nothing. -/
theorem Inner.run_of_busy (hbusy : heap.scratch? (some h) = some (capacity, true))
    (c : Inner σ) : c.run h heap = (c.refusal heap h capacity, heap) := by
  cases c with
  | scan database data length onEvent s => exact scan_of_busy hbusy database data length onEvent s
  | alloc database place =>
    cases place with
    | false => rfl
    | true =>
      have hrun : (Inner.alloc database true : Inner σ).run h heap =
          allocScratch database (some h) heap := rfl
      rw [hrun, allocScratch_apply]
      rcases hd : heap.database? database with _ | patterns <;>
        simp [Inner.refusal, hd, hbusy]
  | free =>
    have hrun : (Inner.free : Inner σ).run h heap = freeScratch (some h) heap := rfl
    rw [hrun, freeScratch_apply, hbusy]
    rfl
  | size place =>
    cases place with
    | false => rfl
    | true =>
      have hrun : (Inner.size true : Inner σ).run h heap = measure wholeShare (some h) heap := rfl
      rw [hrun, measure_apply, hbusy]
      rfl
  | baseSize place =>
    cases place with
    | false => rfl
    | true =>
      have hrun : (Inner.baseSize true : Inner σ).run h heap = measure baseShare (some h) heap :=
        rfl
      rw [hrun, measure_apply, hbusy]
      rfl

/-- A reaction comes to the answer that it has by the refusals alone, and all
its calls were refused. -/
theorem Reaction.run_of_busy (hbusy : heap.scratch? (some h) = some (capacity, true))
    (r : Reaction σ τ) :
    ∃ made, r.run h heap =
        (((r.value (Inner.refusal heap h capacity)).1,
          (r.value (Inner.refusal heap h capacity)).2, made), heap) ∧
      ∀ x ∈ made, x.reply = x.call.refusal heap h capacity := by
  induction r with
  | answer value own => exact ⟨[], rfl, fun x hx => nomatch hx⟩
  | call c next ih =>
    obtain ⟨made, hrun, hmade⟩ := ih (c.refusal heap h capacity)
    refine ⟨⟨c, c.refusal heap h capacity⟩ :: made, ?_, List.forall_mem_cons.2 ⟨rfl, hmade⟩⟩
    simp only [Reaction.run, Reaction.value, Call.bind_apply, Call.pure_apply,
      Inner.run_of_busy hbusy, hrun]

/-- **Handing over**, while the scratch space is in use: the caller that makes
calls is handed the same matches as the one that makes none, and leaves
everything as it was. -/
theorem deliver_reacting (hbusy : heap.scratch? (some h) = some (capacity, true))
    (react : Event → τ → Reaction σ τ) (events : List Event) (diary : Diary σ τ) :
    ∃ code own handed made,
      deliver (reacting h react) events diary heap =
        ((code, ⟨own, handed, diary.made ++ made⟩), heap) ∧
      deliver (silent (Inner.refusal heap h capacity) react) events (diary.own, diary.handed)
        heap = ((code, (own, handed)), heap) ∧
      ∀ x ∈ made, x.reply = x.call.refusal heap h capacity := by
  induction events generalizing diary with
  | nil => exact ⟨Code.success, diary.own, diary.handed, [], by rw [List.append_nil]; rfl, rfl,
      fun x hx => nomatch hx⟩
  | cons e rest ih =>
    obtain ⟨made₁, hrun, hmade₁⟩ := Reaction.run_of_busy hbusy (react e diary.own)
    generalize hvalue : (react e diary.own).value (Inner.refusal heap h capacity) = answered
      at hrun
    obtain ⟨value, own₁⟩ := answered
    have hreacting : reacting h react e diary heap =
        ((value, ⟨own₁, diary.handed ++ [e], diary.made ++ made₁⟩), heap) := by
      rw [reacting_apply, hrun]
    have hsilent : silent (Inner.refusal heap h capacity) react e (diary.own, diary.handed) heap =
        ((value, (own₁, diary.handed ++ [e])), heap) := by
      rw [silent_apply, hvalue]
    rw [deliver_cons, deliver_cons, hreacting, hsilent]
    dsimp only
    split
    · obtain ⟨code, own, handed, made, hleft, hright, hmade⟩ :=
        ih ⟨own₁, diary.handed ++ [e], diary.made ++ made₁⟩
      refine ⟨code, own, handed, made₁ ++ made, ?_, hright, ?_⟩
      · rw [hleft, List.append_assoc]
      · exact fun x hx => (List.mem_append.1 hx).elim (hmade₁ x) (hmade x)
    · exact ⟨_, own₁, _, made₁, rfl, rfl, hmade₁⟩

/-! ## The scan around them -/

/-- Scratch space that nothing uses and that is refused to nobody on that
account. -/
structure Reusable (heap : Heap) (h : Handle) (capacity : Nat) : Prop where
  idle : heap.scratch? (some h) = some (capacity, false)
  scan : ∀ {υ : Type} (d : Option Handle) (data : Option Text.Bytes) (length : Nat)
    (onEvent : Callback υ) (u : υ),
    (scan d (some h) data length onEvent u heap).1.1 ≠ Code.scratchInUse
  alloc : ∀ d, (allocScratch d (some h) heap).1.code ≠ Code.scratchInUse
  free : (freeScratch (some h) heap).1 = Code.success

theorem deliver_code (onEvent : Callback υ) (events : List Event) (u : υ) (heap : Heap) :
    (deliver onEvent events u heap).1.1 = Code.success ∨
      (deliver onEvent events u heap).1.1 = Code.scanTerminated := by
  induction events generalizing u heap with
  | nil => exact .inl rfl
  | cons e rest ih =>
    rw [deliver_cons]
    dsimp only
    split
    · exact ih _ _
    · exact .inr rfl

/-- A scan with idle scratch space is refused to every caller, or hands the
same matches to every caller. -/
theorem scan_cases_of_idle (hidle : heap.scratch? (some h) = some (capacity, false))
    (d : Option Handle) (data : Option Text.Bytes) (length : Nat) :
    (∀ {υ : Type} (onEvent : Callback υ) (u : υ),
      scan d (some h) data length onEvent u heap = ((Code.invalid, u), heap)) ∨
    ∃ events, ∀ {υ : Type} (onEvent : Callback υ) (u : υ),
      scan d (some h) data length onEvent u heap =
        let ended := deliver onEvent events u (heap.put h (.scratch capacity true events))
        (ended.1, ended.2.mark h false) := by
  rcases hd : heap.database? d with _ | patterns
  · left
    intro υ onEvent u
    rw [scan_apply, hd]
  by_cases hnull : data = none ∧ length ≠ 0
  · left
    intro υ onEvent u
    simp [scan_apply, hd, hidle, hnull]
  by_cases hroom : capacity < patterns.length
  · left
    intro υ onEvent u
    simp [scan_apply, hd, hidle, hroom]
  · right
    have hbytes : data = none → length = 0 := fun hdata => by
      by_contra hlength
      exact hnull ⟨hdata, hlength⟩
    exact ⟨_, fun onEvent u => scan_of_idle hd hidle (Nat.not_lt.1 hroom) hbytes onEvent u⟩

/-- **Idle scratch space can be used again.** -/
theorem reusable_of_idle (hidle : heap.scratch? (some h) = some (capacity, false)) :
    Reusable heap h capacity where
  idle := hidle
  scan d data length onEvent u := by
    rcases scan_cases_of_idle hidle d data length with hrefused | ⟨events, hdone⟩
    · simp [hrefused]
    · rw [hdone]
      rcases deliver_code onEvent events u (heap.put h (.scratch capacity true events)) with
        hcode | hcode
      · exact hcode ▸ (by decide : Code.success ≠ Code.scratchInUse)
      · exact hcode ▸ (by decide : Code.scanTerminated ≠ Code.scratchInUse)
  alloc d := by
    rw [allocScratch_apply]
    rcases heap.database? d with _ | patterns
    · exact (by decide : Code.invalid ≠ Code.scratchInUse)
    · simp only [hidle]
      exact (by decide : Code.success ≠ Code.scratchInUse)
  free := by rw [freeScratch_apply, hidle]

/-- Calls are refused for the same reasons whatever the buffer holds. -/
theorem refusal_put {buffer : List Event}
    (hc : heap.cell? h = some (.scratch capacity false buffer)) (events : List Event) :
    (Inner.refusal (heap.put h (.scratch capacity true events)) h capacity :
      (c : Inner σ) → c.Reply) = Inner.refusal heap h capacity := by
  have hdatabase : ∀ d, (heap.put h (.scratch capacity true events)).database? d =
      heap.database? d := by
    intro d
    rcases d with _ | k
    · rfl
    · by_cases hk : k = h
      · subst hk
        simp [Heap.database?, Heap.cell?_put_self hc, hc]
      · simp [Heap.database?, Heap.cell?_put (Heap.lt_of_cell? hc), hk]
  have hscannable : ∀ d data length,
      Inner.scannable (heap.put h (.scratch capacity true events)) capacity d data length =
        Inner.scannable heap capacity d data length := by
    intro d data length
    simp only [Inner.scannable, hdatabase]
  funext c
  cases c <;> simp only [Inner.refusal, hscannable, hdatabase]

/-- **Calls made with the scratch space of a running scan are refused and make
no difference.** Whatever calls a caller makes at whatever matches, each is
replied to as if it were the only one: the space is in use, unless the call
itself is invalid. The caller is handed the matches, and the scan ends with
the code and in the heap, as if it answered the same and made no calls. The
space keeps its capacity, and nobody is refused it afterwards. -/
theorem scan_refuses_reentry (hidle : heap.scratch? (some h) = some (capacity, false))
    (d : Option Handle) (data : Option Text.Bytes) (length : Nat)
    (react : Event → τ → Reaction σ τ) (own : τ) :
    ∃ code own' handed made heap',
      scan d (some h) data length (reacting h react) ⟨own, [], []⟩ heap =
        ((code, ⟨own', handed, made⟩), heap') ∧
      (∀ x ∈ made, x.reply = x.call.refusal heap h capacity) ∧
      scan d (some h) data length (silent (Inner.refusal heap h capacity) react) (own, []) heap =
        ((code, (own', handed)), heap') ∧
      (∃ buffer, heap' = heap.put h (.scratch capacity false buffer)) ∧
      Reusable heap' h capacity := by
  obtain ⟨buffer, hc⟩ := Heap.scratch?_some.1 hidle
  rcases scan_cases_of_idle hidle d data length with hrefused | ⟨events, hdone⟩
  · refine ⟨Code.invalid, own, [], [], heap, hrefused _ _, ?_, hrefused _ _, ⟨buffer, ?_⟩,
      reusable_of_idle hidle⟩
    · intro x hx
      exact nomatch hx
    · exact (Heap.put_self hc).symm
  · have hcell := Heap.cell?_put_self hc (.scratch capacity true events)
    have hbusy : (heap.put h (.scratch capacity true events)).scratch? (some h) =
        some (capacity, true) := Heap.scratch?_some.2 ⟨events, hcell⟩
    obtain ⟨code, own', handed, made, hleft, hright, hmade⟩ :=
      deliver_reacting hbusy react events ⟨own, [], []⟩
    rw [refusal_put hc] at hright hmade
    have hend : (heap.put h (.scratch capacity true events)).mark h false =
        heap.put h (.scratch capacity false events) := by
      rw [Heap.mark_of_cell? hcell, Heap.put_put]
    have hidle' : (heap.put h (.scratch capacity false events)).scratch? (some h) =
        some (capacity, false) := Heap.scratch?_some.2 ⟨events, Heap.cell?_put_self hc _⟩
    refine ⟨code, own', handed, made, heap.put h (.scratch capacity false events), ?_, hmade, ?_,
      ⟨events, rfl⟩, reusable_of_idle hidle'⟩
    · simp only [hdone, hleft, hend, List.nil_append]
    · simp only [hdone, hright, hend]

/-- A caller that scans again and frees the space at every match, and asks to
stop if either succeeds. -/
theorem scan_refuses_reentry_at_every_match :
    let heap : Heap := ⟨#[some (.database [⟨7, false, false, .literal [0x61]⟩]),
      some (.scratch 1 false [⟨9, 9, 9⟩])]⟩
    let again : Event → Nat → Reaction Unit Nat := fun _ n =>
      .call (.scan (some 0) (some #[0x61]) 1 (fun _ => return 1) ()) fun scanned =>
        .call .free fun freed =>
          .answer (if scanned.1 = Code.success ∨ freed = Code.success then 1 else 0) (n + 1)
    heap.scratch? (some 1) = some (1, false) ∧
      ∃ code own' handed made heap',
        scan (some 0) (some 1) (some #[0x61, 0x61]) 2 (reacting 1 again) ⟨0, [], []⟩ heap =
          ((code, ⟨own', handed, made⟩), heap') ∧
        (∀ x ∈ made, x.reply = x.call.refusal heap 1 1) ∧
        scan (some 0) (some 1) (some #[0x61, 0x61]) 2 (silent (Inner.refusal heap 1 1) again)
          (0, []) heap = ((code, (own', handed)), heap') ∧
        (∃ buffer, heap' = heap.put 1 (.scratch 1 false buffer)) ∧ Reusable heap' 1 1 := by
  intro heap again
  have hidle : heap.scratch? (some 1) = some (1, false) := rfl
  exact ⟨hidle, scan_refuses_reentry hidle (some 0) (some #[0x61, 0x61]) 2 again 0⟩

end Multiscan.Builtin
