import Multiscan.Builtin.Raw
import Multiscan.Proofs.Builtin.Compile
import Multiscan.Proofs.Builtin.Reentry
/-!
# Built-in engine — calls that fail

Every call that the engine knows, with whatever handles and places the
caller passes: any of them may be missing, and a handle may stand for
something of another kind. `Does` says once what a call can do to the heap,
and `refused_call_changes_nothing` reads off it that a call that fails has
done nothing but leave a record, and that only if the reply says so. Calls
from within a scan are another matter: the caller of a scan answers here by
what it was handed and calls nothing.
-/

namespace Multiscan.Builtin

open Engine

/-! ## Calls -/

/-- A call as a caller makes it. A `place` is where a result is to be put;
that for scratch space holds what the caller has so far. A scan comes with
the caller's answer to the matches handed over so far. Records and facts have
a type of their own for callers: what is taken back as one is not looked at. -/
inductive RawCall
  | compile (c : BatchCall)
  | freeRecord (record : Option Handle)
  | databaseSize (database : Option Handle) (place : Bool)
  | freeDatabase (database : Option Handle)
  | alloc (database : Option Handle) (place : Option (Option Handle))
  | scratchSize (scratch : Option Handle) (place : Bool)
  | baseScratchSize (scratch : Option Handle) (place : Bool)
  | freeScratch (scratch : Option Handle)
  | scan (database scratch : Option Handle) (data : Option Text.Bytes) (length : Nat)
      (answer : List Event → Int)
  | info (pattern : Option Text.Bytes) (flags : UInt32) (infoPlace errorPlace : Bool)
  | freeInfo (facts : Option Handle)

/-- What a call comes to: its code, what stands in the place for scratch
space, if there is one, and the record of an error that is handed out. -/
structure Outcome where
  code : Code
  place : Option (Option Handle)
  record : Option ErrorRecord

/-- The callback that answers by the matches it was handed so far. -/
def answering (answer : List Event → Int) : Callback (List Event) := fun e => do
  let handed ← get
  set (handed ++ [e])
  return answer (handed ++ [e])

namespace RawCall

/-- What stands in the place for scratch space before the call. -/
def place : RawCall → Option (Option Handle)
  | .alloc _ place => place
  | _ => none

/-- The call, made to the engine as it is set up. The one call that has no code
to return comes to success. -/
def run (setup : Setup) : RawCall → Call Outcome
  | .compile c => do
    let reply ← callCompile setup c
    return ⟨reply.code, none, reply.error⟩
  | .freeRecord record => return ⟨← Builtin.freeRecord record, none, none⟩
  | .databaseSize database place =>
    return ⟨(← callSize (Builtin.databaseSize setup.builder database) place).code, none, none⟩
  | .freeDatabase database => return ⟨← Builtin.freeDatabase database, none, none⟩
  | .alloc database place => do
    let reply ← callAlloc database place
    return ⟨reply.code, place.map fun _ => reply.scratch, none⟩
  | .scratchSize scratch place =>
    return ⟨(← callSize (Builtin.scratchSize scratch) place).code, none, none⟩
  | .baseScratchSize scratch place =>
    return ⟨(← callSize (Builtin.baseScratchSize scratch) place).code, none, none⟩
  | .freeScratch scratch => return ⟨← Builtin.freeScratch scratch, none, none⟩
  | .scan database scratch data length answer =>
    return ⟨(← Builtin.scan database scratch data length (answering answer) []).1, none, none⟩
  | .info pattern flags infoPlace errorPlace => do
    let reply ← callInfo pattern flags infoPlace errorPlace
    return ⟨reply.code, none, reply.error⟩
  | .freeInfo facts => do
    Builtin.freeInfo facts
    return ⟨Code.success, none, none⟩

/-- A handle that the call needs is missing or stands for nothing of the
right kind. What is to be taken back may be missing, and so may scratch space
that is to grow. -/
def Lacks (heap : Heap) : RawCall → Prop
  | .databaseSize database _ => heap.database? database = none
  | .freeDatabase database => database.isSome ∧ heap.database? database = none
  | .alloc database place =>
    heap.database? database = none ∨ ∃ h, place = some (some h) ∧ heap.scratch? (some h) = none
  | .scratchSize scratch _ | .baseScratchSize scratch _ => heap.scratch? scratch = none
  | .freeScratch scratch => scratch.isSome ∧ heap.scratch? scratch = none
  | .scan database scratch .. => heap.database? database = none ∨ heap.scratch? scratch = none
  | _ => False

/-- The call takes nothing back. -/
def FreesNothing : RawCall → Prop
  | .freeRecord record => record = none
  | .freeDatabase database => database = none
  | .freeScratch scratch => scratch = none
  | .freeInfo facts => facts = none
  | _ => False

end RawCall

/-- What there is after some calls on a heap that was empty. -/
def heapAfter (setup : Setup) (calls : List RawCall) : Heap :=
  calls.foldl (fun heap c => (c.run setup heap).2) .empty

/-! ## What a heap shows -/

/-- A cell but for what is in its buffer. -/
def Cell.shown : Cell → Cell
  | .scratch capacity busy _ => .scratch capacity busy []
  | c => c

/-- The message and the index in a record. -/
def Cell.record? : Cell → Option (Option String × Int)
  | .record message index => some (message, index)
  | _ => none

namespace Heap

/-- What a handle stands for, but for what is in a buffer. -/
def shown (heap : Heap) (h : Handle) : Option Cell := (heap.cell? h).map Cell.shown

/-- The record that a handle stands for. -/
def record? (heap : Heap) (h : Handle) : Option (Option String × Int) :=
  (heap.cell? h).bind Cell.record?

/-- What a handle shows besides a record that was handed out, if one was. -/
def shownBesides (heap : Heap) : Option ErrorRecord → Handle → Option Cell
  | some r, h => if h = r.handle then some (.record r.message r.index) else heap.shown h
  | none, h => heap.shown h

/-- No scan is running. -/
def AtRest (heap : Heap) : Prop :=
  ∀ h capacity busy, heap.scratch? h = some (capacity, busy) → busy = false

theorem cell?_size (heap : Heap) : heap.cell? heap.cells.size = none := by
  rcases hc : heap.cell? heap.cells.size with _ | c
  · rfl
  · exact absurd (lt_of_cell? hc) (Nat.lt_irrefl _)

theorem database?_shown (heap : Heap) (h : Handle) :
    heap.database? (some h) =
      match heap.shown h with
      | some (.database patterns) => some patterns
      | _ => none := by
  rw [shown, database?, Option.bind_some]
  rcases heap.cell? h with _ | _ | _ | _ | _ <;> rfl

theorem scratch?_shown (heap : Heap) (h : Handle) :
    heap.scratch? (some h) =
      match heap.shown h with
      | some (.scratch capacity busy _) => some (capacity, busy)
      | _ => none := by
  rw [shown, scratch?, Option.bind_some]
  rcases heap.cell? h with _ | _ | _ | _ | _ <;> rfl

theorem record?_shown (heap : Heap) (h : Handle) :
    heap.record? h = (heap.shown h).bind Cell.record? := by
  rw [shown, record?]
  rcases heap.cell? h with _ | _ | _ | _ | _ <;> rfl

end Heap

/-! ## What a call can do -/

/-- A cell that a call gives out when it succeeds: no record, and no scan uses
it. -/
def Cell.Fresh : Cell → Prop
  | .database _ => True
  | .scratch _ busy _ => busy = false
  | .record .. => False
  | .info _ => True

/-- What a call can do to the heap, with the code and the record that it
replies with. -/
inductive Does (heap : Heap) : Code → Option ErrorRecord → Heap → Prop
  | keeps : Does heap Code.success none heap
  | refuses (code : Code) (hcode : code = Code.invalid ∨ code = Code.scratchInUse) :
    Does heap code none heap
  | records (message : String) (index : Int) :
    Does heap Code.compilerError (some ⟨heap.cells.size, some message, index⟩)
      (heap.give (.record (some message) index)).2
  | gives (c : Cell) (hc : c.Fresh) : Does heap Code.success none (heap.give c).2
  | takes (h : Handle) : Does heap Code.success none (heap.take h)
  | grows (h : Handle) (capacity capacity' : Nat) (buffer : List Event)
      (hc : heap.cell? h = some (.scratch capacity false buffer)) :
    Does heap Code.success none (heap.put h (.scratch capacity' false buffer))
  | scans (h : Handle) (capacity : Nat) (buffer events : List Event) (code : Code)
      (hc : heap.cell? h = some (.scratch capacity false buffer))
      (hcode : code = Code.success ∨ code = Code.scanTerminated) :
    Does heap code none (heap.put h (.scratch capacity false events))

section Calls

variable {setup : Setup} {heap : Heap}

theorem Does.invalid : Does heap Code.invalid none heap := .refuses _ (.inl rfl)

theorem Does.inUse : Does heap Code.scratchInUse none heap := .refuses _ (.inr rfl)

theorem does_compile (c : BatchCall) :
    Does heap (callCompile setup c heap).1.code (callCompile setup c heap).1.error
      (callCompile setup c heap).2 := by
  rw [callCompile]
  split
  · rcases compileBatch_cases setup c.batch c.mode heap with ⟨message, index, h⟩ |
      ⟨-, patterns, -, h⟩ <;> rw [h]
    · exact .records message index
    · exact .gives _ trivial
  · exact .invalid

theorem does_info (pattern : Option Text.Bytes) (flags : UInt32) (infoPlace errorPlace : Bool) :
    Does heap (callInfo pattern flags infoPlace errorPlace heap).1.code
      (callInfo pattern flags infoPlace errorPlace heap).1.error
      (callInfo pattern flags infoPlace errorPlace heap).2 := by
  rw [callInfo]
  split
  · rcases answerInfo_cases pattern flags heap with ⟨message, h⟩ | ⟨raw, h⟩ <;> rw [h]
    · exact .records message 0
    · exact .gives _ trivial
  · exact .invalid

theorem does_alloc (database : Option Handle) (place : Option (Option Handle)) :
    Does heap (callAlloc database place heap).1.code none (callAlloc database place heap).2 := by
  rcases place with _ | scratch
  · exact .invalid
  rw [callAlloc, allocScratch_apply]
  rcases heap.database? database with _ | patterns
  · exact .invalid
  rcases scratch with _ | h
  · exact .gives _ rfl
  dsimp only
  rcases hs : heap.scratch? (some h) with _ | ⟨capacity, _ | _⟩
  · exact .invalid
  · obtain ⟨buffer, hc⟩ := Heap.scratch?_some.1 hs
    rw [Heap.grow_of_cell? hc]
    exact .grows h capacity _ buffer hc
  · exact .inUse

/-- Whatever callers answer, matches are handed over without touching the
heap. -/
theorem deliver_answering (answer : List Event → Int) (events handed : List Event) :
    (deliver (answering answer) events handed heap).2 = heap := by
  induction events generalizing handed with
  | nil => rfl
  | cons e rest ih =>
    have hfirst : answering answer e handed heap =
        ((answer (handed ++ [e]), handed ++ [e]), heap) := rfl
    rw [deliver_cons, hfirst]
    dsimp only
    split
    · exact ih _
    · rfl

/-- A scan without scratch space is invalid. -/
theorem scan_of_noScratch {τ : Type} (database : Option Handle) (data : Option Text.Bytes)
    (length : Nat) (onEvent : Callback τ) (t : τ) :
    scan database none data length onEvent t heap = ((Code.invalid, t), heap) := by
  rcases hd : heap.database? database with _ | patterns <;> simp [scan]

theorem does_scan (database scratch : Option Handle) (data : Option Text.Bytes) (length : Nat)
    (answer : List Event → Int) :
    Does heap (scan database scratch data length (answering answer) [] heap).1.1 none
      (scan database scratch data length (answering answer) [] heap).2 := by
  rcases scratch with _ | h
  · rw [scan_of_noScratch]
    exact .invalid
  rcases hs : heap.scratch? (some h) with _ | ⟨capacity, _ | _⟩
  · rw [scan_apply, hs]
    rcases heap.database? database with _ | patterns <;> exact .invalid
  · rcases scan_cases_of_idle hs database data length with hrefused | ⟨events, hdone⟩
    · rw [hrefused]
      exact .invalid
    · obtain ⟨buffer, hc⟩ := Heap.scratch?_some.1 hs
      have hbusy := Heap.cell?_put_self hc (.scratch capacity true events)
      rw [hdone]
      dsimp only
      rw [deliver_answering, Heap.mark_of_cell? hbusy, Heap.put_put]
      exact .scans h capacity buffer events _ hc (deliver_code _ _ _ _)
  · rw [scan_of_busy hs]
    dsimp only
    split
    · exact .inUse
    · exact .invalid

theorem does_measure (size : Nat → Nat) (scratch : Option Handle) (place : Bool) :
    Does heap (callSize (measure size scratch) place heap).1.code none
      (callSize (measure size scratch) place heap).2 := by
  rcases place with _ | _
  · exact .invalid
  rcases scratch with _ | h
  · exact .invalid
  rw [callSize, if_pos rfl, measure_apply]
  rcases heap.scratch? (some h) with _ | ⟨capacity, busy⟩
  · exact .invalid
  · exact .keeps

theorem does_databaseSize {builder : Builder} (database : Option Handle) (place : Bool) :
    Does heap (callSize (databaseSize builder database) place heap).1.code none
      (callSize (databaseSize builder database) place heap).2 := by
  rcases place with _ | _
  · exact .invalid
  rcases database with _ | d
  · exact .invalid
  rw [callSize, if_pos rfl, databaseSize_apply]
  rcases heap.database? (some d) with _ | patterns
  · exact .invalid
  · exact .keeps

theorem does_freeDatabase (database : Option Handle) :
    Does heap (freeDatabase database heap).1 none (freeDatabase database heap).2 := by
  rcases database with _ | d
  · exact .keeps
  rw [freeDatabase_apply]
  rcases heap.database? (some d) with _ | patterns
  · exact .invalid
  · exact .takes d

theorem does_freeScratch (scratch : Option Handle) :
    Does heap (freeScratch scratch heap).1 none (freeScratch scratch heap).2 := by
  rcases scratch with _ | h
  · exact .keeps
  rw [freeScratch_apply]
  rcases heap.scratch? (some h) with _ | ⟨capacity, _ | _⟩
  · exact .invalid
  · exact .takes h
  · exact .inUse

/-- **Every call does one of these things**, in whatever heap. -/
theorem RawCall.does (setup : Setup) (heap : Heap) (c : RawCall) :
    Does heap (c.run setup heap).1.code (c.run setup heap).1.record (c.run setup heap).2 := by
  cases c with
  | compile c => exact does_compile c
  | freeRecord record =>
    cases record with
    | none => exact .keeps
    | some h => exact .takes h
  | databaseSize database place => exact does_databaseSize database place
  | freeDatabase database => exact does_freeDatabase database
  | alloc database place => exact does_alloc database place
  | scratchSize scratch place => exact does_measure wholeShare scratch place
  | baseScratchSize scratch place => exact does_measure baseShare scratch place
  | freeScratch scratch => exact does_freeScratch scratch
  | scan database scratch data length answer => exact does_scan database scratch data length answer
  | info pattern flags infoPlace errorPlace => exact does_info pattern flags infoPlace errorPlace
  | freeInfo facts =>
    cases facts with
    | none => exact .keeps
    | some h => exact .takes h

end Calls

/-! ## What is left -/

namespace Does

variable {heap heap' : Heap} {code : Code} {record : Option ErrorRecord}

/-- A heap at rest is at rest after a call. -/
theorem atRest (h : Does heap code record heap') (hrest : heap.AtRest) : heap'.AtRest := by
  -- Every other scratch space is as it was, and the one touched is left idle.
  have hput : ∀ k capacity (buffer : List Event), k < heap.cells.size →
      (heap.put k (.scratch capacity false buffer)).AtRest := by
    intro k capacity buffer hk j capacity' busy hj
    rcases j with _ | j
    · cases hj
    obtain ⟨buffer', hc⟩ := Heap.scratch?_some.1 hj
    rw [Heap.cell?_put hk] at hc
    split at hc
    · cases hc
      rfl
    · exact hrest (some j) capacity' busy (Heap.scratch?_some.2 ⟨buffer', hc⟩)
  have hgive : ∀ c : Cell, (∀ capacity buffer, c ≠ .scratch capacity true buffer) →
      (heap.give c).2.AtRest := by
    intro c hfresh j capacity busy hj
    rcases j with _ | j
    · cases hj
    obtain ⟨buffer, hc⟩ := Heap.scratch?_some.1 hj
    rw [Heap.cell?_give] at hc
    split at hc
    · cases busy with
      | false => rfl
      | true => exact absurd (Option.some.inj hc) (hfresh capacity buffer)
    · exact hrest (some j) capacity busy (Heap.scratch?_some.2 ⟨buffer, hc⟩)
  cases h with
  | keeps => exact hrest
  | refuses => exact hrest
  | records message index => exact hgive _ fun capacity buffer hc => by cases hc
  | gives c hc =>
    refine hgive c ?_
    rintro capacity buffer rfl
    cases hc
  | takes k =>
    intro j capacity busy hj
    rcases j with _ | j
    · cases hj
    obtain ⟨buffer, hc⟩ := Heap.scratch?_some.1 hj
    rw [Heap.cell?_take] at hc
    split at hc
    · cases hc
    · exact hrest (some j) capacity busy (Heap.scratch?_some.2 ⟨buffer, hc⟩)
  | grows k capacity capacity' buffer hc => exact hput k _ _ (Heap.lt_of_cell? hc)
  | scans k capacity buffer events code hc => exact hput k _ _ (Heap.lt_of_cell? hc)

/-- Scratch space with another buffer shows the same. -/
theorem shown_put {h : Handle} {capacity : Nat} {busy : Bool} {buffer : List Event}
    (hc : heap.cell? h = some (.scratch capacity busy buffer)) (events : List Event)
    (k : Handle) : (heap.put h (.scratch capacity busy events)).shown k = heap.shown k := by
  rw [Heap.shown, Heap.cell?_put (Heap.lt_of_cell? hc)]
  split
  · next hk => rw [hk, Heap.shown, hc]; rfl
  · rfl

/-- **A call that fails shows the same heap**, and one more record if it hands
one out. -/
theorem shown (h : Does heap code record heap') (hfailed : code ≠ Code.success) (k : Handle) :
    heap'.shown k = heap.shownBesides record k := by
  cases h with
  | keeps => rfl
  | refuses => rfl
  | records message index =>
    rw [Heap.shown, Heap.cell?_give, Heap.shownBesides]
    split <;> rfl
  | gives => exact absurd rfl hfailed
  | takes => exact absurd rfl hfailed
  | grows => exact absurd rfl hfailed
  | scans h capacity buffer events code hc => exact shown_put hc events k

/-- A record is handed out with one code only. -/
theorem record_isSome (h : Does heap code record heap') :
    record.isSome ↔ code = Code.compilerError := by
  cases h with
  | records => exact iff_of_true rfl rfl
  | refuses code hcode => rcases hcode with rfl | rfl <;> decide
  | scans h capacity buffer events code hc hcode => rcases hcode with rfl | rfl <;> decide
  | _ => decide

/-- What is handed out is new. -/
theorem fresh (h : Does heap code record heap') : ∀ r ∈ record, heap.cell? r.handle = none := by
  cases h with
  | records message index =>
    rintro r ⟨⟩
    exact heap.cell?_size
  | _ => simp

/-- No other call leaves a record where none was. -/
theorem record?_eq_none (h : Does heap code record heap') (hcode : code ≠ Code.compilerError)
    {k : Handle} (hk : heap.record? k = none) : heap'.record? k = none := by
  have hput : ∀ j capacity (buffer : List Event), j < heap.cells.size →
      (heap.put j (.scratch capacity false buffer)).record? k = none := by
    intro j capacity buffer hj
    rw [Heap.record?, Heap.cell?_put hj]
    split
    · rfl
    · exact hk
  cases h with
  | keeps => exact hk
  | refuses => exact hk
  | records => exact absurd rfl hcode
  | gives c hc =>
    rw [Heap.record?, Heap.cell?_give]
    split
    · cases c with
      | record => cases hc
      | _ => rfl
    · exact hk
  | takes j =>
    rw [Heap.record?, Heap.cell?_take]
    split
    · rfl
    · exact hk
  | grows j capacity capacity' buffer hc => exact hput j _ _ (Heap.lt_of_cell? hc)
  | scans j capacity buffer events code hc => exact hput j _ _ (Heap.lt_of_cell? hc)

/-- **A record comes into being** with one code only. -/
theorem exists_record_iff (h : Does heap code record heap') :
    (∃ k, heap.record? k = none ∧ heap'.record? k ≠ none) ↔ code = Code.compilerError := by
  constructor
  · rintro ⟨k, hbefore, hafter⟩
    by_contra hcode
    exact hafter (h.record?_eq_none hcode hbefore)
  · intro hcode
    obtain ⟨r, hr⟩ := Option.isSome_iff_exists.1 (h.record_isSome.2 hcode)
    have hnew : heap'.shown r.handle = some (.record r.message r.index) := by
      rw [h.shown (hcode ▸ by decide), hr]
      exact if_pos rfl
    refine ⟨r.handle, by rw [Heap.record?, h.fresh r hr]; rfl, ?_⟩
    rw [Heap.record?_shown, hnew]
    exact Option.some_ne_none _

end Does

/-! ## Calls that fail -/

/-- What a call that failed has left of a heap: every database, every scratch
space with its capacity, and all of it idle; in the place for scratch space
what was there; and behind every other handle what it showed before, except
that there may be one record at a handle that stood for nothing. -/
structure Refused (heap : Heap) (c : RawCall) (out : Outcome) (heap' : Heap) : Prop where
  databases : ∀ h, heap'.database? h = heap.database? h
  scratches : ∀ h, heap'.scratch? h = heap.scratch? h
  atRest : heap'.AtRest
  place : out.place = c.place
  fresh : ∀ r ∈ out.record, heap.cell? r.handle = none
  shown : ∀ h, heap'.shown h = heap.shownBesides out.record h

/-- Scratch space that is refused leaves the caller with what there was. -/
theorem allocScratch_scratch {heap : Heap} {database scratch : Option Handle}
    (hfailed : (allocScratch database scratch heap).1.code ≠ Code.success) :
    (allocScratch database scratch heap).1.scratch = scratch := by
  rw [allocScratch_apply] at hfailed ⊢
  revert hfailed
  rcases heap.database? database with _ | patterns
  · exact fun _ => rfl
  rcases scratch with _ | h
  · exact fun hfailed => absurd rfl hfailed
  dsimp only
  rcases heap.scratch? (some h) with _ | ⟨capacity, _ | _⟩ <;> exact fun _ => rfl

/-- A call that fails leaves what is in the place for scratch space. -/
theorem RawCall.place_run {setup : Setup} {heap : Heap} {c : RawCall}
    (hfailed : (c.run setup heap).1.code ≠ Code.success) :
    (c.run setup heap).1.place = c.place := by
  cases c with
  | alloc database place =>
    cases place with
    | none => rfl
    | some scratch => exact congrArg some (allocScratch_scratch hfailed)
  | _ => rfl

/-- A heap at rest after any calls. -/
theorem atRest_heapAfter (setup : Setup) (calls : List RawCall) :
    (heapAfter setup calls).AtRest := by
  suffices h : ∀ heap : Heap, heap.AtRest →
      (calls.foldl (fun heap c => (c.run setup heap).2) heap).AtRest by
    refine h .empty ?_
    rintro (_ | h) capacity busy hs
    · cases hs
    · obtain ⟨buffer, hc⟩ := Heap.scratch?_some.1 hs
      rw [Heap.cell?_empty] at hc
      cases hc
  induction calls with
  | nil => exact fun heap hrest => hrest
  | cons c rest ih => exact fun heap hrest => ih _ ((c.does setup heap).atRest hrest)

/-- A call that fails in a heap at rest has changed nothing. -/
theorem RawCall.refused {setup : Setup} {heap : Heap} {c : RawCall} (hrest : heap.AtRest)
    (hfailed : (c.run setup heap).1.code ≠ Code.success) :
    Refused heap c (c.run setup heap).1 (c.run setup heap).2 := by
  have hdoes := c.does setup heap
  -- Behind a handle that a record now has there was nothing.
  have hkinds : ∀ h, (c.run setup heap).2.database? (some h) = heap.database? (some h) ∧
      (c.run setup heap).2.scratch? (some h) = heap.scratch? (some h) := by
    intro h
    have hshown := hdoes.shown hfailed h
    rw [Heap.database?_shown, Heap.scratch?_shown, Heap.database?_shown, Heap.scratch?_shown,
      hshown]
    rcases hrecord : (c.run setup heap).1.record with _ | r
    · exact ⟨rfl, rfl⟩
    rw [Heap.shownBesides]
    by_cases heq : h = r.handle
    · have hnone : heap.shown h = none := by
        rw [heq, Heap.shown, hdoes.fresh r hrecord]
        rfl
      rw [if_pos heq, hnone]
      exact ⟨rfl, rfl⟩
    · rw [if_neg heq]
      exact ⟨rfl, rfl⟩
  exact {
    databases := by
      rintro (_ | h)
      · rfl
      · exact (hkinds h).1
    scratches := by
      rintro (_ | h)
      · rfl
      · exact (hkinds h).2
    atRest := hdoes.atRest hrest
    place := RawCall.place_run hfailed
    fresh := hdoes.fresh
    shown := hdoes.shown hfailed }

/-- A size is told of nothing but what there is. -/
theorem measure_of_none {heap : Heap} {scratch : Option Handle} (size : Nat → Nat)
    (hnone : heap.scratch? scratch = none) (place : Bool) :
    (callSize (measure size scratch) place heap).1.code = Code.invalid := by
  cases place with
  | false => rfl
  | true => simp [callSize, measure, hnone]

/-- **A call without a handle that it needs is invalid.** -/
theorem RawCall.code_of_lacks {setup : Setup} {heap : Heap} {c : RawCall}
    (hlacks : c.Lacks heap) : (c.run setup heap).1.code = Code.invalid := by
  cases c with
  | databaseSize database place =>
    have hnone : heap.database? database = none := hlacks
    cases place with
    | false => rfl
    | true => simp [RawCall.run, callSize, Builtin.databaseSize, hnone]
  | freeDatabase database =>
    obtain ⟨hsome, hnone⟩ := hlacks
    obtain ⟨d, rfl⟩ := Option.isSome_iff_exists.1 hsome
    have hrun : (RawCall.run setup (.freeDatabase (some d)) heap).1.code =
      (Builtin.freeDatabase (some d) heap).1 := rfl
    rw [hrun, freeDatabase_apply, hnone]
  | alloc database place =>
    cases place with
    | none => rfl
    | some scratch =>
      have hrun : (RawCall.run setup (.alloc database (some scratch)) heap).1.code =
        (allocScratch database scratch heap).1.code := rfl
      rw [hrun, allocScratch_apply]
      rcases hlacks with hnone | ⟨h, hh, hnone⟩
      · rw [hnone]
      · obtain rfl := Option.some.inj hh
        rcases heap.database? database with _ | patterns
        · rfl
        · dsimp only
          rw [hnone]
  | scratchSize scratch place => exact measure_of_none wholeShare hlacks place
  | baseScratchSize scratch place => exact measure_of_none baseShare hlacks place
  | freeScratch scratch =>
    obtain ⟨hsome, hnone⟩ := hlacks
    obtain ⟨h, rfl⟩ := Option.isSome_iff_exists.1 hsome
    have hrun : (RawCall.run setup (.freeScratch (some h)) heap).1.code =
      (Builtin.freeScratch (some h) heap).1 := rfl
    rw [hrun, freeScratch_apply, hnone]
  | scan database scratch data length answer =>
    have hrun : (RawCall.run setup (.scan database scratch data length answer) heap).1.code =
      (Builtin.scan database scratch data length (answering answer) [] heap).1.1 := rfl
    rw [hrun]
    rcases scratch with _ | h
    · rw [scan_of_noScratch]
    rw [scan_apply]
    rcases hlacks with hnone | hnone
    · rw [hnone]
    · rw [hnone]
      rcases heap.database? database with _ | patterns <;> rfl
  | _ => cases hlacks

/-- Giving back nothing is no error. -/
theorem RawCall.code_of_freesNothing {setup : Setup} {heap : Heap} {c : RawCall}
    (hnothing : c.FreesNothing) : (c.run setup heap).1.code = Code.success := by
  cases c with
  | freeRecord | freeDatabase | freeScratch | freeInfo =>
    obtain rfl := hnothing
    rfl
  | _ => cases hnothing

/-- **Wrong handles and failing calls change nothing.** Whatever calls were
made before: a call without a handle that it needs is invalid, and giving
back nothing succeeds. A call that fails takes back and gives out no database
and no scratch space, leaves each with its capacity and idle, and leaves what
the caller has. It gives out one record if its code is that of an error in an
expression, and no other call does. -/
theorem refused_call_changes_nothing (setup : Setup) (before : List RawCall)
    (c : RawCall) :
    let heap := heapAfter setup before
    let out := (c.run setup heap).1
    let heap' := (c.run setup heap).2
    (c.Lacks heap → out.code = Code.invalid) ∧
      (c.FreesNothing → out.code = Code.success) ∧
      (out.code ≠ Code.success → Refused heap c out heap') ∧
      (out.record.isSome ↔ out.code = Code.compilerError) ∧
      ((∃ h, heap.record? h = none ∧ heap'.record? h ≠ none) ↔ out.code = Code.compilerError) := by
  intro heap out heap'
  have hdoes := c.does setup heap
  refine ⟨RawCall.code_of_lacks, RawCall.code_of_freesNothing, ?_, hdoes.record_isSome,
    hdoes.exists_record_iff⟩
  exact RawCall.refused (atRest_heapAfter setup before)

/-- Room for a database is asked for with the database itself in the place for
scratch space: it is of the wrong kind and stays there. -/
example :
    let heap := heapAfter .unlimited [.compile ⟨some [some #[0x61]], none, none, 0, true, true⟩]
    let out := ((RawCall.alloc (some 0) (some (some 0))).run .unlimited heap).1
    (heap.database? (some 0)).isSome ∧ out.code = Code.invalid ∧ out.place = some (some 0) := by
  decide +kernel

end Multiscan.Builtin
