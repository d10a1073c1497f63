import Mathlib.Algebra.Order.Group.Multiset
import Multiscan.Proofs.Engine.Run
import Multiscan.Scanner
import Multiscan.Validation
/-!
# Custody — what operations do with what they hold

A `Custody` is a way to say of a world what is held in it, with a rule for
every request: what has to be held for it, and what is held after it. Each
operation then has a rule of its own, made from those of its requests. It is
given what it needs as part of what is held; the rest `R` is anything, and
comes out of the operation as it went in. A database stands for its handle
while it is open, a scanner for its scratch space while it has some.
-/

namespace Multiscan

open Engine

variable {σ ι : Type} {E : Engine σ}

namespace Engine

/-- What the reply to a batch leaves for the caller to give back: a database
on success, and otherwise a record. -/
def CompileReply.leaves (reply : CompileReply) (database record : Handle → ι) : List ι :=
  if reply.code = Code.success then reply.database.toList.map database
  else reply.error.toList.map fun e => record e.handle

/-- The same for the reply to a question about an expression. -/
def InfoReply.leaves (reply : InfoReply) (info record : Handle → ι) : List ι :=
  if reply.code = Code.success then reply.info.toList.map fun i => info i.1
  else reply.error.toList.map fun e => record e.handle

/-- The scratch space that the caller has after the reply to a request for
some, `old` being what it had before. -/
def ScratchReply.leaves (reply : ScratchReply) (old : Option Handle) : Option Handle :=
  if reply.code = Code.success then reply.scratch.or old else old

end Engine

/-- A way to keep account of what an engine has handed out, by the items that
stand for handles. An item for a database may tell what it was compiled
from. -/
structure Custody (E : Engine σ) (ι : Type) where
  /-- These items are held in a world. -/
  holds : Multiset ι → World σ → Prop
  database : Handle → List Job → ι
  scratch : Handle → ι
  record : Variant → Handle → ι
  info : Handle → ι
  note : ∀ H n, Step.Ensures (holds H) (World.note n) fun _ => holds H
  compile : ∀ R jobs mode, Step.Ensures (holds R) (World.ask E (.compile jobs mode))
    fun reply => holds (↑(reply.leaves (database · jobs) (record .extended)) + R)
  facts : ∀ R pattern flags, Step.Ensures (holds R) (World.ask E (.info pattern flags))
    fun reply => holds (↑(reply.leaves info (record .base)) + R)
  alloc : ∀ R d jobs s, database d jobs ∈ R →
    Step.Ensures (holds (↑(s.toList.map scratch) + R)) (World.ask E (.allocScratch d s))
      fun reply => holds (↑((reply.leaves s).toList.map scratch) + R)
  freeDatabase : ∀ R d jobs, Step.Ensures (holds (database d jobs ::ₘ R))
    (World.ask E (.freeDatabase d)) fun _ => holds R
  freeScratch : ∀ R s, Step.Ensures (holds (scratch s ::ₘ R))
    (World.ask E (.freeScratch s)) fun _ => holds R
  freeError : ∀ R v r, Step.Ensures (holds (record v r ::ₘ R))
    (World.ask E (.freeError v r)) fun _ => holds R
  freeInfo : ∀ R i, Step.Ensures (holds (info i ::ₘ R))
    (World.ask E (.freeInfo i)) fun _ => holds R
  databaseSize : ∀ H d jobs, database d jobs ∈ H →
    Step.Ensures (holds H) (World.ask E (.databaseSize d)) fun _ => holds H
  scratchSize : ∀ H s, scratch s ∈ H →
    Step.Ensures (holds H) (World.ask E (.scratchSize s)) fun _ => holds H
  baseScratchSize : ∀ H s, scratch s ∈ H →
    Step.Ensures (holds H) (World.ask E (.baseScratchSize s)) fun _ => holds H
  scan : ∀ H d jobs s data, database d jobs ∈ H → scratch s ∈ H →
    Step.Ensures (holds H) (World.ask E (.scan d s data)) fun _ => holds H

/-- What an engine was given for the expressions of a database. -/
def Database.batch (d : Database) : List Job := (jobs 0 d.expressions).toOption.getD []

namespace Custody

variable (C : Custody E ι) {R : Multiset ι}

/-- What a database stands for. -/
def ofDatabase (d : Database) : Multiset ι := ↑(d.handle.toList.map (C.database · d.batch))

/-- What a scanner stands for. -/
def ofScanner (s : Scanner) : Multiset ι :=
  match s.stage with
  | .allocated h => {C.scratch h}
  | _ => 0

/-! ## Databases and scanners -/

theorem mem_ofDatabase {d : Database} {h : Handle} (hd : d.handle? = .ok h) :
    C.database h d.batch ∈ C.ofDatabase d := by
  rcases d with ⟨_ | k, es⟩
  · exact nomatch hd
  · obtain rfl := Except.ok.inj hd
    exact Multiset.mem_singleton_self _

theorem ofDatabase_of_closed {d : Database} (hd : d.handle = none) : C.ofDatabase d = 0 := by
  rw [ofDatabase, hd]
  rfl

/-- Only the stage counts. -/
theorem ofScanner_congr {s s' : Scanner} (h : s'.stage = s.stage) :
    C.ofScanner s' = C.ofScanner s := by
  rw [ofScanner, h, ofScanner]

theorem ofScanner_of_released {s : Scanner} (hs : s.stage = .released) : C.ofScanner s = 0 := by
  rw [ofScanner, hs]

theorem ofScanner_of_toGrow {s : Scanner} {scratch : Option Handle} (hs : s.toGrow = .ok scratch) :
    C.ofScanner s = ↑(scratch.toList.map C.scratch) := by
  rcases s with ⟨_ | h | _, events⟩
  · obtain rfl := Except.ok.inj hs
    rfl
  · obtain rfl := Except.ok.inj hs
    rfl
  · exact nomatch hs

theorem ofScanner_of_toScan {s : Scanner} {h : Handle} (hs : s.toScan = .ok h) :
    C.ofScanner s = {C.scratch h} := by
  rcases s with ⟨_ | k | _, events⟩
  · exact nomatch hs
  · obtain rfl := Except.ok.inj hs
    rfl
  · exact nomatch hs

theorem ofScanner_of_toMeasure {s : Scanner} {h : Handle} (hs : s.toMeasure = .ok h) :
    C.ofScanner s = {C.scratch h} := by
  rcases s with ⟨_ | k | _, events⟩
  · exact nomatch hs
  · obtain rfl := Except.ok.inj hs
    rfl
  · exact nomatch hs

/-! ## Rules for databases -/

/-- An error record is given back. -/
theorem takeRecord (v : Variant) (e : ErrorRecord) :
    Step.Ensures (C.holds (C.record v e.handle ::ₘ R)) (Multiscan.takeRecord E v e)
      fun _ => C.holds R := by
  refine Step.Ensures.bind (C.freeError R v e.handle) fun code => ?_
  dsimp only
  split
  · exact (C.note R _).bind fun _ => .pure fun _ h => h
  · exact .pure fun _ h => h

/-- What an engine leaves when it has refused a batch. -/
theorem refusal (first : Expression) (rest : List Expression) (reply : CompileReply) :
    Step.Ensures (C.holds (↑(reply.error.toList.map fun e => C.record .extended e.handle) + R))
      (Database.refusal E first rest reply) fun _ => C.holds R := by
  rcases reply with ⟨code, database, _ | record⟩
  · exact .pure fun w h => by simpa using h
  · refine Step.Ensures.bind (Q := fun _ => C.holds R) ?_ fun (message, index) => ?_
    · simpa using C.takeRecord .extended record
    · dsimp only
      split
      · exact (C.note R _).bind fun _ => .pure fun _ h => h
      · exact .pure fun _ h => h

/-- **A batch compiled.** The database is new; nothing else stays. -/
theorem compileDatabase (groups : Bool) (es : List Expression) :
    (Database.compile E groups es).Ensures (C.holds R)
      (fun d => C.holds (C.ofDatabase d + R)) fun _ => C.holds R := by
  rcases es with _ | ⟨first, rest⟩
  · exact .throw fun _ h => h
  rw [Database.compile]
  dsimp only
  split
  · exact .bind_throw fun _ h => h
  refine .bind_ofExcept (fun batch hbatch => ?_) fun _ _ h => h
  refine .bind_lift (C.compile R batch _) fun reply => ?_
  rcases reply with ⟨code, database, error⟩
  split
  · next hcode =>
    -- A batch that was refused: there may be a record.
    rw [CompileReply.leaves, if_neg hcode]
    exact .bind_lift (C.refusal first rest _) fun err => .bind_throw fun _ h => h
  · next hcode =>
    rw [CompileReply.leaves, if_pos (not_not.1 hcode)]
    rcases database with _ | h
    · exact .throw fun w hw => by simpa using hw
    · refine .bind_note (C.note _ _) (.pure fun w hw => ?_)
      simpa [ofDatabase, Database.batch, hbatch, Except.toOption] using hw

/-- Asking for the size changes nothing. -/
theorem sizeOfDatabase (d : Database) :
    (d.size E).Ensures (C.holds (C.ofDatabase d + R)) (fun _ => C.holds (C.ofDatabase d + R))
      fun _ => C.holds (C.ofDatabase d + R) := by
  refine .bind_ofExcept (fun h hd => ?_) fun _ _ h => h
  have hmem : C.database h d.batch ∈ C.ofDatabase d + R :=
    Multiset.mem_add.2 (.inl (C.mem_ofDatabase hd))
  refine .bind_lift (C.databaseSize _ h d.batch hmem) fun reply => ?_
  dsimp only
  split
  · exact .bind_throw fun _ h => h
  · exact .pure fun _ h => h

/-- **A closed database** has given its handle back, or it had none. -/
theorem closeDatabase (d : Database) :
    Step.Ensures (C.holds (C.ofDatabase d + R)) (d.close E)
      fun d' w => d'.handle = none ∧ C.holds R w := by
  rcases d with ⟨_ | h, es⟩
  · exact .pure fun w hw => ⟨rfl, by simpa [ofDatabase] using hw⟩
  · refine .bind (Q := fun _ => C.holds R) ?_ fun code => ?_
    · simpa [ofDatabase] using C.freeDatabase R h (Database.batch ⟨some h, es⟩)
    · dsimp only
      split
      · exact (C.note R _).bind fun _ => .pure fun _ h => ⟨rfl, h⟩
      · exact (C.note R _).bind fun _ => .pure fun _ h => ⟨rfl, h⟩

/-! ## Rules for scanners -/

/-- **Scratch space given to a scanner**, for the first time or again. On
failure the scanner has what it had. -/
theorem allocScanner (s : Scanner) (d : Database) :
    (s.alloc E d).Ensures (C.holds (C.ofScanner s + (C.ofDatabase d + R)))
      (fun s' => C.holds (C.ofScanner s' + (C.ofDatabase d + R)))
      fun _ => C.holds (C.ofScanner s + (C.ofDatabase d + R)) := by
  refine .bind_ofExcept (fun database hd => ?_) fun _ _ h => h
  refine .bind_ofExcept (fun scratch hs => ?_) fun _ _ h => h
  have hmem : C.database database d.batch ∈ C.ofDatabase d + R :=
    Multiset.mem_add.2 (.inl (C.mem_ofDatabase hd))
  -- The scratch space that is asked with is what the scanner stands for.
  rw [C.ofScanner_of_toGrow hs]
  refine .bind_lift (C.alloc _ database d.batch scratch hmem) fun reply => ?_
  rcases reply with ⟨code, scratch'⟩
  dsimp only
  split
  · next hcode =>
    rw [ScratchReply.leaves, if_neg hcode]
    exact .bind_throw fun _ h => h
  · next hcode =>
    rw [ScratchReply.leaves, if_pos (not_not.1 hcode)]
    rcases scratch' with _ | h
    · exact .throw fun w hw => by simpa using hw
    · exact .bind_note (C.note _ _) (.pure fun w hw => by simpa [ofScanner] using hw)

/-- **A closed scanner** has given its scratch space back, or it had none. -/
theorem closeScanner (s : Scanner) :
    Step.Ensures (C.holds (C.ofScanner s + R)) (s.close E)
      fun s' w => s'.stage = .released ∧ C.holds R w := by
  rcases s with ⟨_ | h | _, events⟩
  · exact .pure fun w hw => ⟨rfl, by simpa [ofScanner] using hw⟩
  · refine .bind (Q := fun _ => C.holds R) ?_ fun code => ?_
    · simpa [ofScanner] using C.freeScratch R h
    · dsimp only
      split
      · exact (C.note R _).bind fun _ => .pure fun _ h => ⟨rfl, h⟩
      · exact (C.note R _).bind fun _ => .pure fun _ h => ⟨rfl, h⟩
  · exact .pure fun w hw => ⟨rfl, by simpa [ofScanner] using hw⟩

/-- Asking for the sizes changes nothing. -/
theorem sizesOfScanner (s : Scanner) :
    (s.scratchSize E).Ensures (C.holds (C.ofScanner s + R))
      (fun _ => C.holds (C.ofScanner s + R)) (fun _ => C.holds (C.ofScanner s + R)) ∧
    (s.baseScratchSize E).Ensures (C.holds (C.ofScanner s + R))
      (fun _ => C.holds (C.ofScanner s + R)) fun _ => C.holds (C.ofScanner s + R) := by
  constructor <;> refine .bind_ofExcept (fun h hs => ?_) (fun _ _ h => h) <;>
    rw [C.ofScanner_of_toMeasure hs] <;>
    have hmem : C.scratch h ∈ {C.scratch h} + R :=
      Multiset.mem_add.2 (.inl (Multiset.mem_singleton_self _))
  · refine .bind_lift (C.scratchSize _ h hmem) fun reply => ?_
    dsimp only
    split
    · exact .bind_throw fun _ h => h
    · exact .pure fun _ h => h
  · refine .bind_lift (C.baseScratchSize _ h hmem) fun reply => ?_
    dsimp only
    split
    · exact .bind_throw fun _ h => h
    · exact .pure fun _ h => h

end Custody

/-- What a scanner asks a scan of is what the database and the scanner hold. -/
theorem Scanner.of_toAsk {s : Scanner} {d : Database} {text : String} {scratch database : Handle}
    {data : Text.Bytes} (hask : s.toAsk d text = .ok (scratch, database, data)) :
    s.toScan = .ok scratch ∧ d.handle? = .ok database := by
  rw [toAsk] at hask
  rcases hs : s.toScan with e | scratch'
  · rw [hs] at hask
    exact nomatch hask
  rcases hd : d.handle? with e | database'
  · rw [hs, hd] at hask
    exact nomatch hask
  rw [hs, hd] at hask
  simp only [bind, Except.bind] at hask
  split at hask
  · exact nomatch hask
  · cases hask
    exact ⟨rfl, rfl⟩

namespace Custody

variable (C : Custody E ι) {R : Multiset ι}

/-- **A scan** changes nothing about what is held, whatever comes of it. -/
theorem scanStep (s : Scanner) (d : Database) (text : String) :
    Step.Ensures (C.holds (C.ofScanner s + (C.ofDatabase d + R))) (s.scanStep E d text)
      fun r w => r.2.stage = s.stage ∧ C.holds (C.ofScanner s + (C.ofDatabase d + R)) w := by
  rw [Scanner.scanStep]
  rcases hask : s.toAsk d text with e | ⟨scratch, database, data⟩
  · exact .pure fun _ h => ⟨rfl, h⟩
  obtain ⟨hs, hd⟩ := Scanner.of_toAsk hask
  rw [C.ofScanner_of_toScan hs]
  refine .bind (C.scan _ database d.batch scratch data ?_ ?_) fun reply => ?_
  · exact Multiset.mem_add.2 (.inr (Multiset.mem_add.2 (.inl (C.mem_ofDatabase hd))))
  · exact Multiset.mem_add.2 (.inl (Multiset.mem_singleton_self _))
  · dsimp only
    split
    · exact .pure fun _ h => ⟨rfl, h⟩
    · exact (C.note _ _).bind fun _ => .pure fun _ h => ⟨rfl, h⟩

/-! ## Rules for single expressions -/

/-- **Asking for facts about an expression** leaves neither facts nor a record
behind. -/
theorem infoOfExpression (e : Expression) :
    (e.info E).Ensures (C.holds R) (fun _ => C.holds R) fun _ => C.holds R := by
  refine .bind_ofExcept (fun flags _ => ?_) fun _ _ h => h
  refine .bind_ofExcept (fun pattern _ => ?_) fun _ _ h => h
  refine .bind_lift (C.facts R pattern flags) fun reply => ?_
  rcases reply with ⟨code, info, error⟩
  dsimp only
  split
  · next hcode =>
    rw [InfoReply.leaves, if_neg hcode]
    rcases error with _ | record
    · exact .bind_throw fun w hw => by simpa using hw
    · refine .bind_lift (Q := fun _ => C.holds R) ?_ fun (message, _) => .bind_throw fun _ h => h
      simpa using C.takeRecord .base record
  · next hcode =>
    rw [InfoReply.leaves, if_pos (not_not.1 hcode)]
    rcases info with _ | ⟨h, raw⟩
    · exact .throw fun w hw => by simpa using hw
    · refine .bind_lift (Q := fun _ => C.holds R) ?_ fun _ => .pure fun _ h => h
      simpa using C.freeInfo R h

/-- **Validating an expression** leaves nothing behind. -/
theorem validateExpression (e : Expression) :
    Step.Ensures (C.holds R) (e.validate E) fun _ => C.holds R := by
  -- The database that the extended variant compiles is closed right away, so
  -- neither verdict leaves anything.
  have hbase : Step.Ensures (C.holds R) (e.judgeBase E) fun _ => C.holds R :=
    .bind_attempt (C.infoOfExpression e) (fun _ => .pure fun _ h => h) fun _ => .pure fun _ h => h
  have hextended : Step.Ensures (C.holds R) (e.judgeExtended E) fun _ => C.holds R :=
    .bind_attempt (C.compileDatabase true [e])
      (fun d => (C.closeDatabase d).bind fun _ => .pure fun _ h => h.2)
      fun _ => .pure fun _ h => h
  exact hbase.bind fun _ => hextended.bind fun _ => .pure fun _ h => h

end Custody

end Multiscan
