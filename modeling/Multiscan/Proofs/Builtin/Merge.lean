import Multiscan.Builtin.Estimate
import Multiscan.Proofs.Builtin.Compile
import Multiscan.Proofs.Builtin.Scan
import Multiscan.Proofs.Regex.Progress
/-!
# Built-in engine — a scan is a merge

The matches of a database are those of its patterns, each found as if it
were alone, put in one order. The order has no ties but between equal
events, so nothing depends on the order of the patterns.
-/

namespace Multiscan.Builtin

open Engine

variable {patterns : List Compiled} {data : Text.Bytes}

/-! ## The order of events -/

/-- One event is not behind another: by end, then by start, then by id. -/
def Event.Le (a b : Event) : Prop :=
  a.stop < b.stop ∨ a.stop = b.stop ∧ (a.start < b.start ∨ a.start = b.start ∧ a.id ≤ b.id)

namespace Event

theorem before_iff {a b : Event} : Event.before a b ↔ Event.Le a b := by
  simp [Event.before, Event.Le]

theorem le_iff {a b : Event} : Event.Le a b ↔
    a.stop.toNat < b.stop.toNat ∨ a.stop.toNat = b.stop.toNat ∧
      (a.start.toNat < b.start.toNat ∨
        a.start.toNat = b.start.toNat ∧ a.id.toNat ≤ b.id.toNat) := by
  simp only [Event.Le, UInt64.lt_iff_toNat_lt, UInt32.le_iff_toNat_le, ← UInt64.toNat_inj]

theorem Le.trans {a b c : Event} (hab : Event.Le a b) (hbc : Event.Le b c) : Event.Le a c := by
  rw [le_iff] at *
  omega

theorem Le.total (a b : Event) : Event.Le a b ∨ Event.Le b a := by
  rw [le_iff, le_iff]
  omega

/-- Events between which there is a tie are equal. -/
theorem Le.antisymm {a b : Event} (hab : Event.Le a b) (hba : Event.Le b a) : a = b := by
  rw [le_iff] at hab hba
  rcases a with ⟨id, start, stop⟩
  rcases b with ⟨id', start', stop'⟩
  simp only at hab hba
  obtain rfl : stop = stop' := UInt64.toNat_inj.1 (by omega)
  obtain rfl : start = start' := UInt64.toNat_inj.1 (by omega)
  obtain rfl : id = id' := UInt32.toNat_inj.1 (by omega)
  rfl

theorem before_trans (a b c : Event) (hab : Event.before a b) (hbc : Event.before b c) :
    Event.before a c :=
  before_iff.2 ((before_iff.1 hab).trans (before_iff.1 hbc))

theorem before_total (a b : Event) : Event.before a b || Event.before b a := by
  have htotal := Le.total a b
  rw [← before_iff, ← before_iff] at htotal
  simpa using htotal

end Event

/-- Two lists of the same events in order are the same. -/
theorem eq_of_perm_of_ordered {as bs : List Event} (hperm : as.Perm bs)
    (ha : as.Pairwise Event.Le) (hb : bs.Pairwise Event.Le) : as = bs :=
  hperm.eq_of_pairwise (fun _ _ _ _ => Event.Le.antisymm) ha hb

/-! ## The events of a database -/

theorem orderedEvents_perm (patterns : List Compiled) (data : Text.Bytes) :
    (orderedEvents patterns data).Perm (patterns.flatMap (·.events data)) :=
  List.mergeSort_perm _ _

theorem orderedEvents_ordered (patterns : List Compiled) (data : Text.Bytes) :
    (orderedEvents patterns data).Pairwise Event.Le := by
  have h := List.pairwise_mergeSort Event.before_trans Event.before_total
    (patterns.flatMap (·.events data))
  exact h.imp Event.before_iff.1

/-- **The order of the patterns makes no difference.** -/
theorem orderedEvents_congr {qs : List Compiled} (h : patterns.Perm qs) (data : Text.Bytes) :
    orderedEvents patterns data = orderedEvents qs data :=
  eq_of_perm_of_ordered ((orderedEvents_perm patterns data).trans
    ((h.flatMap_right _).trans (orderedEvents_perm qs data).symm))
    (orderedEvents_ordered patterns data) (orderedEvents_ordered qs data)

/-- The matches of a pattern in the order in which it is searched: all, or the
first if only that counts. -/
def Compiled.matches (p : Compiled) (data : Text.Bytes) : List (Nat × Nat) :=
  if p.single then (Regex.findAll data p.whole p.regex).take 1
  else Regex.findAll data p.whole p.regex

theorem Compiled.mem_findAll {p : Compiled} {m : Nat × Nat} (h : m ∈ p.matches data) :
    m ∈ Regex.findAll data p.whole p.regex := by
  rw [Compiled.matches] at h
  split at h
  · exact List.mem_of_mem_take h
  · exact h

theorem Compiled.events_eq (p : Compiled) (data : Text.Bytes) :
    p.events data = (p.matches data).map p.event := by
  rw [Compiled.events, Compiled.matches, Regex.findFirst_eq]

theorem Compiled.id_of_mem_events {p : Compiled} {e : Event} (h : e ∈ p.events data) :
    e.id = p.id := by
  rw [p.events_eq] at h
  obtain ⟨m, -, rfl⟩ := List.mem_map.1 h
  rfl

/-- **The events of one id** are those of the patterns with that id. -/
theorem filter_orderedEvents (patterns : List Compiled) (data : Text.Bytes) (id : UInt32) :
    (orderedEvents patterns data).filter (·.id == id) =
      orderedEvents (patterns.filter (·.id == id)) data := by
  -- Both sides are in order, so they are equal once they have the same events;
  -- these are compared before they are put in order, pattern by pattern.
  have hflat : (patterns.flatMap (·.events data)).filter (·.id == id) =
      (patterns.filter (·.id == id)).flatMap (·.events data) := by
    induction patterns with
    | nil => rfl
    | cons p rest ih =>
      rw [List.flatMap_cons, List.filter_append, ih, List.filter_cons]
      by_cases hid : p.id = id
      · rw [if_pos (beq_iff_eq.2 hid), List.flatMap_cons, List.filter_eq_self.2]
        exact fun e he => beq_iff_eq.2 ((p.id_of_mem_events he).trans hid)
      · rw [if_neg (by simpa using hid), List.filter_eq_nil_iff.2, List.nil_append]
        exact fun e he heq => hid ((p.id_of_mem_events he).symm.trans (beq_iff_eq.1 heq))
  refine eq_of_perm_of_ordered ?_ ((orderedEvents_ordered patterns data).filter _)
    (orderedEvents_ordered _ data)
  exact ((orderedEvents_perm patterns data).filter _).trans
    (hflat ▸ (orderedEvents_perm _ data).symm)

/-- The matches of a pattern end one behind the other, within the bytes. -/
theorem Compiled.matches_pairwise (p : Compiled) (data : Text.Bytes) :
    (p.matches data).Pairwise fun a b => a.2 < b.2 ∧ b.2 ≤ data.size := by
  have hall : (Regex.findAll data p.whole p.regex).Pairwise
      fun a b => a.2 < b.2 ∧ b.2 ≤ data.size :=
    (Regex.findAll_pairwise data p.whole p.regex).imp_of_mem fun _ hb hab =>
      ⟨hab.2, (Regex.findAll_bounds hb).2⟩
  rw [Compiled.matches]
  split
  · exact hall.sublist (List.take_sublist _ _)
  · exact hall

/-- **The events of one pattern** are in the order in which it is searched. -/
theorem orderedEvents_singleton (p : Compiled) (hsize : data.size < UInt32.size) :
    orderedEvents [p] data = p.events data := by
  have hflat : [p].flatMap (·.events data) = p.events data := by simp
  refine eq_of_perm_of_ordered (hflat ▸ orderedEvents_perm [p] data)
    (orderedEvents_ordered [p] data) ?_
  -- The ends increase strictly from match to match, so neither the starts nor
  -- the ids are ever looked at.
  rw [p.events_eq, List.pairwise_map]
  rw [UInt32.size] at hsize
  refine (p.matches_pairwise data).imp fun hab => ?_
  rw [Event.le_iff]
  left
  simp only [Compiled.event, UInt64.toNat_ofNat']
  omega

/-! ## Handing over

A callback is a program of its own: it has a state, answers as it likes and
can call the engine. It is handed events until it asks to stop, that is, up
to and with the first event that it does not answer with zero. -/

variable {τ : Type}

theorem mapM_cons_apply (onEvent : Callback τ) (e : Event) (rest : List Event) (t : τ)
    (heap : Heap) :
    (e :: rest).mapM onEvent t heap =
      let first := onEvent e t heap
      let others := rest.mapM onEvent first.1.2 first.2
      ((first.1.1 :: others.1.1, others.1.2), others.2) := by
  rw [List.mapM_cons]
  rfl

theorem deliver_cons (onEvent : Callback τ) (e : Event) (rest : List Event) (t : τ)
    (heap : Heap) :
    deliver onEvent (e :: rest) t heap =
      let first := onEvent e t heap
      if first.1.1 = 0 then deliver onEvent rest first.1.2 first.2
      else ((Code.scanTerminated, first.1.2), first.2) := by
  have hrun : deliver onEvent (e :: rest) t heap =
      (let first := onEvent e t heap
       (if first.1.1 = 0 then deliver onEvent rest else return Code.scanTerminated :
          StateT τ Call Code) first.1.2 first.2) := rfl
  rw [hrun]
  dsimp only
  split <;> rfl

/-- A callback that never asks to stop is handed all events. -/
theorem deliver_all {onEvent : Callback τ} {events : List Event} {t t' : τ} {answers : List Int}
    {heap heap' : Heap} (h : events.mapM onEvent t heap = ((answers, t'), heap'))
    (hanswers : ∀ a ∈ answers, a = 0) :
    deliver onEvent events t heap = ((Code.success, t'), heap') := by
  induction events generalizing t heap answers with
  | nil =>
    obtain ⟨hfst, rfl⟩ := Prod.mk.inj h
    obtain ⟨-, rfl⟩ := Prod.mk.inj hfst
    rfl
  | cons e rest ih =>
    rw [mapM_cons_apply] at h
    obtain ⟨hfst, rfl⟩ := Prod.mk.inj h
    obtain ⟨rfl, rfl⟩ := Prod.mk.inj hfst
    rw [deliver_cons]
    dsimp only
    rw [if_pos (hanswers _ List.mem_cons_self)]
    exact ih rfl fun b hb => hanswers b (List.mem_cons_of_mem _ hb)

/-- A callback that asks to stop at an event is handed nothing behind it. -/
theorem deliver_stop {onEvent : Callback τ} {before after : List Event} {e : Event} {t t₁ t' : τ}
    {answers : List Int} {a : Int} {heap heap₁ heap' : Heap}
    (h : before.mapM onEvent t heap = ((answers, t₁), heap₁)) (hanswers : ∀ b ∈ answers, b = 0)
    (he : onEvent e t₁ heap₁ = ((a, t'), heap')) (ha : a ≠ 0) :
    deliver onEvent (before ++ e :: after) t heap = ((Code.scanTerminated, t'), heap') := by
  induction before generalizing t heap answers with
  | nil =>
    obtain ⟨hfst, rfl⟩ := Prod.mk.inj h
    obtain ⟨-, rfl⟩ := Prod.mk.inj hfst
    rw [List.nil_append, deliver_cons, he]
    exact if_neg ha
  | cons b rest ih =>
    rw [mapM_cons_apply] at h
    obtain ⟨hfst, rfl⟩ := Prod.mk.inj h
    obtain ⟨rfl, rfl⟩ := Prod.mk.inj hfst
    rw [List.cons_append, deliver_cons]
    dsimp only
    rw [if_pos (hanswers _ List.mem_cons_self)]
    exact ih rfl fun c hc => hanswers c (List.mem_cons_of_mem _ hc)

/-! ## The scan -/

/-- Scratch space that no scan uses, with room for so many patterns. -/
def Idle (heap : Heap) (h : Handle) (count : Nat) : Prop :=
  ∃ capacity, heap.scratch? (some h) = some (capacity, false) ∧ count ≤ capacity

/-- A scan hands over these events in this order: all of them to a callback
that never asks to stop, and to one that does all up to that event. The
callback runs while the scratch space is in use, which ends with the scan. -/
structure Delivers (heap : Heap) (d h : Handle) (data : Option Text.Bytes) (length : Nat)
    (events : List Event) : Prop where
  all : ∀ {τ : Type} (onEvent : Callback τ) (t t' : τ) (answers : List Int) (heap' : Heap),
    events.mapM onEvent t ((heap.mark h true).setBuffer h events) = ((answers, t'), heap') →
    (∀ a ∈ answers, a = 0) →
    scan (some d) (some h) data length onEvent t heap =
      ((Code.success, t'), heap'.mark h false)
  stop : ∀ {τ : Type} (onEvent : Callback τ) (t t₁ t' : τ) (before after : List Event) (e : Event)
    (answers : List Int) (a : Int) (heap₁ heap' : Heap), events = before ++ e :: after →
    before.mapM onEvent t ((heap.mark h true).setBuffer h events) = ((answers, t₁), heap₁) →
    (∀ b ∈ answers, b = 0) → onEvent e t₁ heap₁ = ((a, t'), heap') → a ≠ 0 →
    scan (some d) (some h) data length onEvent t heap =
      ((Code.scanTerminated, t'), heap'.mark h false)

variable {setup : Setup} {batch : List Source} {heap : Heap} {d h : Handle}
variable {bytes : Option Text.Bytes} {length : Nat}

/-- **A scan hands over all matches in order.** -/
theorem delivers_orderedEvents (hd : heap.database? (some d) = some patterns)
    (hs : Idle heap h patterns.length) (hbytes : bytes = none → length = 0) :
    Delivers heap d h bytes length
      (orderedEvents patterns ((bytes.getD #[]).extract 0 length)) := by
  obtain ⟨capacity, hs, hcap⟩ := hs
  obtain ⟨buffer, hc⟩ := Heap.scratch?_some.1 hs
  have hbusy : ∀ events, (heap.mark h true).setBuffer h events =
      heap.put h (.scratch capacity true events) := fun events => by
    rw [Heap.mark_of_cell? hc, Heap.setBuffer_of_cell? (Heap.cell?_put_self hc _), Heap.put_put]
  constructor
  · intro τ onEvent t t' answers heap' hall hanswers
    rw [hbusy] at hall
    rw [scan_of_idle hd hs hcap hbytes, deliver_all hall hanswers]
  · intro τ onEvent t t₁ t' before after e answers a heap₁ heap' hevents hbefore hanswers he ha
    rw [hbusy] at hbefore
    rw [scan_of_idle hd hs hcap hbytes]
    rw [hevents] at hbefore ⊢
    rw [deliver_stop hbefore hanswers he ha]

/-- The same for the database that a batch compiles into. -/
theorem Stored.delivers (hd : Stored setup batch heap d) (hs : Idle heap h batch.length)
    (hbytes : bytes = none → length = 0) (hpatterns : compileAll setup 0 batch = .ok patterns) :
    Delivers heap d h bytes length
      (orderedEvents patterns ((bytes.getD #[]).extract 0 length)) := by
  obtain ⟨patterns', hpatterns', hd⟩ := hd
  obtain rfl := Except.ok.inj (hpatterns'.symm.trans hpatterns)
  refine delivers_orderedEvents hd ?_ hbytes
  rwa [← ((compileAll_iff 0).1 hpatterns).length_eq]

/-- **A scan is the ordered merge of scans for single patterns.** The events
are those of all patterns, each tagged with its id, in the order of end,
start and id. The batch in any other order has the same events, and those of
an id that one pattern only has are the events of that pattern compiled
alone, in the order in which it is searched. -/
theorem scan_is_ordered_merge (hd : Stored setup batch heap d) (hs : Idle heap h batch.length)
    (hbytes : bytes = none → length = 0) (hlength : length < UInt32.size) :
    let data := (bytes.getD #[]).extract 0 length
    ∃ patterns events, List.Forall₂ (Source.Compiles setup) batch patterns ∧
      events.Perm (patterns.flatMap fun p => (p.matches data).map p.event) ∧
      events.Pairwise Event.Le ∧ Delivers heap d h bytes length events ∧
      (∀ batch', batch'.Perm batch → (∃ patterns', compileAll setup 0 batch' = .ok patterns') ∧
        ∀ heap' d' h', Stored setup batch' heap' d' → Idle heap' h' batch'.length →
          Delivers heap' d' h' bytes length events) ∧
      ∀ s, batch.filter (·.id == s.id) = [s] → ∃ p, s.Compiles setup p ∧
        events.filter (·.id == s.id) = (p.matches data).map p.event ∧
        ∀ heap' d' h', Stored setup [s] heap' d' → Idle heap' h' 1 →
          Delivers heap' d' h' bytes length (events.filter (·.id == s.id)) := by
  intro data
  have hsize : data.size < UInt32.size := by
    rw [Array.size_extract]
    omega
  obtain ⟨patterns, hpatterns, hheap⟩ := hd
  have hforall := (compileAll_iff 0).1 hpatterns
  refine ⟨patterns, orderedEvents patterns data, hforall, ?_, orderedEvents_ordered _ _,
    Stored.delivers ⟨patterns, hpatterns, hheap⟩ hs hbytes hpatterns, ?_, ?_⟩
  · simp only [← Compiled.events_eq]
    exact orderedEvents_perm patterns data
  · intro batch' hperm
    obtain ⟨patterns', hpatterns', hperm'⟩ := compileAll_perm hperm hpatterns
    refine ⟨⟨patterns', hpatterns'⟩, fun heap' d' h' hd' hs' => ?_⟩
    rw [← orderedEvents_congr hperm' data]
    exact hd'.delivers hs' hbytes hpatterns'
  · intro s hs
    have hfilter := compileAll_filter hpatterns s.id
    rw [hs, compileAll_iff] at hfilter
    -- One pattern has the id, and it is compiled from the one source with it.
    obtain ⟨p, hp, hone⟩ : ∃ p, s.Compiles setup p ∧ patterns.filter (·.id == s.id) = [p] := by
      rw [List.forall₂_cons_left_iff] at hfilter
      obtain ⟨p, ps, hp, hnil, hps⟩ := hfilter
      exact ⟨p, hp, by rw [hps, List.forall₂_nil_left_iff.1 hnil]⟩
    refine ⟨p, hp, ?_, fun heap' d' h' hd' hs' => ?_⟩
    · rw [filter_orderedEvents, hone, orderedEvents_singleton p hsize, p.events_eq]
    · rw [filter_orderedEvents, hone]
      exact hd'.delivers hs' hbytes ((compileAll_iff 0).2 (.cons hp .nil))

/-- Two patterns, of which one counts only once, in scratch space with
something left from a scan before. -/
theorem scan_is_ordered_merge_of_two :
    let batch : List Source := [⟨some #[0x61, 0x62], 0, 7⟩, ⟨some #[0x62], 8, 3⟩]
    ∃ patterns, compileAll .unlimited 0 batch = .ok patterns ∧
      let heap : Heap := ⟨#[some (.database patterns), some (.scratch 3 false [⟨9, 9, 9⟩])]⟩
      ∃ events, Delivers heap 0 1 (some #[0x61, 0x62, 0x61, 0x62]) 4 events ∧
        events.Pairwise Event.Le := by
  intro batch
  obtain ⟨patterns, hpatterns⟩ : ∃ patterns, compileAll .unlimited 0 batch = .ok patterns := by
    have hsome : (compileAll .unlimited 0 batch).toOption.isSome = true := by decide +kernel
    generalize compileAll .unlimited 0 batch = compiled at hsome
    rcases compiled with e | patterns
    · exact nomatch hsome
    · exact ⟨patterns, rfl⟩
  refine ⟨patterns, hpatterns, ?_⟩
  intro heap
  have hstored : Stored .unlimited batch heap 0 := ⟨patterns, hpatterns, rfl⟩
  have hidle : Idle heap 1 batch.length := ⟨3, rfl, by decide⟩
  have hbytes : some (#[0x61, 0x62, 0x61, 0x62] : Text.Bytes) = none → 4 = 0 := nofun
  obtain ⟨_, events, -, -, hordered, hdelivers, -⟩ :=
    scan_is_ordered_merge hstored hidle hbytes (by decide)
  exact ⟨events, hdelivers, hordered⟩

end Multiscan.Builtin
