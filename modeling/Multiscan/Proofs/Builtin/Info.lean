import Multiscan.Builtin.Engine
import Multiscan.Proofs.Builtin.Merge
import Multiscan.Proofs.Engine.Run
import Multiscan.Proofs.FlagWord
import Multiscan.Proofs.Regex.OfTree
import Multiscan.Validation
/-!
# Built-in engine — facts about an expression hold of its matches

The base variant tells what it knows about an expression without a scan: it
reads the pattern as the extended variant does when it compiles it, and asks
the expression that the pattern means for the extent of its matches. The extent
covers every match (`covers_of_matches`). What is told of it is cut to 32 bits:
a least length that does not fit is told as the greatest number, a greatest
length that does not is not told at all, and either is still right. So the facts
hold of every event of every scan (`info_sound`).
-/

namespace Multiscan

open Regex Engine

/-! ## The extent of an expression -/

namespace Pattern

/-- A stretch of bytes is one of those that an extent allows. -/
structure Extent.Covers (x : Extent) (size : Nat) (m : Nat × Nat) : Prop where
  forward : m.1 ≤ m.2
  least : m.1 + x.least ≤ m.2
  greatest : ∀ n ∈ x.greatest, m.2 ≤ m.1 + n
  stop : x.onlyAtEnd = true → m.2 = size

/-- **The extent of an expression covers its matches.** -/
theorem covers_of_matches {r : Regex} {x : Extent} {bs : Text.Bytes} {m : Nat × Nat}
    (hr : r.Proper) (hx : extent? r = some x) (h : Matches bs r m.1 m.2) :
    x.Covers bs.size m := by
  obtain ⟨least, hleast, rfl⟩ := Option.map_eq_some_iff.1 hx
  refine ⟨le_of_matches r h, add_minLen_le r hr hleast h, ?_, ?_⟩
  · exact fun n hn => le_add_maxLen r hr hn h
  · exact fun hend => beq_iff_eq.1 (holds_of_endsWith r hr hend h)

/-- An extent agrees with itself. -/
theorem extent?_coherent {r : Regex} {x : Extent} (hr : r.Proper) (hx : extent? r = some x) :
    (∀ n ∈ x.greatest, x.least ≤ n) ∧ (x.onlyAtEnd = true → x.atEnd = true) := by
  obtain ⟨least, hleast, rfl⟩ := Option.map_eq_some_iff.1 hx
  exact ⟨fun n hn => minLen_le_maxLen r hr hleast hn, mentions_of_endsWith r hr⟩

/-- What a pattern means is proper. -/
theorem proper_parse {pattern : List Char} {word : UInt32} {r : Regex}
    (h : parse pattern word = .ok r) : r.Proper := by
  obtain ⟨t, ht, h⟩ := bind_eq_ok.1 h
  obtain ⟨⟨q, f⟩, hq, h⟩ := bind_eq_ok.1 h
  obtain rfl := Except.ok.inj h
  have hcounted := Syntax.counted_ofPattern? ht
  refine proper_ofTree (adapted t word) ?_ hq
  rw [adapted]
  split
  · exact Syntax.counted_toAscii t hcounted
  · exact hcounted

end Pattern

/-! ## What both variants read -/

namespace Builtin

variable {setup setup' : Setup}

theorem readRegex_eq_ok {text : List Char} {flags : UInt32} {r : Regex} :
    readRegex text flags = .ok r ↔ Pattern.parse text flags = .ok r := by
  rw [readRegex]
  rcases Pattern.parse text flags with e | q
  · constructor
    · exact fun h => nomatch h
    · exact fun h => nomatch h
  · constructor
    · exact fun h => congrArg Except.ok (Except.ok.inj h)
    · exact fun h => congrArg Except.ok (Except.ok.inj h)

/-- The base variant tells the extent of what a pattern means. -/
theorem analyze_eq_ok {pattern : Option Text.Bytes} {flags : UInt32} {raw : RawInfo}
    (h : analyze pattern flags = .ok raw) :
    ∃ text r x, readPattern pattern = .ok text ∧ Pattern.parse text flags = .ok r ∧
      Pattern.extent? r = some x ∧ raw = rawInfo x ∧
      (FlagWord.has flags .allowEmpty = false → 0 < x.least) := by
  obtain ⟨text, htext, h⟩ := bind_eq_ok.1 h
  obtain ⟨-, -, h⟩ := bind_eq_ok.1 h
  obtain ⟨r, hr, h⟩ := bind_eq_ok.1 h
  split at h
  · exact nomatch h
  · next x hx =>
    split at h
    · exact nomatch h
    · next hempty =>
      obtain rfl := Except.ok.inj h
      refine ⟨text, r, x, htext, readRegex_eq_ok.1 hr, hx, rfl, fun hflag => ?_⟩
      rw [hflag] at hempty
      exact Nat.pos_of_ne_zero (by simpa using hempty)

/-- The extended variant compiles what a pattern means. -/
theorem Source.Compiles.parse {s : Source} {p : Compiled} (h : s.Compiles setup p) :
    ∃ text, readPattern s.pattern = .ok text ∧ Pattern.parse text s.flags = .ok p.regex := by
  obtain ⟨text, htext, h⟩ := bind_eq_ok.1 h
  obtain ⟨-, -, h⟩ := bind_eq_ok.1 h
  obtain ⟨r, hr, h⟩ := bind_eq_ok.1 h
  obtain rfl := Except.ok.inj h
  refine ⟨text, htext, ?_⟩
  rw [build] at hr
  split at hr
  · exact nomatch hr
  · next q hq =>
    split at hr
    · obtain rfl := Except.ok.inj hr
      exact readRegex_eq_ok.1 hq
    · exact nomatch hr

theorem Source.Compiles.flags {s : Source} {p : Compiled} (h : s.Compiles setup p) :
    p.single = FlagWord.has s.flags .singleMatch ∧ p.whole = FlagWord.has s.flags .utf8 := by
  obtain ⟨text, -, h⟩ := bind_eq_ok.1 h
  obtain ⟨-, -, h⟩ := bind_eq_ok.1 h
  obtain ⟨r, -, h⟩ := bind_eq_ok.1 h
  obtain rfl := Except.ok.inj h
  exact ⟨rfl, rfl⟩

/-- **What a pattern compiles into** does not depend on how the engine is set up, as long
as it compiles. -/
theorem Source.Compiles.unique {s : Source} {p p' : Compiled} (h : s.Compiles setup p)
    (h' : s.Compiles setup' p') : p = p' := by
  obtain ⟨text, htext, hparse⟩ := h.parse
  obtain ⟨text', htext', hparse'⟩ := h'.parse
  obtain rfl := Except.ok.inj (htext.symm.trans htext')
  have hregex := Except.ok.inj (hparse.symm.trans hparse')
  rcases p with ⟨id, single, whole, r⟩
  rcases p' with ⟨id', single', whole', r'⟩
  obtain rfl : r = r' := hregex
  obtain rfl : id = id' := h.id.trans h'.id.symm
  obtain ⟨rfl, rfl⟩ := h.flags
  obtain ⟨rfl, rfl⟩ := h'.flags
  rfl

/-- And so for all patterns of a batch. -/
theorem compileAll_unique {batch : List Source} {patterns patterns' : List Compiled} {i : Nat}
    (h : compileAll setup i batch = .ok patterns) (h' : compileAll setup' i batch = .ok patterns') :
    patterns = patterns' := by
  rw [compileAll_iff] at h h'
  induction h generalizing patterns' with
  | nil =>
    cases h'
    rfl
  | cons hp _ ih =>
    cases h' with
    | cons hp' hps' => rw [hp.unique hp', ih hps']

theorem analyze_of_answerInfo {pattern : Option Text.Bytes} {flags : UInt32} {heap : Heap}
    {h : Handle} {raw : RawInfo} (hreply : (answerInfo pattern flags heap).1.info = some (h, raw)) :
    analyze pattern flags = .ok raw := by
  rw [answerInfo] at hreply
  rcases hanalyze : analyze pattern flags with message | raw'
  · rw [hanalyze] at hreply
    cases hreply
  · rw [hanalyze] at hreply
    obtain ⟨-, rfl⟩ := Prod.mk.inj (Option.some.inj hreply)
    rfl

/-- **What is told of an expression** is what the base variant finds out. -/
theorem info_tells (setup : Setup) (e : Expression) :
    (e.info (engine setup)).Ensures (fun _ => True)
      (fun i _ => ∃ flags bytes raw, e.flags.encode .base = .ok flags ∧
        patternBytes e.pattern = .ok bytes ∧ analyze (some bytes) flags = .ok raw ∧
        i = .ofRaw raw)
      fun _ _ => True := by
  refine .bind_ofExcept (fun flags hflags => ?_) fun _ _ h => h
  refine .bind_ofExcept (fun bytes hbytes => ?_) fun _ _ h => h
  have hask : Step.Ensures (fun _ => True)
      (World.ask (engine setup) (.info bytes flags) : Step Heap InfoReply)
      fun reply _ => ∀ h raw, reply.info = some (h, raw) → analyze (some bytes) flags = .ok raw :=
    fun w _ h raw hreply => analyze_of_answerInfo hreply
  refine .bind_lift hask fun reply => ?_
  rcases reply with ⟨code, info, error⟩
  dsimp only
  split
  · rcases error with _ | record
    · exact .bind_throw fun _ _ => trivial
    · exact .bind_lift (Q := fun _ _ => True) (fun _ _ => trivial) fun _ =>
        .bind_throw fun _ _ => trivial
  · rcases info with _ | ⟨h, raw⟩
    · exact .throw fun _ _ => trivial
    · refine .bind_lift (Q := fun _ _ => analyze (some bytes) flags = .ok raw)
        (fun _ hraw => hraw h raw rfl) fun _ => .pure fun _ hraw => ?_
      exact ⟨flags, bytes, raw, hflags, hbytes, hraw, rfl⟩

/-! ## Cut to 32 bits -/

theorem toNat_saturate (n : Nat) : (saturate n).toNat = min n 0xFFFFFFFF := by
  rw [saturate]
  split
  · next hlt =>
    rw [UInt32.toNat_ofNat_of_lt' hlt]
    have hsize : UInt32.size = 0x100000000 := rfl
    omega
  · next hge =>
    have hmax : (0xFFFFFFFF : UInt32).toNat = 0xFFFFFFFF := rfl
    have hsize : UInt32.size = 0x100000000 := rfl
    omega

/-- **A least length that does not fit is told as the greatest number**, and a
greatest length that does not is not told. -/
theorem ofRaw_rawInfo (x : Pattern.Extent) :
    (Info.ofRaw (rawInfo x)).least = min x.least 0xFFFFFFFF ∧
      (Info.ofRaw (rawInfo x)).greatest = x.greatest.filter (· < 0xFFFFFFFF) := by
  refine ⟨toNat_saturate x.least, ?_⟩
  rw [Info.ofRaw, rawInfo]
  dsimp only
  rcases x.greatest with _ | n
  · rfl
  · have hsaturate := toNat_saturate n
    have hmax : saturate n = 0xFFFFFFFF ↔ ¬ n < 0xFFFFFFFF := by
      have hlast : (0xFFFFFFFF : UInt32).toNat = 0xFFFFFFFF := rfl
      rw [← UInt32.toNat_inj, hsaturate, hlast]
      omega
    rw [Option.map_some, Option.getD_some, Option.filter_some]
    by_cases hlt : n < 0xFFFFFFFF
    · rw [if_neg fun h => hmax.1 h hlt, if_pos (decide_eq_true hlt), hsaturate,
        Nat.min_eq_left (by omega)]
    · rw [if_pos (hmax.2 hlt), if_neg (by simpa using hlt)]

end Builtin

/-- An event is one of those that facts about an expression allow in data of
some size. -/
structure Info.Allows (i : Info) (size : Nat) (ev : Event) : Prop where
  forward : ev.start ≤ ev.stop
  least : i.least ≤ ev.stop.toNat - ev.start.toNat
  greatest : ∀ n, i.greatest = some n → ev.stop.toNat - ev.start.toNat ≤ n
  stop : i.onlyAtEnd = true → ev.stop.toNat = size

namespace Builtin

variable {setup setup' : Setup}

/-- What is told of an extent allows the events of the matches it covers. -/
theorem allows_of_covers {x : Pattern.Extent} {size : Nat} {m : Nat × Nat}
    (h : x.Covers size m) (hstop : m.2 < UInt64.size) (id : UInt32) :
    (Info.ofRaw (rawInfo x)).Allows size ⟨id, UInt64.ofNat m.1, UInt64.ofNat m.2⟩ := by
  obtain ⟨hleast, hgreatest⟩ := ofRaw_rawInfo x
  have hforward := h.forward
  have hx := h.least
  have hstart : (UInt64.ofNat m.1).toNat = m.1 := UInt64.toNat_ofNat_of_lt' (by omega)
  have hend : (UInt64.ofNat m.2).toNat = m.2 := UInt64.toNat_ofNat_of_lt' hstop
  refine ⟨?_, ?_, ?_, ?_⟩
  · rw [UInt64.le_iff_toNat_le, hstart, hend]
    exact hforward
  · dsimp only
    rw [hleast, hstart, hend]
    omega
  · intro n hn
    rw [hgreatest, Option.filter_eq_some_iff] at hn
    have hle := h.greatest n hn.1
    dsimp only
    rw [hstart, hend]
    omega
  · intro honly
    dsimp only
    rw [hend]
    exact h.stop honly

/-! ## Facts and events -/

/-- Every event of a scan is that of a match of a pattern of the database. -/
theorem exists_match_of_event {patterns : List Compiled} {heap : Heap} {d h : Handle}
    {data : Text.Bytes} {ev : Event} (hd : heap.database? (some d) = some patterns)
    (hev : ev ∈ (collectScan d h data heap).1.events) :
    ∃ p ∈ patterns, ∃ m, m.2 ≤ data.size ∧ Matches data p.regex m.1 m.2 ∧ ev = p.event m := by
  rw [collectScan_apply, hd] at hev
  have hmem : ev ∈ orderedEvents patterns data := by
    split at hev
    · next heq _ =>
      obtain rfl := Option.some.inj heq
      split at hev
      · exact nomatch hev
      · split at hev
        · exact nomatch hev
        · exact hev
    · exact nomatch hev
  obtain ⟨p, hp, hmem⟩ := List.mem_flatMap.1 ((orderedEvents_perm patterns data).mem_iff.1 hmem)
  rw [p.events_eq] at hmem
  obtain ⟨m, hm, rfl⟩ := List.mem_map.1 hmem
  have hfound := p.mem_findAll hm
  exact ⟨p, hp, m, (Regex.findAll_bounds hfound).2, matches_of_mem_findAll hfound, rfl⟩

/-- The pattern of a database with the id of a job is compiled from it, if no
other source of the batch has that id. -/
theorem compiles_of_mem {batch : List Source} {patterns : List Compiled} {p : Compiled}
    {s : Source} (hbatch : compileAll setup 0 batch = .ok patterns) (hp : p ∈ patterns)
    (hid : p.id = s.id) (honly : ∀ t ∈ batch, t.id = s.id → t = s) : s.Compiles setup p := by
  rw [compileAll_iff] at hbatch
  induction hbatch with
  | nil => exact nomatch hp
  | @cons t q rest ps ht hrest ih =>
    obtain ⟨hfirst, honly⟩ := List.forall_mem_cons.1 honly
    rcases List.mem_cons.1 hp with rfl | hp
    · rwa [← hfirst (ht.id.symm.trans hid)]
    · exact ih hp honly

/-- The words of the two variants for one set of flags, to which the base one
may have been given more, read a pattern alike. -/
theorem parse_eq_of_encode {flags extra : FlagSet} {word word' : UInt32} (text : List Char)
    (hextra : ∀ f, extra.contains f = true → f = .allowEmpty ∨ f = .prefilter ∨ f = .somLeftmost)
    (hbase : (flags.union extra).encode .base = .ok word)
    (hextended : flags.encode .extended = .ok word') :
    Pattern.parse text word = Pattern.parse text word' := by
  refine Pattern.parse_congr text fun f hf => ?_
  have hreaches : f ≠ .extractMatched := by
    rintro rfl
    exact absurd hf (by decide)
  have hnew : extra.contains f = false := by
    rw [Bool.eq_false_iff]
    intro hcontains
    rcases hextra f hcontains with rfl | rfl | rfl
    all_goals exact absurd hf (by decide)
  rw [FlagSet.has_encode hbase hreaches, FlagSet.has_encode hextended hreaches,
    FlagSet.contains_union, hnew, Bool.or_false]

/-- **What is told of an expression holds of its scans.** An expression may be
asked about under its flags, or under these and flags that only the base variant
knows. Whatever database it is compiled into, every event with its id is one
that the facts allow, and none is empty unless the flags say that it may be. The
facts agree with one another, and they differ from the extent of the expression
only where that does not fit in 32 bits. -/
theorem info_sound {e : Expression} {extra : FlagSet}
    (hextra : ∀ f, extra.contains f = true → f = .allowEmpty ∨ f = .prefilter ∨ f = .somLeftmost)
    {w w' : World Heap} {i : Info}
    (hinfo : (Expression.info (engine setup) { e with flags := e.flags.union extra }).attempt w =
      (.ok i, w'))
    {k : Nat} {job : Job} (hjob : Database.job k e = .ok job)
    {batch : List Source} {heap : Heap} {d h : Handle} (hd : Stored setup' batch heap d)
    (honly : ∀ s ∈ batch, s.id = job.id → s = sourceOf job)
    {data : Text.Bytes} (hsize : data.size < UInt64.size) :
    (∀ ev ∈ ((engine setup').answer (.scan d h data) heap).1.events, ev.id = job.id →
      i.Allows data.size ev ∧
        ((e.flags.union extra).contains .allowEmpty = false → ev.start < ev.stop)) ∧
    (∀ n, i.greatest = some n → i.least ≤ n) ∧ (i.onlyAtEnd = true → i.atEnd = true) ∧
    ∃ text r x, readPattern (some job.pattern) = .ok text ∧
      Pattern.parse text job.flags = .ok r ∧ Pattern.extent? r = some x ∧
      i.least = min x.least 0xFFFFFFFF ∧ i.greatest = x.greatest.filter (· < 0xFFFFFFFF) := by
  -- Both variants read the same pattern, so they mean the same expression.
  have htells := info_tells setup { e with flags := e.flags.union extra } w trivial
  rw [hinfo] at htells
  obtain ⟨flags, bytes, raw, hbase, hbytes, hanalyze, rfl⟩ := htells
  obtain ⟨text, r, x, htext, hr, hx, rfl, hpos⟩ := analyze_eq_ok hanalyze
  obtain ⟨bytes', hbytes', hjob⟩ := bind_eq_ok.1 hjob
  obtain ⟨flags', hextended, hjob⟩ := bind_eq_ok.1 hjob
  obtain rfl := Except.ok.inj hjob
  obtain rfl := Except.ok.inj (hbytes.symm.trans hbytes')
  have hparse := parse_eq_of_encode text hextra hbase hextended
  rw [hparse] at hr
  have hproper := Pattern.proper_parse hr
  obtain ⟨hcoherent, hend⟩ := Pattern.extent?_coherent hproper hx
  obtain ⟨hleast, hgreatest⟩ := ofRaw_rawInfo x
  refine ⟨fun ev hev hid => ?_, fun n hn => ?_, hend, text, r, x, htext, hr, hx, hleast, hgreatest⟩
  · obtain ⟨patterns, hpatterns, hheap⟩ := hd
    obtain ⟨p, hp, m, hstop, hmatch, rfl⟩ := exists_match_of_event hheap hev
    have hcompiles : (sourceOf ⟨bytes, flags', UInt32.ofNat k⟩).Compiles setup' p :=
      compiles_of_mem hpatterns hp hid honly
    obtain ⟨text', htext', hparse'⟩ := hcompiles.parse
    obtain rfl := Except.ok.inj (htext.symm.trans htext')
    obtain rfl := Except.ok.inj (hr.symm.trans hparse')
    have hcovers := Pattern.covers_of_matches hproper hx hmatch
    have hallows := allows_of_covers hcovers (by omega) p.id
    refine ⟨hallows, fun hempty => ?_⟩
    have hleastPos := hpos ((FlagSet.has_encode hbase (by decide)).trans hempty)
    have hle := hallows.least
    rw [hleast] at hle
    rw [UInt64.lt_iff_toNat_lt]
    dsimp only [Compiled.event] at hle ⊢
    omega
  · rw [hgreatest, Option.filter_eq_some_iff] at hn
    have hle := hcoherent n hn.1
    omega

theorem eq_ok_of_toOption {ε α : Type} {x : Except ε α} {a : α} (h : x.toOption = some a) :
    x = .ok a := by
  rcases x with e | b
  · exact nomatch h
  · exact congrArg Except.ok (Option.some.inj h)

theorem exists_of_toOption {ε α σ : Type} {x : Except ε α × σ} {a : α}
    (h : x.1.toOption = some a) : ∃ w, x = (.ok a, w) :=
  ⟨x.2, Prod.ext (eq_ok_of_toOption h) rfl⟩

/-- Matches of this expression end where the data ends. It is asked about under
one more flag and compiled alone. -/
theorem info_sound_of_anchored :
    ∃ (w' : World Heap) (patterns : List Compiled),
      (Expression.info (engine .unlimited)
        ⟨"abb?$", FlagSet.empty.union (.ofList [.somLeftmost]), none⟩).attempt world =
          (.ok ⟨2, some 3, false, true, true⟩, w') ∧
      compileAll .unlimited 0 [⟨some #[0x61, 0x62, 0x62, 0x3F, 0x24], 0, 0⟩] = .ok patterns ∧
      let heap : Heap := ⟨#[some (.database patterns), some (.scratch 1 false [])]⟩
      ∀ ev ∈ ((engine .unlimited).answer (.scan 0 1 #[0x61, 0x62, 0x61, 0x62]) heap).1.events,
        ev.id = 0 →
          Info.Allows ⟨2, some 3, false, true, true⟩ 4 ev ∧ ev.start < ev.stop := by
  have htold : ((Expression.info (engine .unlimited)
      ⟨"abb?$", FlagSet.empty.union (.ofList [.somLeftmost]), none⟩).attempt world).1.toOption =
        some ⟨2, some 3, false, true, true⟩ := by decide +kernel
  have hjob : (Database.job 0 ⟨"abb?$", .empty, none⟩).toOption =
      some ⟨#[0x61, 0x62, 0x62, 0x3F, 0x24], 0, 0⟩ := by decide +kernel
  have hcompiled : (compileAll .unlimited 0
      [⟨some #[0x61, 0x62, 0x62, 0x3F, 0x24], 0, 0⟩]).toOption.isSome = true := by
    decide +kernel
  obtain ⟨patterns, hpatterns⟩ := Option.isSome_iff_exists.1 hcompiled
  obtain ⟨w', hinfo⟩ := exists_of_toOption htold
  refine ⟨w', patterns, hinfo, eq_ok_of_toOption hpatterns, ?_⟩
  intro heap ev hev hid
  have hextra : ∀ f, (FlagSet.ofList [.somLeftmost]).contains f = true →
      f = .allowEmpty ∨ f = .prefilter ∨ f = .somLeftmost := by
    intro f hf
    rw [FlagSet.contains_ofList, List.contains_iff_mem, List.mem_singleton] at hf
    exact .inr (.inr hf)
  have hstored : Stored .unlimited [⟨some #[0x61, 0x62, 0x62, 0x3F, 0x24], 0, 0⟩] heap 0 :=
    ⟨patterns, eq_ok_of_toOption hpatterns, rfl⟩
  have hsize : (#[0x61, 0x62, 0x61, 0x62] : Text.Bytes).size < UInt64.size := by decide
  obtain ⟨hevents, -⟩ := info_sound (e := ⟨"abb?$", .empty, none⟩) hextra hinfo
    (eq_ok_of_toOption hjob) hstored (fun s hs _ => List.mem_singleton.1 hs) hsize
  obtain ⟨hallows, hlt⟩ := hevents ev hev hid
  exact ⟨hallows, hlt (by decide)⟩

end Builtin

end Multiscan
