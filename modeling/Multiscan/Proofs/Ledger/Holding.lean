import Multiscan.Proofs.Custody.Operations
import Multiscan.Proofs.Ledger.Contract
/-!
# Ledger — the custody of what is out

`Holds H` says of a world that its engine was asked nothing but what was
permitted, and that exactly the items `H` are out. For an engine that
honours the contract this is a `Custody`: what a request leaves out is what
the caller has to give back, and nothing else is.
-/

namespace Multiscan

namespace Engine

variable {σ : Type} {E : Engine σ} {start : σ} {H R : Multiset Item}

/-- Exactly the items of `H` are out, and nothing was asked that was not
permitted. -/
structure Holds (E : Engine σ) (start : σ) (H : Multiset Item) (w : World (σ × Transcript)) :
    Prop where
  reach : Reach E start w.engine.1 w.engine.2
  balance : ∀ i, w.engine.2.handedOut i = w.engine.2.givenBack i + H.count i

/-- What is held is out. -/
theorem Holds.out_iff {w : World (σ × Transcript)} (h : Holds E start H w) (i : Item) :
    w.engine.2.Out i ↔ i ∈ H := by
  have hbalance := h.balance i
  rw [Transcript.Out, hbalance, ← Multiset.count_pos]
  omega

/-- Notes are no part of it. -/
theorem note_holds (n : Note) :
    Step.Ensures (Holds E start H) (World.note n) fun _ => Holds E start H :=
  fun _ h => ⟨h.reach, h.balance⟩

/-- **A request about items that are held** is permitted. What it gives back
is held no longer, and what it hands out is held from then on. -/
theorem ask_holds (hE : Honours E start) {r : Request} (hr : ∀ i ∈ r.names, i ∈ H) :
    Step.Ensures (Holds E start H) (World.ask (recorded E) r) fun reply w =>
      Exchange.Lawful ⟨r, reply⟩ ∧ Holds E start
        (H - ↑(Exchange.givesBack ⟨r, reply⟩) + ↑(Exchange.handsOut ⟨r, reply⟩)) w := by
  intro w h
  have hpermits : w.engine.2.Permits r := fun i hi => (h.out_iff i).2 (hr i hi)
  have hexpects := hE _ _ _ h.reach hpermits
  refine ⟨hexpects.1, h.reach.ask hpermits, fun i => ?_⟩
  set x : Exchange := ⟨r, (E.answer r w.engine.1).1⟩
  have hle : x.givesBack.count i ≤ H.count i := by
    by_cases hi : i ∈ x.givesBack
    · have hheld := Multiset.count_pos.2 (hr i (x.givesBack_subset hi))
      have hone := Nat.le_trans List.count_le_length x.length_givesBack_le (n := x.givesBack.count i)
      omega
    · rw [List.count_eq_zero_of_not_mem hi]
      exact Nat.zero_le _
  have hbalance := h.balance i
  change (w.engine.2 ++ [x]).handedOut i = (w.engine.2 ++ [x]).givenBack i +
    (H - ↑x.givesBack + ↑x.handsOut).count i
  simp only [Transcript.handedOut_concat, Transcript.givenBack_concat, Multiset.count_add,
    Multiset.count_sub, Multiset.coe_count]
  omega

/-- A request that only uses what is held. -/
theorem use_holds (hE : Honours E start) {r : Request} (hr : ∀ i ∈ r.names, i ∈ H)
    (hback : ∀ reply, Exchange.givesBack ⟨r, reply⟩ = [])
    (hout : ∀ reply, Exchange.handsOut ⟨r, reply⟩ = []) :
    Step.Ensures (Holds E start H) (World.ask (recorded E) r) fun _ => Holds E start H :=
  (ask_holds hE hr).mono fun reply w h => by simpa [hback, hout] using h.2

/-- A request that gives back one item. Its code makes no difference. -/
theorem giveBack_holds (hE : Honours E start) {r : Request} {i : Item} (hr : r.names = [i])
    (hback : ∀ reply, Exchange.givesBack ⟨r, reply⟩ = [i])
    (hout : ∀ reply, Exchange.handsOut ⟨r, reply⟩ = []) :
    Step.Ensures (Holds E start (i ::ₘ R)) (World.ask (recorded E) r) fun _ => Holds E start R :=
  (ask_holds hE (by simp [hr])).mono fun reply w h => by simpa [hback, hout] using h.2

/-- After a batch, a database or a record is out. -/
theorem compile_holds (hE : Honours E start) (jobs : List Job) (mode : UInt32) :
    Step.Ensures (Holds E start R) (World.ask (recorded E) (.compile jobs mode)) fun reply =>
      Holds E start (↑(reply.leaves (Item.mk .database) (Item.mk (.record .extended))) + R) := by
  refine (ask_holds hE (by simp [Request.names])).mono fun reply w ⟨hlawful, h⟩ => ?_
  simp only [Exchange.Lawful] at hlawful
  rw [CompileReply.leaves]
  split
  · next hcode =>
    rw [if_pos hcode] at hlawful
    simpa [Exchange.givesBack, Exchange.handsOut, hlawful, Multiset.add_comm] using h
  · next hcode =>
    rw [if_neg hcode] at hlawful
    simpa [Exchange.givesBack, Exchange.handsOut, hlawful, Multiset.add_comm] using h

/-- After a question about an expression, facts or a record are out. -/
theorem info_holds (hE : Honours E start) (pattern : Text.Bytes) (flags : UInt32) :
    Step.Ensures (Holds E start R) (World.ask (recorded E) (.info pattern flags)) fun reply =>
      Holds E start (↑(reply.leaves (Item.mk .info) (Item.mk (.record .base))) + R) := by
  refine (ask_holds hE (by simp [Request.names])).mono fun reply w ⟨hlawful, h⟩ => ?_
  simp only [Exchange.Lawful] at hlawful
  rw [InfoReply.leaves]
  split
  · next hcode =>
    rw [if_pos hcode] at hlawful
    simpa [Exchange.givesBack, Exchange.handsOut, hlawful, Multiset.add_comm] using h
  · next hcode =>
    rw [if_neg hcode] at hlawful
    simpa [Exchange.givesBack, Exchange.handsOut, hlawful, Multiset.add_comm] using h

/-- After a request for scratch space, what was there is out or what has come
in its place. -/
theorem alloc_holds (hE : Honours E start) {d : Handle} (s : Option Handle)
    (hd : ⟨.database, d⟩ ∈ R) :
    Step.Ensures (Holds E start (↑(s.toList.map (Item.mk .scratch)) + R))
      (World.ask (recorded E) (.allocScratch d s)) fun reply =>
        Holds E start (↑((reply.leaves s).toList.map (Item.mk .scratch)) + R) := by
  refine (ask_holds hE fun i hi => ?_).mono fun reply w ⟨hlawful, h⟩ => ?_
  · rcases List.mem_cons.1 hi with rfl | hi
    · exact Multiset.mem_add.2 (.inr hd)
    · exact Multiset.mem_add.2 (.inl hi)
  rcases reply with ⟨code, s'⟩
  simp only [Exchange.Lawful] at hlawful
  rw [ScratchReply.leaves]
  split
  · rcases s' with _ | h'
    · simpa [Exchange.givesBack, Exchange.handsOut] using h
    · by_cases hsame : some h' = s
      · subst hsame
        simpa [Exchange.givesBack, Exchange.handsOut] using h
      · simpa [Exchange.givesBack, Exchange.handsOut, hsame, Multiset.add_comm,
          Multiset.add_sub_cancel_right] using h
  · next hcode =>
    obtain rfl := hlawful hcode
    simpa [Exchange.givesBack, Exchange.handsOut] using h

/-- **What is out, as something held.** -/
def ledger (hE : Honours E start) : Custody (recorded E) Item where
  holds := Holds E start
  database h _ := ⟨.database, h⟩
  scratch := Item.mk .scratch
  record v := Item.mk (.record v)
  info := Item.mk .info
  note _ n := note_holds n
  compile _ jobs mode := compile_holds hE jobs mode
  facts _ pattern flags := info_holds hE pattern flags
  alloc _ _ _ s hd := alloc_holds hE s hd
  freeDatabase _ _ _ := giveBack_holds hE rfl (fun _ => rfl) fun _ => rfl
  freeScratch _ _ := giveBack_holds hE rfl (fun _ => rfl) fun _ => rfl
  freeError _ _ _ := giveBack_holds hE rfl (fun _ => rfl) fun _ => rfl
  freeInfo _ _ := giveBack_holds hE rfl (fun _ => rfl) fun _ => rfl
  databaseSize _ _ _ hd := use_holds hE (by simpa [Request.names]) (fun _ => rfl) fun _ => rfl
  scratchSize _ _ hs := use_holds hE (by simpa [Request.names]) (fun _ => rfl) fun _ => rfl
  baseScratchSize _ _ hs := use_holds hE (by simpa [Request.names]) (fun _ => rfl) fun _ => rfl
  scan _ _ _ _ _ hd hs :=
    use_holds hE (by simpa [Request.names] using ⟨hd, hs⟩) (fun _ => rfl) fun _ => rfl

end Engine

end Multiscan
