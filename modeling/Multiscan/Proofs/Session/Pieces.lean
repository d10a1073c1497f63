import Mathlib.Algebra.Order.Group.Multiset
import Multiscan.Proofs.Builtin.Compile
import Multiscan.Session.Probe
/-!
# Session — what a session has in the heap

A session has pieces in the heap of the probe: a database with the jobs that
it was compiled from, scratch space that is idle, and the records and facts
that are about to be given back. `Sound` says that each of them is in its
place. What is done with one piece leaves the others where they are. Scratch
space has at least the room that `floor` says. A script can have records and
facts left behind, so there may be more in the heap than the pieces.
-/

namespace Multiscan.Session

open Engine Builtin

/-- Something in the heap. -/
inductive Piece
  | database (h : Handle) (jobs : List Job)
  | scratch (h : Handle)
  | other (h : Handle)

namespace Piece

/-- The handle of a piece. -/
def handle : Piece → Handle
  | .database h _ => h
  | .scratch h => h
  | .other h => h

/-- A piece is in its place in a heap. -/
def Stands (setup : Setup) (floor : Handle → Nat) (heap : Heap) : Piece → Prop
  | .database h jobs => jobs ≠ [] ∧ Stored setup (jobs.map sourceOf) heap h
  | .scratch h => ∃ capacity, heap.scratch? (some h) = some (capacity, false) ∧ floor h ≤ capacity
  | .other h => h < heap.cells.size

variable {setup : Setup} {floor : Handle → Nat} {heap heap' : Heap} {x : Piece}

theorem Stands.lt (hx : x.Stands setup floor heap) : x.handle < heap.cells.size := by
  rcases x with ⟨h, jobs⟩ | h | h
  · obtain ⟨-, patterns, -, hd⟩ := hx
    exact Heap.lt_of_cell? ((Heap.database?_some patterns).1 hd)
  · obtain ⟨capacity, hs, -⟩ := hx
    obtain ⟨buffer, hc⟩ := Heap.scratch?_some.1 hs
    exact Heap.lt_of_cell? hc
  · exact hx

/-- What happens to other cells does not matter. -/
theorem Stands.congr (hx : x.Stands setup floor heap)
    (hcell : heap'.cell? x.handle = heap.cell? x.handle)
    (hsize : heap.cells.size ≤ heap'.cells.size) : x.Stands setup floor heap' := by
  rcases x with ⟨h, jobs⟩ | h | h
  · obtain ⟨hjobs, patterns, hpatterns, hd⟩ := hx
    have hc := (Heap.database?_some patterns).1 hd
    exact ⟨hjobs, patterns, hpatterns, (Heap.database?_some patterns).2 (hcell.trans hc)⟩
  · obtain ⟨capacity, hs, hle⟩ := hx
    obtain ⟨buffer, hc⟩ := Heap.scratch?_some.1 hs
    exact ⟨capacity, Heap.scratch?_some.2 ⟨buffer, hcell.trans hc⟩, hle⟩
  · exact Nat.lt_of_lt_of_le hx hsize

end Piece

/-- **All pieces are in their places**, each with a handle of its own. -/
structure Sound (setup : Setup) (floor : Handle → Nat) (H : Multiset Piece) (heap : Heap) :
    Prop where
  distinct : (H.map Piece.handle).Nodup
  stands : ∀ x ∈ H, x.Stands setup floor heap
  floor_eq_zero : ∀ h, heap.cells.size ≤ h → floor h = 0

namespace Sound

variable {setup : Setup} {floor : Handle → Nat} {heap : Heap} {H K R : Multiset Piece} {x : Piece}

/-- Pieces can be forgotten. -/
theorem forget (h : Sound setup floor (K + R) heap) : Sound setup floor R heap where
  distinct := (Multiset.nodup_add.1 (Multiset.map_add _ K R ▸ h.distinct)).2.1
  stands x hx := h.stands x (Multiset.mem_add.2 (.inr hx))
  floor_eq_zero := h.floor_eq_zero

/-- A new cell is a new piece. -/
theorem give (h : Sound setup floor R heap) (c : Cell) (hx : x.handle = heap.cells.size)
    (hstands : x.Stands setup floor (heap.give c).2) :
    Sound setup floor (x ::ₘ R) (heap.give c).2 where
  distinct := by
    rw [Multiset.map_cons, Multiset.nodup_cons]
    refine ⟨?_, h.distinct⟩
    intro hmem
    obtain ⟨y, hy, heq⟩ := Multiset.mem_map.1 hmem
    -- All other handles stand before the end of the heap.
    exact absurd (heq.trans hx) (Nat.ne_of_lt (h.stands y hy).lt)
  stands y hy := by
    rcases Multiset.mem_cons.1 hy with rfl | hy
    · exact hstands
    · refine (h.stands y hy).congr ?_ (Nat.le.intro (Heap.size_give heap c).symm)
      rw [Heap.cell?_give, if_neg (Nat.ne_of_lt (h.stands y hy).lt)]
  floor_eq_zero k hk := by
    rw [Heap.size_give] at hk
    exact h.floor_eq_zero k (by omega)

/-- The other pieces have other handles. -/
theorem handle_ne (h : Sound setup floor (x ::ₘ R) heap) {y : Piece} (hy : y ∈ R) :
    y.handle ≠ x.handle := by
  have hdistinct := h.distinct
  rw [Multiset.map_cons, Multiset.nodup_cons] at hdistinct
  intro heq
  exact hdistinct.1 (heq ▸ Multiset.mem_map_of_mem _ hy)

/-- A piece is taken out of the heap. -/
theorem take (h : Sound setup floor (x ::ₘ R) heap) : Sound setup floor R (heap.take x.handle) where
  distinct := (h.forget (K := {x})).distinct
  stands y hy := by
    refine (h.stands y (Multiset.mem_cons_of_mem hy)).congr ?_ (Heap.size_take _ _).ge
    rw [Heap.cell?_take, if_neg (h.handle_ne hy)]
  floor_eq_zero k hk := h.floor_eq_zero k (Heap.size_take heap x.handle ▸ hk)

/-- Scratch space may get more room and other matches in its buffer, as long
as it stays idle. -/
theorem put (h : Sound setup floor H heap) {s : Handle} {capacity capacity' : Nat}
    {buffer buffer' : List Event} (hc : heap.cell? s = some (.scratch capacity false buffer))
    (hle : capacity ≤ capacity') :
    Sound setup floor H (heap.put s (.scratch capacity' false buffer')) where
  distinct := h.distinct
  stands y hy := by
    by_cases hs : y.handle = s
    · have hstands := h.stands y hy
      have hput := Heap.cell?_put_self hc (.scratch capacity' false buffer')
      rcases y with ⟨k, jobs⟩ | k | k <;> obtain rfl : k = s := hs
      · -- A database is no scratch space.
        obtain ⟨-, patterns, -, hd⟩ := hstands
        exact nomatch hc.symm.trans ((Heap.database?_some patterns).1 hd)
      · obtain ⟨n, hn, hfloor⟩ := hstands
        obtain ⟨rfl, -⟩ := Prod.mk.inj (Option.some.inj
          (hn.symm.trans (Heap.scratch?_some.2 ⟨buffer, hc⟩)))
        exact ⟨capacity', Heap.scratch?_some.2 ⟨buffer', hput⟩, Nat.le_trans hfloor hle⟩
      · exact Nat.lt_of_lt_of_le hstands (Heap.size_put _ _ _).ge
    · refine (h.stands y hy).congr ?_ (Heap.size_put _ _ _).ge
      rw [Heap.cell?_put (Heap.lt_of_cell? hc), if_neg hs]
  floor_eq_zero k hk := h.floor_eq_zero k (Heap.size_put heap s _ ▸ hk)

end Sound

/-! ## The room that there is -/

/-- The capacity of scratch space, and nothing elsewhere. -/
def room (heap : Heap) (h : Handle) : Nat := ((heap.scratch? (some h)).map (·.1)).getD 0

/-- Scratch space has the room that it has, so none of it need get lost. -/
theorem Sound.raise {setup : Setup} {floor : Handle → Nat} {heap : Heap} {H : Multiset Piece}
    (h : Sound setup floor H heap) : Sound setup (room heap) H heap where
  distinct := h.distinct
  stands x hx := by
    have hstands := h.stands x hx
    rcases x with ⟨k, jobs⟩ | k | k
    · exact hstands
    · obtain ⟨capacity, hs, -⟩ := hstands
      exact ⟨capacity, hs, by rw [room, hs]; exact Nat.le_refl _⟩
    · exact hstands
  floor_eq_zero k hk := by
    have hcell : heap.cell? k = none := by
      rw [Heap.cell?, Array.getElem?_eq_none hk]
      rfl
    simp [room, Heap.scratch?, hcell]

end Multiscan.Session
