import Mathlib.Data.Multiset.AddSub
import Mathlib.Data.String.Basic
import Multiscan.Session.Named
/-!
# Session — what all things with names add up to

Names stay in strict order, so no name is there twice. Then what a list adds
up to is what one name contributes and what all the others do.
-/

namespace Multiscan.Session.Named

variable {α γ : Type} {ns : Named α} {name : String} {a : α}

/-- The names are in strict order. -/
def Sorted (ns : Named α) : Prop := ns.Pairwise (·.1 < ·.1)

theorem sorted_nil : Sorted ([] : Named α) := .nil

theorem mem_put {p : String × α} (h : p ∈ ns.put name a) : p = (name, a) ∨ p ∈ ns := by
  induction ns with
  | nil => exact .inl (List.mem_singleton.1 h)
  | cons head rest ih =>
    rw [put] at h
    split at h
    · exact (List.mem_cons.1 h).imp_right (List.mem_cons_of_mem _)
    · split at h
      · exact List.mem_cons.1 h
      · rcases List.mem_cons.1 h with rfl | h
        · exact .inr List.mem_cons_self
        · exact (ih h).imp_right (List.mem_cons_of_mem _)

theorem sorted_put (h : ns.Sorted) (name : String) (a : α) : (ns.put name a).Sorted := by
  induction ns with
  | nil => exact List.pairwise_singleton _ _
  | cons head rest ih =>
    obtain ⟨n, b⟩ := head
    obtain ⟨hhead, hrest⟩ := List.pairwise_cons.1 h
    rw [put]
    split
    · next heq => exact List.pairwise_cons.2 ⟨fun p hp => heq ▸ hhead p hp, hrest⟩
    · next hne =>
      split
      · next hlt =>
        refine List.pairwise_cons.2 ⟨fun p hp => ?_, h⟩
        rcases List.mem_cons.1 hp with rfl | hp
        · exact hlt
        · exact lt_trans hlt (hhead p hp)
      · next hnlt =>
        refine List.pairwise_cons.2 ⟨fun p hp => ?_, ih hrest⟩
        rcases mem_put hp with rfl | hp
        · exact lt_of_le_of_ne (not_lt.1 hnlt) hne
        · exact hhead p hp

theorem sorted_remove (h : ns.Sorted) (name : String) : (ns.remove name).Sorted :=
  List.Pairwise.filter _ h

/-- A name that is before all others is not there. -/
theorem remove_of_lt (h : ∀ p ∈ ns, name < p.1) : ns.remove name = ns :=
  List.filter_eq_self.2 fun p hp => bne_iff_ne.2 (h p hp).ne'

theorem remove_cons_self (h : Sorted ((name, a) :: ns)) : remove name ((name, a) :: ns) = ns := by
  rw [remove, List.filter_cons_of_neg (by simp)]
  exact remove_of_lt (List.pairwise_cons.1 h).1

theorem remove_cons_of_ne {p : String × α} (h : p.1 ≠ name) :
    remove name (p :: ns) = p :: remove name ns :=
  List.filter_cons_of_pos (bne_iff_ne.2 h)

/-- Of two things put under a name, the second one stays. -/
theorem put_put (name : String) (a b : α) (ns : Named α) :
    (ns.put name a).put name b = ns.put name b := by
  induction ns with
  | nil => exact if_pos rfl
  | cons head rest ih =>
    obtain ⟨n, c⟩ := head
    rw [put, put]
    split
    · rw [put, if_pos rfl]
    · next hne =>
      split
      · rw [put, if_pos rfl]
      · next hnlt => rw [put, if_neg hne, if_neg hnlt, ih]

/-- What is before all others is put before them. -/
theorem put_of_lt (h : ∀ p ∈ ns, name < p.1) (a : α) : ns.put name a = (name, a) :: ns := by
  rcases ns with _ | ⟨⟨n, b⟩, rest⟩
  · rfl
  · have hlt := h _ List.mem_cons_self
    rw [put, if_neg hlt.ne', if_pos hlt]

/-- It makes no difference whether another name is forgotten before or after. -/
theorem remove_put (h : ns.Sorted) {other : String} (hne : other ≠ name) (a : α) :
    (ns.put other a).remove name = (ns.remove name).put other a := by
  induction ns with
  | nil => exact remove_cons_of_ne hne
  | cons head rest ih =>
    obtain ⟨n, b⟩ := head
    obtain ⟨hhead, hrest⟩ := List.pairwise_cons.1 h
    rw [put]
    split
    · next heq =>
      subst heq
      rw [remove_cons_of_ne hne, remove_cons_of_ne hne, put, if_pos rfl]
    · next hn =>
      split
      · next hlt =>
        rw [remove_cons_of_ne hne, put_of_lt]
        intro p hp
        rcases List.mem_cons.1 (List.mem_filter.1 hp).1 with rfl | hp
        · exact hlt
        · exact lt_trans hlt (hhead p hp)
      · next hnlt =>
        by_cases hname : n = name
        · subst hname
          rw [remove_cons_self h, remove, List.filter_cons_of_neg (by simp), ← remove, ih hrest,
            remove_of_lt hhead]
        · rw [remove_cons_of_ne hname, remove_cons_of_ne hname, put, if_neg hn, if_neg hnlt,
            ih hrest]

theorem remove_put_self (h : ns.Sorted) (a : α) : (ns.put name a).remove name = ns.remove name := by
  induction ns with
  | nil => exact remove_cons_self (List.pairwise_singleton _ _)
  | cons head rest ih =>
    obtain ⟨n, b⟩ := head
    have hput := sorted_put h name a
    rw [put] at hput ⊢
    split at hput
    · next heq =>
      subst heq
      rw [if_pos rfl, remove_cons_self hput, remove_cons_self h]
    · next hne =>
      rw [if_neg hne]
      split
      · rw [remove, remove, List.filter_cons_of_neg (by simp)]
      · rw [remove_cons_of_ne hne, remove_cons_of_ne hne, ih (List.pairwise_cons.1 h).2]

theorem remove_remove (ns : Named α) (name : String) :
    (ns.remove name).remove name = ns.remove name := by
  rw [remove, remove, List.filter_filter]
  simp only [Bool.and_self]

theorem remove_comm (ns : Named α) (name other : String) :
    (ns.remove other).remove name = (ns.remove name).remove other :=
  List.filter_comm _ _ ns

/-! ## Sums -/

/-- What all things add up to. -/
def total (f : α → Multiset γ) : Named α → Multiset γ
  | [] => 0
  | (_, a) :: rest => f a + total f rest

theorem total_of_find? (h : ns.Sorted) (hfind : ns.find? name = some a) (f : α → Multiset γ) :
    total f ns = f a + total f (ns.remove name) := by
  induction ns with
  | nil => exact nomatch hfind
  | cons head rest ih =>
    obtain ⟨n, b⟩ := head
    rw [find?_cons] at hfind
    split at hfind
    · next heq =>
      subst heq
      obtain rfl := Option.some.inj hfind
      rw [remove_cons_self h, total]
    · next hne =>
      rw [remove_cons_of_ne (Ne.symm hne), total, total, ih (List.pairwise_cons.1 h).2 hfind,
        ← Multiset.add_assoc, ← Multiset.add_assoc, Multiset.add_comm (f b)]

theorem total_of_find?_none (hfind : ns.find? name = none) (f : α → Multiset γ) :
    total f (ns.remove name) = total f ns := by
  induction ns with
  | nil => rfl
  | cons head rest ih =>
    obtain ⟨n, b⟩ := head
    rw [find?_cons] at hfind
    split at hfind
    · exact nomatch hfind
    · next hne => rw [remove_cons_of_ne (Ne.symm hne), total, total, ih hfind]

theorem total_put (h : ns.Sorted) (name : String) (a : α) (f : α → Multiset γ) :
    total f (ns.put name a) = f a + total f (ns.remove name) := by
  induction ns with
  | nil => rfl
  | cons head rest ih =>
    obtain ⟨n, b⟩ := head
    obtain ⟨hhead, hrest⟩ := List.pairwise_cons.1 h
    rw [put]
    split
    · next heq =>
      subst heq
      rw [remove_cons_self h, total]
    · next hne =>
      split
      · next hlt =>
        have hall : ∀ p ∈ (n, b) :: rest, name < p.1 := fun p hp => by
          rcases List.mem_cons.1 hp with rfl | hp
          · exact hlt
          · exact lt_trans hlt (hhead p hp)
        rw [remove_of_lt hall, total]
      · rw [remove_cons_of_ne hne, total, total, ih hrest, ← Multiset.add_assoc,
          ← Multiset.add_assoc, Multiset.add_comm (f b)]

theorem mem_total {f : α → Multiset γ} {x : γ} : x ∈ total f ns ↔ ∃ p ∈ ns, x ∈ f p.2 := by
  induction ns with
  | nil => simp [total]
  | cons head rest ih =>
    obtain ⟨n, b⟩ := head
    simp [total, ih]

end Multiscan.Session.Named
