/-!
# Session — things with names

A list of things by name, kept in the order of the names.
-/

namespace Multiscan.Session

/-- Things by name. -/
abbrev Named (α : Type) := List (String × α)

namespace Named

variable {α : Type}

/-- What has a name. -/
def find? (name : String) (ns : Named α) : Option α := List.lookup name ns

/-- Give a name to something; whatever had it before loses it. -/
def put (name : String) (a : α) : Named α → Named α
  | [] => [(name, a)]
  | (n, b) :: rest =>
    if n = name then (name, a) :: rest
    else if name < n then (name, a) :: (n, b) :: rest
    else (n, b) :: put name a rest

/-- Forget a name. -/
def remove (name : String) (ns : Named α) : Named α := ns.filter (·.1 != name)

/-! What a name finds after each operation. -/

@[simp] theorem find?_nil (name : String) : find? name ([] : Named α) = none := rfl

theorem find?_cons (name n : String) (a : α) (ns : Named α) :
    find? name ((n, a) :: ns) = if name = n then some a else find? name ns := by
  simp only [find?, List.lookup_cons]
  by_cases h : name = n
  · simp [h]
  · rw [beq_false_of_ne h, if_neg h]

theorem find?_put (name : String) (a : α) (ns : Named α) (n : String) :
    (ns.put name a).find? n = if n = name then some a else ns.find? n := by
  induction ns with
  | nil => rw [put, find?_cons]
  | cons head rest ih =>
    obtain ⟨m, b⟩ := head
    rw [put]
    split
    · next h =>
      subst h
      rw [find?_cons, find?_cons]
      split <;> rfl
    · split
      · rw [find?_cons]
      · next h _ =>
        rw [find?_cons, find?_cons, ih]
        by_cases hn : n = m
        · rw [if_pos hn, if_pos hn, if_neg (fun hname => h (hn.symm.trans hname))]
        · rw [if_neg hn, if_neg hn]

theorem find?_remove (name : String) (ns : Named α) (n : String) :
    (ns.remove name).find? n = if n = name then none else ns.find? n := by
  induction ns with
  | nil => simp [remove]
  | cons head rest ih =>
    obtain ⟨m, b⟩ := head
    rw [remove] at ih ⊢
    rw [List.filter_cons, find?_cons]
    by_cases hm : m = name
    · simp only [hm, bne_self_eq_false, Bool.false_eq_true, if_false, ih]
      split <;> rfl
    · simp only [bne_iff_ne.2 hm, if_true, find?_cons, ih]
      by_cases hn : n = m
      · rw [if_pos hn, if_pos hn, if_neg (fun hname => hm (hn.symm.trans hname))]
      · rw [if_neg hn, if_neg hn]

end Named

end Multiscan.Session
