import Multiscan.Proofs.Ledger.Transcript
/-!
# Ledger — engines that honour the contract

`Honours` promises only something about the replies to requests that may be
made: an engine that was asked about something it has taken back owes
nothing. As long as only such requests are made, an item is never given back
more often than it was handed out, and never handed out again while it is
out (`Reach.conserves`).
-/

namespace Multiscan

namespace Engine

variable {σ : Type} {E : Engine σ} {start s : σ} {t : Transcript}

/-- From its state `start`, an engine comes to a state through a transcript
whose requests were all permitted. -/
inductive Reach (E : Engine σ) (start : σ) : σ → Transcript → Prop
  /-- Nothing was asked yet. -/
  | refl : Reach E start start []
  /-- One more request was made. -/
  | ask {s : σ} {t : Transcript} {r : Request} (h : Reach E start s t) (hr : t.Permits r) :
    Reach E start (E.answer r s).2 (t ++ [⟨r, (E.answer r s).1⟩])

/-- An engine honours the contract from a state on if every reply to a
permitted request is one that may be given. -/
def Honours (E : Engine σ) (start : σ) : Prop :=
  ∀ s t r, Reach E start s t → t.Permits r → t.Expects ⟨r, (E.answer r s).1⟩

/-- The engine that writes down what it is asked and what it replies, and is
no different otherwise. -/
def recorded (E : Engine σ) : Engine (σ × Transcript) where
  version := E.version
  label := E.label
  runsHere := E.runsHere
  answer r := fun (s, t) =>
    let (reply, s) := E.answer r s
    (reply, s, t ++ [⟨r, reply⟩])

/-! ## No item is given back twice -/

namespace Exchange

/-- A lawful exchange hands out one item at most. -/
theorem length_handsOut_le {x : Exchange} (h : x.Lawful) : x.handsOut.length ≤ 1 := by
  rcases x with ⟨_ | _ | _ | ⟨d, s⟩ | _ | _ | _ | _ | _ | _ | _, reply⟩ <;>
    try exact Nat.zero_le 1
  case compile =>
    simp only [Lawful] at h
    split at h <;> rcases reply with ⟨_, _ | _, _ | _⟩ <;> simp_all [handsOut]
  case allocScratch =>
    simp only [handsOut]
    split
    · exact Nat.zero_le 1
    · rcases reply with ⟨_, _ | _⟩ <;> simp
  case info =>
    simp only [Lawful] at h
    split at h <;> rcases reply with ⟨_, _ | _, _ | _⟩ <;> simp_all [handsOut]

/-- An exchange gives one item back at most. -/
theorem length_givesBack_le (x : Exchange) : x.givesBack.length ≤ 1 := by
  rcases x with ⟨_ | _ | _ | ⟨d, s⟩ | _ | _ | _ | _ | _ | _ | _, reply⟩ <;>
    try exact Nat.le_refl 1
  all_goals try exact Nat.zero_le 1
  simp only [givesBack]
  split
  · exact Nat.zero_le 1
  · rcases s <;> simp

end Exchange

/-- Where an exchange that is permitted and expected leaves one item. -/
theorem Transcript.conserves_concat {x : Exchange} (hr : t.Permits x.request)
    (hx : t.Expects x) (i : Item)
    (h : t.handedOut i = t.givenBack i ∨ t.handedOut i = t.givenBack i + 1) :
    handedOut (t ++ [x]) i = givenBack (t ++ [x]) i ∨
      handedOut (t ++ [x]) i = givenBack (t ++ [x]) i + 1 := by
  have hout : x.handsOut.count i ≤ 1 :=
    Nat.le_trans List.count_le_length (Exchange.length_handsOut_le hx.1)
  have hback : x.givesBack.count i ≤ 1 :=
    Nat.le_trans List.count_le_length x.length_givesBack_le
  rw [handedOut_concat, givenBack_concat]
  by_cases hi : i ∈ x.handsOut
  · -- What is handed out is not out, and so is not given back either.
    have hfresh : t.handedOut i ≤ t.givenBack i := Nat.not_lt.1 (hx.2 i hi)
    have hkept : i ∉ x.givesBack := fun hb => hx.2 i hi (hr i (x.givesBack_subset hb))
    rw [List.count_eq_zero_of_not_mem hkept]
    omega
  · rw [List.count_eq_zero_of_not_mem hi]
    by_cases hb : i ∈ x.givesBack
    · have hlt : t.givenBack i < t.handedOut i := hr i (x.givesBack_subset hb)
      have hpos := List.count_pos_iff.2 hb
      omega
    · rw [List.count_eq_zero_of_not_mem hb]
      exact h

/-- **Every item is out or balanced.** It was handed out as often as it was
given back, or once more. -/
theorem Reach.conserves (hE : Honours E start) (h : Reach E start s t) (i : Item) :
    t.handedOut i = t.givenBack i ∨ t.handedOut i = t.givenBack i + 1 := by
  induction h with
  | refl => exact .inl rfl
  | ask h hr ih => exact Transcript.conserves_concat hr (hE _ _ _ h hr) i ih

/-- What was reached was reached one request at a time, each of which was
permitted when it was made. -/
theorem Reach.of_append {before : Transcript} {x : Exchange} {after : Transcript}
    (h : Reach E start s (before ++ x :: after)) :
    (∃ s', Reach E start s' before) ∧ before.Permits x.request := by
  -- By induction on how it was reached; the last exchange is x or behind it.
  generalize ht : before ++ x :: after = t at h
  induction h generalizing after with
  | refl => exact absurd ht (by simp)
  | ask h hr ih =>
    rcases List.eq_nil_or_concat after with rfl | ⟨after', y, rfl⟩
    · obtain ⟨rfl, hx⟩ := List.append_inj' ht rfl
      obtain rfl := List.singleton_inj.1 hx
      exact ⟨⟨_, h⟩, hr⟩
    · rw [List.concat_eq_append, ← List.cons_append, ← List.append_assoc] at ht
      exact ih (List.append_inj' ht rfl).1

end Engine

end Multiscan
