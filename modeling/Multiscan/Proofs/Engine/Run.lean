import Multiscan.Engine.World
/-!
# Operations — running them

An operation is a function of the world. The first part has the equations
for its steps: what comes first runs in the world, what comes next runs with
its value in the world that it leaves. The second part is about what an
operation ensures, `Ensures`: a condition on the world before, and one on
the value and the world after. Operations that can fail are treated as
attempts, whose value is an error or a result.
-/

namespace Multiscan

variable {σ α β : Type}

namespace Step

@[simp] theorem pure_apply (a : α) (w : World σ) : (pure a : Step σ α) w = (a, w) := rfl

@[simp] theorem bind_apply (a : Step σ α) (f : α → Step σ β) (w : World σ) :
    (a >>= f) w = f (a w).1 (a w).2 := rfl

@[simp] theorem map_apply (f : α → β) (a : Step σ α) (w : World σ) :
    (f <$> a) w = (f (a w).1, (a w).2) := rfl

end Step

namespace World

@[simp] theorem ask_apply (E : Engine σ) (r : Engine.Request) (w : World σ) :
    ask E r w = ((E.answer r w.engine).1, { w with engine := (E.answer r w.engine).2 }) := rfl

@[simp] theorem note_apply (n : Note) (w : World σ) :
    note n w = ((), { w with notes := w.notes ++ [n] }) := rfl

end World

namespace Act

theorem ofExcept_bind (a : α) (f : α → Act σ β) : ofExcept (.ok a) >>= f = f a := rfl

theorem attempt_bind_ok (a : α) (f : α → Act σ β) (w : World σ) :
    (ofExcept (.ok a) >>= f).attempt w = (f a).attempt w := rfl

theorem attempt_bind_error (e : Error) (f : α → Act σ β) (w : World σ) :
    (ofExcept (.error e) >>= f).attempt w = (.error e, w) := rfl

theorem attempt_bind_lift (a : Step σ α) (f : α → Act σ β) (w : World σ) :
    ((liftM a : Act σ α) >>= f).attempt w = (f (a w).1).attempt (a w).2 := rfl

end Act

/-! ## What operations ensure -/

/-- Whenever `P` holds of the world before an operation, `Q` holds of its
value and the world after it. -/
def Step.Ensures (P : World σ → Prop) (a : Step σ α) (Q : α → World σ → Prop) : Prop :=
  ∀ w, P w → Q (a w).1 (a w).2

/-- One condition for values and one for errors. -/
def Act.either (Q : α → World σ → Prop) (F : Error → World σ → Prop) :
    Except Error α → World σ → Prop
  | .ok a => Q a
  | .error e => F e

/-- The same for an operation that can fail, with one condition for its value
and one for its error. -/
def Act.Ensures (P : World σ → Prop) (a : Act σ α) (Q : α → World σ → Prop)
    (F : Error → World σ → Prop) : Prop :=
  Step.Ensures P a.attempt (Act.either Q F)

namespace Step.Ensures

variable {P : World σ → Prop}

protected theorem pure {Q : α → World σ → Prop} {a : α} (h : ∀ w, P w → Q a w) :
    Ensures P (pure a) Q := h

protected theorem bind {a : Step σ α} {f : α → Step σ β} {Q : α → World σ → Prop}
    {R : β → World σ → Prop} (ha : Ensures P a Q) (hf : ∀ x, Ensures (Q x) (f x) R) :
    Ensures P (a >>= f) R :=
  fun w hw => hf _ _ (ha w hw)

/-- What comes first does not matter to what comes next. -/
theorem bind_any {a : Step σ α} {f : α → Step σ β} {R : β → World σ → Prop}
    (hf : ∀ x, Ensures (fun _ => True) (f x) R) : Ensures P (a >>= f) R :=
  fun _ _ => hf _ _ trivial

protected theorem mono {a : Step σ α} {Q R : α → World σ → Prop} (ha : Ensures P a Q)
    (h : ∀ x w, Q x w → R x w) : Ensures P a R :=
  fun w hw => h _ _ (ha w hw)

/-- What holds whatever the world can be assumed. -/
theorem assume {φ : Prop} {a : Step σ α} {Q : α → World σ → Prop} (h : φ → Ensures P a Q) :
    Ensures (fun w => φ ∧ P w) a Q :=
  fun w hw => h hw.1 w hw.2

/-- An attempt goes on either way. -/
theorem bind_attempt {a : Act σ α} {f : Except Error α → Step σ β} {Q : α → World σ → Prop}
    {F : Error → World σ → Prop} {R : β → World σ → Prop} (ha : a.Ensures P Q F)
    (hok : ∀ x, Ensures (Q x) (f (.ok x)) R) (herror : ∀ e, Ensures (F e) (f (.error e)) R) :
    Ensures P (a.attempt >>= f) R := by
  refine Ensures.bind ha fun r => ?_
  rcases r with e | x
  · exact herror e
  · exact hok x

end Step.Ensures

namespace Act.Ensures

variable {P : World σ → Prop} {F : Error → World σ → Prop}

protected theorem pure {Q : α → World σ → Prop} {a : α} (h : ∀ w, P w → Q a w) :
    Ensures P (pure a) Q F := h

protected theorem throw {Q : α → World σ → Prop} {e : Error} (h : ∀ w, P w → F e w) :
    Ensures P (throw e) Q F := h

/-- A note, as the first step of an operation that can fail. -/
theorem bind_note {n : Note} {f : Unit → Act σ β} {R : β → World σ → Prop}
    (hn : Step.Ensures P (World.note n) fun _ => P) (hf : (f ()).Ensures P R F) :
    (note n >>= f).Ensures P R F :=
  fun w hw => hf _ (hn w hw)

/-- Nothing comes after an error. -/
theorem bind_throw {f : α → Act σ β} {R : β → World σ → Prop} {e : Error}
    (h : ∀ w, P w → F e w) : ((throw e : Act σ α) >>= f).Ensures P R F := h

/-- A value that is there goes on; an error stops. -/
theorem bind_ofExcept {x : Except Error α} {f : α → Act σ β} {R : β → World σ → Prop}
    (hok : ∀ a, x = .ok a → (f a).Ensures P R F) (herror : ∀ e w, P w → F e w) :
    (ofExcept x >>= f).Ensures P R F := by
  rcases x with e | a
  · exact fun w hw => herror e w hw
  · exact hok a rfl

/-- An operation that cannot fail, as the first step of one that can. -/
theorem bind_lift {a : Step σ α} {f : α → Act σ β} {Q : α → World σ → Prop}
    {R : β → World σ → Prop} (ha : Step.Ensures P a Q) (hf : ∀ x, (f x).Ensures (Q x) R F) :
    ((liftM a : Act σ α) >>= f).Ensures P R F :=
  fun w hw => hf _ _ (ha w hw)

end Act.Ensures

end Multiscan
