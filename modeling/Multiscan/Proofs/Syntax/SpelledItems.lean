import Multiscan.Proofs.Syntax.Elsewhere
import Multiscan.Proofs.Syntax.Errors
import Multiscan.Proofs.Syntax.Spellable
/-!
# Syntax — single items spelled in bytes

A pattern and its spelling are read side by side: a place in the one belongs to a place in
the other if what is left there is the spelling of what is left here (`Cursor.Spelled`).
From such places the same single items are read, escapes included
(`Cursor.Spelled.escape`), and the places behind them belong together again. Of a character
outside ASCII the spelling has one escape for each byte (`Cursor.Pending`), and each of
them is read as a literal (`Cursor.Pending.escape`).
-/

namespace Multiscan.Syntax

open Text (encodeChar)
open Unicode (isWhiteSpace)

variable {text : List Char} {c d : Cursor} {x y : Char} {p : Char → Bool}

/-! ## Cursors in a pattern and in its spelling -/

/-- A place in a pattern and the one in its spelling that belongs to it. Where blanks
are passed over, there are none outside ASCII. -/
structure Cursor.Spelled (text : List Char) (c d : Cursor) : Prop where
  place : c.In text
  rest : d.rest = spellInBytes c.rest
  verbose : d.verbose = c.verbose
  groups : d.groups = c.groups
  names : d.names = c.names
  blanks : c.verbose = true → AsciiBlanks text

/-- What is left of a text has no blanks that the text has not. -/
theorem AsciiBlanks.rest (h : AsciiBlanks text) (hc : c.In text) : AsciiBlanks c.rest := by
  obtain ⟨before, rfl, -⟩ := hc
  exact fun x hx => h x (List.mem_append_right before hx)

/-- What is left behind what is at the front. -/
theorem Cursor.rest_bumps {front cs : List Char} (h : c.rest = front ++ cs) :
    (front.foldl (fun c _ => c.bump) c).rest = cs := by
  induction front generalizing c with
  | nil => exact h
  | cons x front ih =>
    rcases c with ⟨_, rest, _, _, _⟩
    obtain rfl : rest = _ := h
    exact ih rfl

namespace Cursor.Spelled

theorem start (text : List Char) :
    (Cursor.start text).Spelled text (Cursor.start (spellInBytes text)) :=
  ⟨.start text, rfl, rfl, rfl, rfl, fun h => nomatch h⟩

theorem blanks_rest (h : c.Spelled text d) (hverbose : c.verbose = true) : AsciiBlanks c.rest :=
  (h.blanks hverbose).rest h.place

/-- Only the offset of the second is its own. -/
theorem eq_with (h : c.Spelled text d) :
    d = { c with offset := d.offset, rest := spellInBytes c.rest } := by
  rw [← h.rest, ← h.verbose, ← h.groups, ← h.names]

theorem char? (h : c.Spelled text d) : d.char? = c.char?.map shown := by
  rw [Cursor.char?, Cursor.char?, h.rest, head?_spellInBytes]

theorem isNone_char? (h : c.Spelled text d) : d.char?.isNone = c.char?.isNone := by
  rw [h.char?, Option.isNone_map]

/-- A plain character stands at both places or at neither. -/
theorem char?_eq_iff (h : c.Spelled text d) (hx : isPlain x = true) :
    d.char? = some x ↔ c.char? = some x := by
  rw [h.char?]
  cases c.char? with
  | none => exact Iff.rfl
  | some y => rw [Option.map_some, Option.some_inj, Option.some_inj, shown_eq_iff hx]

theorem char?_beq (h : c.Spelled text d) (hx : isPlain x = true) :
    (d.char? == some x) = (c.char? == some x) := by
  rw [Bool.eq_iff_iff, beq_iff_eq, beq_iff_eq, h.char?_eq_iff hx]

/-- Moving on over a plain character. -/
theorem bump (h : c.Spelled text d) (hc : c.char? = some x) (hx : isPlain x = true) :
    c.bump.Spelled text d.bump := by
  obtain ⟨hplace, hrest, hverbose, hgroups, hnames, hblanks⟩ := h
  rcases c with ⟨_, _ | ⟨y, ys⟩, _, _, _⟩
  · cases hc
  · obtain rfl := Option.some.inj hc
    rcases d with ⟨_, _, _, _, _⟩
    rw [spellInBytes_plain hx] at hrest
    subst hrest
    exact ⟨hplace.bump, rfl, hverbose, hgroups, hnames, hblanks⟩

theorem skip (h : c.Spelled text d) : c.skip.Spelled text d.skip := by
  have hplace := h.place.skip
  have hblanks := h.blanks_rest
  rw [h.eq_with]
  rcases c with ⟨_, _, _ | _, _, _⟩
  · exact ⟨hplace, rfl, rfl, rfl, rfl, h.blanks⟩
  · exact ⟨hplace, passBlanks_spellInBytes (hblanks rfl) _ _ _, rfl, rfl, rfl, h.blanks⟩

theorem next (h : c.Spelled text d) (hc : c.char? = some x) (hx : isPlain x = true) :
    c.next.Spelled text d.next := (h.bump hc hx).skip

/-- What stands behind a plain character. -/
theorem peek? (h : c.Spelled text d) (hc : c.char? = some x) (hx : isPlain x = true) :
    d.peek? = c.peek?.map shown := by
  obtain ⟨ys, hys⟩ := List.head?_eq_some_iff.1 hc
  rw [Cursor.peek?, Cursor.peek?, h.rest, hys, spellInBytes_plain hx, List.tail_cons,
    List.tail_cons, head?_spellInBytes]

theorem peekPastBlanks? (h : c.Spelled text d) (hc : c.char? = some x) (hx : isPlain x = true) :
    d.peekPastBlanks? = c.peekPastBlanks?.map shown := by
  obtain ⟨ys, hys⟩ := List.head?_eq_some_iff.1 hc
  have hpeek := h.peek? hc hx
  unfold Cursor.peekPastBlanks?
  rw [h.verbose]
  split
  · next hverbose =>
    have hblanks := h.blanks_rest hverbose
    rw [hys] at hblanks
    rw [h.rest, hys, spellInBytes_plain hx, List.tail_cons, List.tail_cons,
      afterBlanks?_spellInBytes hblanks.tail, hpeek]
    cases Cursor.afterBlanks? ys false <;> rfl
  · exact hpeek

/-- Moving on over plain characters. -/
theorem bumps {front cs : List Char} (h : c.Spelled text d) (hrest : c.rest = front ++ cs)
    (hfront : ∀ x ∈ front, isPlain x = true) :
    (front.foldl (fun c _ => c.bump) c).Spelled text (front.foldl (fun c _ => c.bump) d) := by
  induction front generalizing c d with
  | nil => exact h
  | cons x front ih =>
    obtain ⟨hx, hfront⟩ := List.forall_mem_cons.1 hfront
    refine ih (h.bump (x := x) ?_ hx) ?_ hfront
    · rw [Cursor.char?, hrest]
      rfl
    · rcases c with ⟨_, rest, _, _, _⟩
      subst hrest
      rfl

/-- A text of plain characters stands at both places or at neither. -/
theorem after? (h : c.Spelled text d) (sign : String)
    (hsign : sign.toList.all isPlain = true) :
    Option.Rel (Cursor.Spelled text) (c.after? sign) (d.after? sign) := by
  rw [Cursor.after?, Cursor.after?, h.rest, isPrefixOf_spellInBytes (List.all_eq_true.1 hsign)]
  split
  · next hprefix =>
    obtain ⟨cs, hcs⟩ := List.isPrefixOf_iff_prefix.1 hprefix
    exact .some (h.bumps hcs.symm (List.all_eq_true.1 hsign))
  · exact .none

theorem isSome_after? (h : c.Spelled text d) (sign : String)
    (hsign : sign.toList.all isPlain = true) :
    (d.after? sign).isSome = (c.after? sign).isSome := by
  rw [Cursor.after?, Cursor.after?, h.rest, isPrefixOf_spellInBytes (List.all_eq_true.1 hsign)]
  split <;> rfl

/-- A run of plain characters is the same. -/
theorem run (h : c.Spelled text d) (hslash : p '\\' = false)
    (hascii : ∀ x ∈ c.rest, p x = true → x.toNat < 128) :
    (d.run p).1 = (c.run p).1 ∧ (c.run p).2.Spelled text (d.run p).2 := by
  have hplace := h.place.run p
  obtain ⟨hrun, hrest⟩ := takeRun_spellInBytes hslash hascii h.blanks_rest false false c.offset
    d.offset
  rw [h.eq_with]
  exact ⟨hrun, hplace, hrest, rfl, rfl, rfl, h.blanks⟩

/-- A run that may hold escapes leaves the same behind it. -/
theorem run_of_escapes (h : c.Spelled text d) (hescapes : ∀ y ∈ escapeChars, p y = true)
    (hplain : ∀ x, p x = false → isPlain x = true) :
    (c.run p).2.Spelled text (d.run p).2 := by
  have hplace := h.place.run p
  have hrest := takeRun_spellInBytes_of_escapes hescapes hplain h.blanks_rest false false c.offset
    d.offset
  rw [h.eq_with]
  exact ⟨hplace, hrest, rfl, rfl, rfl, h.blanks⟩

end Cursor.Spelled

/-! ## Characters that have a meaning -/

theorem ascii_of_le (y : Char) (h : decide (x ≤ y) = true) (hy : y.toNat < 128) : x.toNat < 128 :=
  Nat.lt_of_le_of_lt (UInt32.le_iff_toNat_le.1 (of_decide_eq_true h)) hy

theorem isPlain_of_isHexDigit (h : Text.isHexDigit x = true) : isPlain x = true := by
  refine isPlain_iff.2 ⟨?_, ?_⟩
  · unfold Text.isHexDigit Text.hexDigit? at h
    split at h
    · next hx => exact ascii_of_le '9' (Bool.and_eq_true_iff.1 hx).2 (by decide)
    · split at h
      · next hx => exact ascii_of_le 'F' (Bool.and_eq_true_iff.1 hx).2 (by decide)
      · split at h
        · next hx => exact ascii_of_le 'f' (Bool.and_eq_true_iff.1 hx).2 (by decide)
        · cases h
  · rintro rfl
    revert h
    decide

theorem isPlain_of_isDigit (h : x.isDigit = true) : isPlain x = true := by
  refine isPlain_iff.2 ⟨ascii_of_le '9' (Bool.and_eq_true_iff.1 h).2 (by decide), ?_⟩
  rintro rfl
  revert h
  decide

theorem isPlain_of_isBoundaryLetter (h : isBoundaryLetter x = true) : isPlain x = true := by
  refine isPlain_iff.2 ⟨?_, ?_⟩
  · rcases Bool.or_eq_true_iff.1 h with h | h
    · rcases Bool.or_eq_true_iff.1 h with h | h
      · exact ascii_of_le 'Z' (decide_eq_true (of_decide_eq_true h).2) (by decide)
      · exact ascii_of_le 'z' (Bool.and_eq_true_iff.1 h).2 (by decide)
    · obtain rfl := beq_iff_eq.1 h
      decide
  · rintro rfl
    revert h
    decide

/-- No character outside ASCII has a meaning behind a backslash. -/
theorem shorthand?_wide (hx : ¬ x.toNat < 128) : shorthand? x = none := by
  unfold shorthand?
  split
  case h_7 => rfl
  all_goals exact absurd (by decide) hx

theorem control?_wide (hx : ¬ x.toNat < 128) : control? x = none := by
  unfold control?
  split
  case h_7 => rfl
  all_goals exact absurd (by decide) hx

theorem assertion?_wide (hx : ¬ x.toNat < 128) : assertion? x = none := by
  unfold assertion?
  split
  case h_7 => rfl
  all_goals exact absurd (by decide) hx

theorem escape_wide {cs : List Char} (hrest : c.rest = '\\' :: x :: cs) (hx : ¬ x.toNat < 128) :
    escape c = .error ⟨.escapeUnrecognized, c.offset⟩ := by
  have hne (y : Char) (hy : y.toNat < 128) : (x == y) = false :=
    beq_eq_false_iff_ne.2 (ne_of_wide hx hy)
  have hdigit : x.isDigit = false :=
    Bool.eq_false_iff.2 fun h => hx (isPlain_iff.1 (isPlain_of_isDigit h)).1
  have hescapable : isEscapable x = false := by
    rw [isEscapable, isMeta_of_not_ascii hx, decide_eq_false hx]
    rfl
  have hchar : c.bump.char? = some x := by
    rcases c with ⟨_, rest, _, _, _⟩
    subst hrest
    rfl
  simp only [escape, hchar, hdigit, hne 'x' (by decide), hne 'u' (by decide), hne 'U' (by decide),
    hne 'p' (by decide), hne 'P' (by decide), Bool.or_false, Bool.false_eq_true, if_false,
    shorthand?_wide hx, hescapable, control?_wide hx, assertion?_wide hx]

/-! ## Readers -/

section

variable {α α' β β' : Type} {G : α → Prop} {H : β → Prop} {R : α → α' → Prop} {S : β → β' → Prop}
variable {r : Except SyntaxError α} {r' : Except SyntaxError α'}

/-- Whatever the first gives that can be spelled, the second gives something that is
related to it. -/
def GivesIf (G : α → Prop) (R : α → α' → Prop) (r : Except SyntaxError α)
    (r' : Except SyntaxError α') : Prop :=
  ∀ a, r = .ok a → G a → ∃ b, r' = .ok b ∧ R a b

namespace GivesIf

theorem error {e : SyntaxError} : GivesIf G R (.error e) r' := by
  rintro _ ⟨⟩

/-- One step after the other, with what the first gives. -/
theorem bind_of_ok {f : α → Except SyntaxError β} {g : α' → Except SyntaxError β'}
    (h : GivesIf G R r r') (hgood : ∀ a b, r = .ok a → f a = .ok b → H b → G a)
    (hnext : ∀ a b, r = .ok a → r' = .ok b → G a → R a b → GivesIf H S (f a) (g b)) :
    GivesIf H S (r >>= f) (r' >>= g) := by
  intro s hs hgives
  obtain ⟨a, ha, hs⟩ := bind_eq_ok.1 hs
  have hga := hgood a s ha hs hgives
  obtain ⟨b, hb, hab⟩ := h a ha hga
  obtain ⟨s', hs', hrel⟩ := hnext a b ha hb hga hab s hs hgives
  exact ⟨s', bind_eq_ok.2 ⟨b, hb, hs'⟩, hrel⟩

/-- One step after the other. What is made of what cannot be spelled cannot be. -/
theorem bind {f : α → Except SyntaxError β} {g : α' → Except SyntaxError β'}
    (h : GivesIf G R r r') (hgood : ∀ a b, f a = .ok b → H b → G a)
    (hnext : ∀ a b, R a b → GivesIf H S (f a) (g b)) : GivesIf H S (r >>= f) (r' >>= g) :=
  h.bind_of_ok (fun a b _ => hgood a b) fun a b _ _ _ => hnext a b

end GivesIf

theorem Gives.givesIf (h : Gives R r r') : GivesIf G R r r' := fun a ha _ => h a ha

end

/-- What two readers give: something related, and places that belong together. -/
def Beside {α α' : Type} (R : α → α' → Prop) (text : List Char) (a : α × Cursor)
    (b : α' × Cursor) : Prop :=
  R a.1 b.1 ∧ a.2.Spelled text b.2

/-- An atom of the same sort, a literal for the same character. -/
inductive Atom.Alike : Atom → Atom → Prop
  | literal (s s' : Span) (form : LiteralForm) (x : Char) :
    Alike (.literal ⟨s, form, x⟩) (.literal ⟨s', form, x⟩)
  | assertion (s s' : Span) (kind : AssertionKind) : Alike (.assertion s kind) (.assertion s' kind)
  | dot (s s' : Span) : Alike (.dot s) (.dot s')
  | shorthand (s s' : Span) (kind : ShorthandKind) (negated : Bool) :
    Alike (.shorthand ⟨s, kind, negated⟩) (.shorthand ⟨s', kind, negated⟩)
  | property (c c' : PropertyClass) : Alike (.property c) (.property c')

/-- An atom that can be spelled in bytes. -/
def Atom.Spellable : Atom → Prop
  | .property c => c.Spellable
  | _ => True

namespace Cursor.Spelled

variable {start start' : Nat}

/-- Digits are the same. -/
theorem hexDigits (h : c.Spelled text d) (count : Nat) :
    Gives (Beside Eq text) (hexDigits c count) (hexDigits d count) := by
  induction count generalizing c d with
  | zero => exact .ok ⟨rfl, h⟩
  | succ count ih =>
    simp only [Syntax.hexDigits, h.char?]
    cases hc : c.char? with
    | none => exact .error
    | some x =>
      dsimp only [Option.map_some]
      split
      · next hx =>
        have hplain := isPlain_of_isHexDigit hx
        rw [shown_of_ascii (isPlain_iff.1 hplain).1, if_pos hx]
        refine (ih (h.next hc hplain)).bind ?_
        rintro ⟨digits, c'⟩ ⟨digits', d'⟩ ⟨hdigits, hcursor⟩
        exact .ok ⟨congrArg (_ :: ·) hdigits, hcursor⟩
      · exact .error

theorem hexEscape (h : c.Spelled text d) (hc : c.char? = some x) (hx : isPlain x = true) :
    Gives (Beside (fun l l' => l'.form = l.form ∧ l'.char = l.char) text) (hexEscape start c)
      (hexEscape start' d) := by
  have hnext := h.next hc hx
  simp only [Syntax.hexEscape, hc, (h.char?_eq_iff hx).2 hc]
  split
  · exact .error
  · next hbrace =>
    have hinside := hnext.next hbrace (by decide)
    obtain ⟨hdigits, hrun⟩ := hinside.run (p := Text.isHexDigit) (by decide)
      fun x _ hx => (isPlain_iff.1 (isPlain_of_isHexDigit hx)).1
    simp only [(hnext.char?_eq_iff (by decide)).2 hbrace, hdigits]
    split
    · exact .error
    · next hend =>
      simp only [(hrun.char?_eq_iff (by decide)).2 hend]
      split
      · exact .error
      · split
        · exact .error
        · exact .ok ⟨⟨rfl, rfl⟩, hrun.next hend (by decide)⟩
    · exact .error
  · next z hbrace hz =>
    have hshown : shown z ≠ '\x7b' := fun h => hbrace ((shown_eq_iff (by decide)).1 h)
    simp only [hnext.char?, hz, Option.map_some]
    refine (hnext.hexDigits _).bind ?_
    rintro ⟨digits, c'⟩ ⟨digits', d'⟩ ⟨hdigits, hcursor⟩
    obtain rfl : digits = digits' := hdigits
    dsimp only
    split
    · exact .error
    · exact .ok ⟨⟨rfl, rfl⟩, hcursor⟩

/-- What a property class asks for between braces may be another text. -/
theorem propertyEscape (h : c.Spelled text d) (hc : c.char? = some x) (hx : isPlain x = true) :
    GivesIf (fun a => a.1.Spellable) (Beside (fun _ _ => True) text) (propertyEscape start c)
      (propertyEscape start' d) := by
  have hnext := h.next hc hx
  simp only [Syntax.propertyEscape]
  split
  · exact .error
  · next hbrace =>
    have hrun := (hnext.next hbrace (by decide)).run_of_escapes (p := (· != '\x7d'))
      (List.all_eq_true.1 (by decide)) fun x hx => by
        obtain rfl : x = '\x7d' := by simpa using hx
        decide
    simp only [(hnext.char?_eq_iff (by decide)).2 hbrace]
    split
    · exact .error
    · next z hend =>
      -- Only the brace ends the name.
      have hclose := Cursor.In.char?_run c.next.next (· != '\x7d')
      rw [hend, Option.any_some] at hclose
      obtain rfl : z = '\x7d' := by simpa using hclose
      simp only [(hrun.char?_eq_iff (by decide)).2 hend]
      exact (Gives.ok ⟨trivial, hrun.bump hend (by decide)⟩).givesIf
  · exact .error
  · next z hbrace hslash hz =>
    intro a ha hgood
    cases ha
    have hz' : isPlain z = true := isPlain_iff.2 ⟨hgood z rfl, hslash⟩
    simp only [(hnext.char?_eq_iff hz').2 hz]
    exact ⟨_, rfl, trivial, hnext.next hz hz'⟩

/-- What a brace makes of the boundary before it is the same. -/
theorem specialBoundary (h : c.Spelled text d) (hc : c.char? = some x) (hx : isPlain x = true) :
    Gives (Option.Rel (Beside Eq text)) (specialBoundary start c) (specialBoundary start' d) := by
  have hnext := h.next hc hx
  simp only [Syntax.specialBoundary]
  split
  · exact .error
  · next z hz =>
    simp only [hnext.char?, hz, Option.map_some,
      apply_shown fun x hx => isPlain_of_isBoundaryLetter hx]
    split
    · obtain ⟨hword, hrun⟩ := hnext.run (p := isBoundaryLetter) (by decide)
        fun x _ hx => (isPlain_iff.1 (isPlain_of_isBoundaryLetter hx)).1
      simp only [hword, hrun.char?_eq_iff (x := '\x7d') (by decide)]
      split
      · next hend =>
        split
        · exact .ok (.some ⟨rfl, hrun.bump hend (by decide)⟩)
        · exact .error
      · exact .error
    · exact .ok .none

/-- Behind a backslash stands what it escapes. -/
theorem bump_slash {cs : List Char} (h : c.Spelled text d) (hrest : c.rest = '\\' :: y :: cs)
    (hy : isPlain y = true) : c.bump.Spelled text d.bump ∧ c.bump.char? = some y := by
  obtain ⟨hplace, hspelled, hverbose, hgroups, hnames, hblanks⟩ := h
  rcases c with ⟨_, rest, _, _, _⟩
  rcases d with ⟨_, rest', _, _, _⟩
  obtain rfl : rest = _ := hrest
  rw [spellInBytes_slash (isPlain_iff.1 hy).1, ← spellInBytes_plain hy] at hspelled
  obtain rfl : rest' = _ := hspelled
  exact ⟨⟨hplace.bump, rfl, hverbose, hgroups, hnames, hblanks⟩, rfl⟩

/-- A backslash that is escaped is read as one. -/
theorem escape_slash {cs : List Char} (h : c.Spelled text d) (hrest : c.rest = '\\' :: '\\' :: cs) :
    Gives (Beside Atom.Alike text) (Syntax.escape c) (Syntax.escape d) := by
  obtain ⟨hplace, hspelled, hverbose, hgroups, hnames, hblanks⟩ := h
  rcases c with ⟨offset, rest, _, _, _⟩
  rcases d with ⟨offset', rest', _, _, _⟩
  obtain rfl : rest = _ := hrest
  rw [spellInBytes_slash (by decide)] at hspelled
  obtain rfl : rest' = _ := hspelled
  have hplace' := hplace.bump.bump
  exact .ok ⟨.literal _ _ .escaped '\\', hplace', rfl, hverbose, hgroups, hnames, hblanks⟩

/-- **The same is escaped** in the spelling of a pattern. -/
theorem escape (h : c.Spelled text d) (hc : c.char? = some '\\') :
    GivesIf (fun a => a.1.Spellable) (Beside Atom.Alike text) (escape c) (escape d) := by
  obtain ⟨_ | ⟨y, cs⟩, hrest⟩ := List.head?_eq_some_iff.1 hc
  · have hend : c.bump.char? = none := by
      rcases c with ⟨_, rest, _, _, _⟩
      obtain rfl : rest = _ := hrest
      rfl
    simp only [Syntax.escape, hend]
    exact .error
  by_cases hascii : y.toNat < 128
  swap
  · rw [escape_wide hrest hascii]
    exact .error
  by_cases hslash : y = '\\'
  · subst hslash
    exact (h.escape_slash hrest).givesIf
  have hy : isPlain y = true := isPlain_iff.2 ⟨hascii, hslash⟩
  obtain ⟨hb, hchar⟩ := h.bump_slash hrest hy
  have hbehind := hb.bump hchar hy
  simp only [Syntax.escape, hchar, (hb.char?_eq_iff hy).2 hchar]
  split
  · exact .error
  split
  · refine Gives.givesIf ?_
    refine (hb.hexEscape hchar hy).bind ?_
    rintro ⟨⟨s, form, z⟩, c'⟩ ⟨⟨s', form', z'⟩, d'⟩ ⟨⟨hform, hz⟩, hcursor⟩
    obtain rfl : form' = form := hform
    obtain rfl : z' = z := hz
    exact .ok ⟨.literal _ _ _ _, hcursor⟩
  split
  · refine (hb.propertyEscape hchar hy).bind ?_ ?_
    · rintro ⟨q, c'⟩ _ ⟨⟩ hgood
      exact hgood
    · rintro ⟨q, c'⟩ ⟨q', d'⟩ ⟨-, hcursor⟩
      exact (Gives.ok ⟨.property _ _, hcursor⟩).givesIf
  refine Gives.givesIf ?_
  split
  · exact .ok ⟨.shorthand _ _ _ _, hbehind⟩
  split
  · exact .ok ⟨.literal _ _ _ _, hbehind⟩
  split
  · exact .ok ⟨.literal _ _ _ _, hbehind⟩
  split
  · exact .error
  · simp only [hbehind.char?_eq_iff (x := '\x7b') (by decide)]
    split
    · next hbrace =>
      refine (hbehind.specialBoundary hbrace (by decide)).bind ?_
      rintro _ _ (@⟨⟨kind, c'⟩, ⟨kind', d'⟩, hkind, hcursor⟩ | _)
      · obtain rfl : kind = kind' := hkind
        exact .ok ⟨.assertion _ _ _, hcursor⟩
      · exact .ok ⟨.assertion _ _ _, hbehind⟩
    · exact .ok ⟨.assertion _ _ _, hbehind⟩
  · exact .ok ⟨.assertion _ _ _, hbehind⟩

theorem atom (h : c.Spelled text d) (hc : c.char? = some x) (hx : x.toNat < 128) :
    GivesIf (fun a => a.1.Spellable) (Beside Atom.Alike text) (atom c x) (atom d x) := by
  unfold Syntax.atom
  split
  · exact h.escape hc
  · exact (Gives.ok ⟨.dot _ _, h.bump hc (by decide)⟩).givesIf
  · exact (Gives.ok ⟨.assertion _ _ _, h.bump hc (by decide)⟩).givesIf
  · exact (Gives.ok ⟨.assertion _ _ _, h.bump hc (by decide)⟩).givesIf
  · next hslash _ _ _ =>
    exact (Gives.ok ⟨.literal _ _ _ _, h.bump hc (isPlain_iff.2 ⟨hx, hslash⟩)⟩).givesIf

theorem classAtom (h : c.Spelled text d) (hc : c.char? = some x) (hx : x.toNat < 128) :
    GivesIf (fun a => a.1.Spellable) (Beside Atom.Alike text) (classAtom c x) (classAtom d x) := by
  unfold Syntax.classAtom
  split
  · next hslash =>
    obtain rfl := beq_iff_eq.1 hslash
    exact h.escape hc
  · next hslash =>
    have hplain : isPlain x = true := isPlain_iff.2 ⟨hx, fun h => hslash (beq_iff_eq.2 h)⟩
    exact (Gives.ok ⟨.literal _ _ _ _, h.bump hc hplain⟩).givesIf

end Cursor.Spelled

/-! ## Bytes of a character -/

/-- Behind blanks stands no blank, and no comment. -/
theorem passBlanks_head {offset : Nat} {inComment : Bool} {cs : List Char}
    (h : (passBlanks offset inComment cs).2.head? = some x) :
    isWhiteSpace x = false ∧ x ≠ '#' := by
  induction cs generalizing offset inComment with
  | nil => cases h
  | cons y cs ih =>
    simp only [passBlanks] at h
    split at h
    · exact ih h
    · split at h
      · exact ih h
      · next hblank =>
        split at h
        · exact ih h
        · next hsign =>
          obtain rfl := Option.some.inj h
          exact ⟨Bool.eq_false_iff.2 hblank, fun heq => hsign (beq_iff_eq.2 heq)⟩

/-- Blanks are passed over once. -/
theorem Cursor.skip_skip (c : Cursor) : c.skip.skip = c.skip := by
  rcases c with ⟨offset, rest, _ | _, groups, names⟩
  · rfl
  · generalize hd : (Cursor.mk offset rest true groups names).skip = d
    cases hx : d.char? with
    | none =>
      rcases d with ⟨offset', _ | ⟨y, ys⟩, verbose, _, _⟩
      · cases verbose <;> rfl
      · cases hx
    | some x =>
      subst hd
      obtain ⟨hblank, hsign⟩ := passBlanks_head hx
      exact skip_of_solid hx hblank hsign

/-- A place in a pattern and one in its spelling that is some bytes short of it. -/
structure Cursor.Pending (text : List Char) (bs : List UInt8) (c d : Cursor) : Prop where
  behind : c.Spelled text { d with rest := spellInBytes c.rest }
  rest : d.rest = bs.flatMap byteEscape ++ spellInBytes c.rest

namespace Cursor.Pending

variable {b : UInt8} {bs : List UInt8}

theorem spelled (h : c.Pending text [] d) : c.Spelled text d :=
  { h.behind with rest := h.rest }

theorem of_spelled (h : c.Spelled text d) : c.Pending text [] d :=
  ⟨{ h with rest := rfl }, h.rest⟩

/-- A character outside ASCII is spelled by its bytes. -/
theorem of_wide (h : c.Spelled text d) (hc : c.char? = some x) (hx : ¬ x.toNat < 128) :
    c.bump.Pending text (encodeChar x) d := by
  obtain ⟨hplace, hrest, hverbose, hgroups, hnames, hblanks⟩ := h
  obtain ⟨xs, hxs⟩ := List.head?_eq_some_iff.1 hc
  rw [hxs, spellInBytes_wide hx] at hrest
  rcases c with ⟨_, rest, _, _, _⟩
  obtain rfl : rest = _ := hxs
  exact ⟨⟨hplace.bump, rfl, hverbose, hgroups, hnames, hblanks⟩, hrest⟩

theorem char? (h : c.Pending text (b :: bs) d) : d.char? = some '\\' := by
  rw [Cursor.char?, h.rest]
  rfl

theorem skip (h : c.Pending text (b :: bs) d) : d.skip = d :=
  skip_of_solid h.char? rfl (by decide)

theorem skip_of_ne_nil (h : c.Pending text bs d) (hne : bs ≠ []) : d.skip = d := by
  obtain ⟨b, bs, rfl⟩ := List.exists_cons_of_ne_nil hne
  exact h.skip

/-- **The next byte** is read as a literal. -/
theorem escape (h : c.Pending text (b :: bs) d) :
    ∃ l e, escape d = .ok (.literal l, e.skip) ∧ (bytePiece b).Of l ∧ c.Pending text bs e ∧
      e.rest.length < d.rest.length := by
  obtain ⟨hbehind, hrest⟩ := h
  rcases d with ⟨offset, rest, verbose, groups, names⟩
  obtain rfl : rest = _ := hrest
  obtain ⟨l, offset', hread, hl⟩ := hexEscape_byteDigits b offset (offset + Text.width '\\') verbose
    groups names (bs.flatMap byteEscape ++ spellInBytes c.rest)
  refine ⟨l, ⟨offset', bs.flatMap byteEscape ++ spellInBytes c.rest, verbose, groups, names⟩, ?_, hl,
    ⟨{ hbehind with }, rfl⟩, ?_⟩
  · have hspell : (b :: bs).flatMap byteEscape ++ spellInBytes c.rest =
        '\\' :: 'x' :: (Text.byteDigits b ++ (bs.flatMap byteEscape ++ spellInBytes c.rest)) := by
      rw [List.flatMap_cons, List.append_assoc]
      rfl
    rw [hspell]
    change (Syntax.hexEscape offset ⟨offset + Text.width '\\',
      'x' :: (Text.byteDigits b ++ (bs.flatMap byteEscape ++ spellInBytes c.rest)), verbose, groups,
      names⟩ >>= fun r => Except.ok (Atom.literal r.1, r.2)) = _
    rw [hread]
    rfl
  · simp only [List.flatMap_cons, List.length_append, byteEscape, Text.byteDigits, List.length_cons]
    omega

end Cursor.Pending

end Multiscan.Syntax
