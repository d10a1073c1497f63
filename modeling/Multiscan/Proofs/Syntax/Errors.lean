import Mathlib.Data.Option.Basic
import Multiscan.Proofs.Text.Characters
import Multiscan.Syntax.Nesting
/-!
# Syntax — where errors point

An error points to a place in the text that is read, between two characters of it,
and what it says shows there: an unclosed group points to a parenthesis, an unknown
flag to a character that names none (`Fault.fits`). One reader after the other keeps
track of where it stands in the text (`Cursor.In`), so its errors do point there
(`Reads`). This is shown for what is read in one go: single items (`Cursor.In.escape`),
what opens a group (`Cursor.In.opening`) and counts (`Cursor.In.counts`).
-/

namespace Multiscan.Syntax

open Text (Between byteLength byteLength_append width)

/-! ## What shows at a place -/

/-- Whether a fault can show between two characters of a text, `prev` and `here`, of
which either may be missing at an end of the text. -/
def Fault.fits (fault : Fault) (prev here : Option Char) : Bool :=
  match fault with
  | .classEscapeInvalid | .classRangeLiteral | .escapeUnrecognized
  | .specialWordOrRepetitionUnexpectedEnd | .unicodeClassInvalid | .unicodePropertyNotFound
  | .unicodePropertyValueNotFound | .unsupportedBackreference => here == some '\\'
  | .classRangeInvalid => here.isSome
  | .classUnclosed => here == some '['
  | .decimalInvalid => here.any Char.isDigit
  | .escapeHexEmpty | .repetitionCountInvalid | .repetitionCountUnclosed
  | .specialWordBoundaryUnclosed => here == some '\x7b'
  -- The digits stand behind a brace, maybe with blanks between.
  | .escapeHexInvalid => prev == some '\x7b' || here.any Text.isHexDigit
  | .escapeHexInvalidDigit => here.any (!Text.isHexDigit ·)
  | .escapeUnexpectedEnd => here.isNone || here == some '\\' || here == some '\x7b'
  | .flagDanglingNegation | .flagRepeatedNegation => here == some '-'
  | .flagDuplicate => here.any fun x => (inlineFlag? x).isSome
  | .flagUnrecognized => here.any fun x => (flagItemKind? x).isNone
  | .flagUnexpectedEnd | .groupNameUnexpectedEnd => here.isNone
  | .groupNameDuplicate => here.any isNameStart
  | .groupNameEmpty => here == some '>'
  | .groupNameInvalid => here.any (· != '>')
  | .groupUnclosed | .unsupportedLookAround => here == some '('
  | .groupUnopened => here == some ')'
  | .nestLimitExceeded _ => true
  | .repetitionCountDecimalEmpty => !here.any Char.isDigit
  | .repetitionMissing => here.any ['?', '*', '+', '\x7b'].contains
  | .specialWordBoundaryUnrecognized => here.any isBoundaryLetter
  -- What is no character of ASCII is written as itself or by its number.
  | .unicodeNotAllowed => here.any fun x => x == '\\' || decide (128 ≤ x.toNat)

/-- An error points between two characters of a text, where its fault shows. -/
def SyntaxError.Points (text : List Char) (e : SyntaxError) : Prop :=
  ∃ before after, text = before ++ after ∧ byteLength before = e.offset ∧
    e.fault.fits before.getLast? after.head? = true

/-- A character of a text that starts at an offset. -/
def Stands (text : List Char) (offset : Nat) (x : Char) : Prop :=
  ∃ before after, text = before ++ x :: after ∧ byteLength before = offset

/-- What is left of a text from an offset on. -/
def Left (text : List Char) (offset : Nat) (rest : List Char) : Prop :=
  ∃ before, text = before ++ rest ∧ byteLength before = offset

variable {text rest : List Char} {offset : Nat} {x : Char} {fault : Fault}

theorem Left.between (h : Left text offset rest) : Between text offset := by
  obtain ⟨before, htext, hoffset⟩ := h
  exact ⟨before, rest, htext, hoffset⟩

theorem Left.points (h : Left text offset rest)
    (hfits : ∀ prev, fault.fits prev rest.head? = true) :
    SyntaxError.Points text ⟨fault, offset⟩ := by
  obtain ⟨before, htext, hoffset⟩ := h
  exact ⟨before, rest, htext, hoffset, hfits _⟩

theorem Left.stands (h : Left text offset rest) (hx : rest.head? = some x) :
    Stands text offset x := by
  obtain ⟨before, htext, hoffset⟩ := h
  obtain ⟨after, rfl⟩ := List.head?_eq_some_iff.1 hx
  exact ⟨before, after, htext, hoffset⟩

/-- What is left behind what is passed over. -/
theorem Left.behind (passed : List Char) (h : Left text offset (passed ++ rest)) :
    Left text (offset + byteLength passed) rest := by
  obtain ⟨before, htext, hoffset⟩ := h
  refine ⟨before ++ passed, ?_, ?_⟩
  · rw [htext, List.append_assoc]
  · rw [byteLength_append, hoffset]

theorem Stands.between (h : Stands text offset x) : Between text offset := by
  obtain ⟨before, after, htext, hoffset⟩ := h
  exact ⟨before, x :: after, htext, hoffset⟩

theorem Stands.points (h : Stands text offset x) (hfits : ∀ prev, fault.fits prev (some x) = true) :
    SyntaxError.Points text ⟨fault, offset⟩ := by
  obtain ⟨before, after, htext, hoffset⟩ := h
  exact ⟨before, x :: after, htext, hoffset, hfits _⟩

/-! ## Cursors in a text -/

/-- A cursor that stands in a text. -/
def Cursor.In (text : List Char) (c : Cursor) : Prop := Left text c.offset c.rest

theorem exists_passBlanks (offset : Nat) (inComment : Bool) (cs : List Char) :
    ∃ passed, cs = passed ++ (passBlanks offset inComment cs).2 ∧
      (passBlanks offset inComment cs).1 = offset + byteLength passed := by
  induction cs generalizing offset inComment with
  | nil => exact ⟨[], rfl, rfl⟩
  | cons c cs ih =>
    have hpass (inComment : Bool) : ∃ passed,
        c :: cs = passed ++ (passBlanks (offset + width c) inComment cs).2 ∧
          (passBlanks (offset + width c) inComment cs).1 = offset + byteLength passed := by
      obtain ⟨passed, hcs, hoffset⟩ := ih (offset + width c) inComment
      refine ⟨c :: passed, congrArg (c :: ·) hcs, ?_⟩
      rw [hoffset, Text.byteLength_cons, Nat.add_assoc]
    simp only [passBlanks]
    split
    · exact hpass _
    · split
      · exact hpass _
      · split
        · exact hpass _
        · exact ⟨[], rfl, rfl⟩

theorem exists_takeRun (p : Char → Bool) (skipping inside inComment : Bool) (offset : Nat)
    (cs : List Char) :
    ∃ passed, cs = passed ++ (takeRun p skipping inside inComment offset cs).2.2 ∧
      (takeRun p skipping inside inComment offset cs).2.1 = offset + byteLength passed := by
  induction cs generalizing inside inComment offset with
  | nil => exact ⟨[], rfl, rfl⟩
  | cons c cs ih =>
    have hpass (inside inComment : Bool) : ∃ passed,
        c :: cs = passed ++ (takeRun p skipping inside inComment (offset + width c) cs).2.2 ∧
          (takeRun p skipping inside inComment (offset + width c) cs).2.1 =
            offset + byteLength passed := by
      obtain ⟨passed, hcs, hoffset⟩ := ih inside inComment (offset + width c)
      refine ⟨c :: passed, congrArg (c :: ·) hcs, ?_⟩
      rw [hoffset, Text.byteLength_cons, Nat.add_assoc]
    simp only [takeRun]
    split
    · exact hpass _ _
    · split
      · exact hpass _ _
      · split
        · exact hpass _ _
        · split
          · exact hpass _ _
          · exact ⟨[], rfl, rfl⟩

/-- Behind a run stands a character that is not of it, if any. -/
theorem takeRun_stop (p : Char → Bool) (skipping inside inComment : Bool) (offset : Nat)
    (cs : List Char) :
    (takeRun p skipping inside inComment offset cs).2.2.head?.any p = false := by
  induction cs generalizing inside inComment offset with
  | nil => rfl
  | cons c cs ih =>
    simp only [takeRun]
    split
    · exact ih _ _ _
    · split
      · exact ih _ _ _
      · split
        · exact ih _ _ _
        · split
          · exact ih _ _ _
          · next hp => exact Bool.eq_false_iff.2 hp

/-- A run begins where it is looked for, or is empty. -/
theorem isEmpty_takeRun (p : Char → Bool) (skipping : Bool) (offset : Nat) (cs : List Char) :
    (takeRun p skipping false false offset cs).1.isEmpty = !cs.head?.any p := by
  cases cs with
  | nil => rfl
  | cons c cs =>
    simp only [takeRun, Bool.and_false, Bool.false_and, Bool.false_eq_true, if_false]
    split
    · next hp =>
      rw [List.head?_cons, Option.any_some, hp]
      rfl
    · next hp =>
      rw [List.head?_cons, Option.any_some, Bool.eq_false_iff.2 hp]
      rfl

namespace Cursor.In

variable {c d : Cursor}

theorem start (text : List Char) : (Cursor.start text).In text := ⟨[], rfl, rfl⟩

theorem between (h : c.In text) : Between text c.offset := Left.between h

theorem points (h : c.In text) (hfits : ∀ prev, fault.fits prev c.char? = true) :
    SyntaxError.Points text ⟨fault, c.offset⟩ := Left.points h hfits

/-- An error at the end of the text. -/
theorem points_end (h : c.In text) (hend : c.char? = none)
    (hfits : ∀ prev, fault.fits prev none = true) : SyntaxError.Points text ⟨fault, c.offset⟩ := by
  refine h.points fun prev => ?_
  rw [hend]
  exact hfits prev

theorem stands (h : c.In text) (hx : c.char? = some x) : Stands text c.offset x :=
  Left.stands h hx

theorem bump (h : c.In text) : c.bump.In text := by
  obtain ⟨offset, _ | ⟨x, xs⟩, verbose, groups, names⟩ := c
  · exact h
  · exact Left.behind [x] h

theorem skip (h : c.In text) : c.skip.In text := by
  unfold Cursor.skip
  split
  · obtain ⟨passed, hrest, hoffset⟩ := exists_passBlanks c.offset false c.rest
    unfold Cursor.In at h ⊢
    rw [hrest] at h
    dsimp only
    rw [hoffset]
    exact h.behind passed
  · exact h

theorem next (h : c.In text) : c.next.In text := h.bump.skip

theorem bumps {α : Type} (l : List α) (h : c.In text) :
    (l.foldl (fun c _ => c.bump) c).In text := by
  induction l generalizing c with
  | nil => exact h
  | cons _ l ih => exact ih h.bump

theorem after? {sign : String} (h : c.In text) (hd : c.after? sign = some d) : d.In text := by
  unfold Cursor.after? at hd
  split at hd
  · obtain rfl := Option.some.inj hd
    exact h.bumps _
  · cases hd

theorem run (h : c.In text) (p : Char → Bool) : (c.run p).2.In text := by
  obtain ⟨passed, hrest, hoffset⟩ := exists_takeRun p c.verbose false false c.offset c.rest
  unfold Cursor.In at h
  rw [hrest] at h
  change Left text (takeRun p c.verbose false false c.offset c.rest).2.1 _
  rw [hoffset]
  exact h.behind passed

/-- Only the offset and what is left matter. -/
theorem congr (h : c.In text) (hoffset : d.offset = c.offset) (hrest : d.rest = c.rest) :
    d.In text := by
  unfold Cursor.In
  rw [hoffset, hrest]
  exact h

end Cursor.In

/-! ## Readers whose errors point to the text -/

section

variable {α β : Type} {P P' : α → Prop} {Q : β → Prop} {r : Except SyntaxError α}

/-- What is read has a property, or an error points to the text. -/
def Reads (text : List Char) (P : α → Prop) : Except SyntaxError α → Prop
  | .ok a => P a
  | .error e => e.Points text

namespace Reads

theorem bind {f : α → Except SyntaxError β} (h : Reads text P r)
    (hnext : ∀ a, P a → Reads text Q (f a)) : Reads text Q (r >>= f) := by
  rcases r with e | a
  · exact h
  · exact hnext a h

theorem mono (h : Reads text P r) (hP : ∀ a, P a → P' a) : Reads text P' r := by
  rcases r with e | a
  · exact h
  · exact hP a h

theorem throw {e : SyntaxError} (h : e.Points text) :
    Reads text P (throw e : Except SyntaxError α) := h

end Reads

end

/-- What a reader gives that moves on: something with a property, and a cursor that
stands in the text. -/
def Behind {α : Type} (text : List Char) (P : α → Prop) (a : α × Cursor) : Prop :=
  P a.1 ∧ a.2.In text

/-! ## Single items -/

/-- A literal stands where it is written: the character itself, or a backslash. -/
def Literal.Placed (text : List Char) (l : Literal) : Prop :=
  Stands text l.span.start (if l.form = .verbatim then l.char else '\\')

/-- An atom stands at a backslash, unless it is a character for itself. -/
def Atom.Placed (text : List Char) : Atom → Prop
  | .literal l => l.Placed text
  | a => Stands text a.span.start '\\'

namespace Cursor.In

variable {c : Cursor} {start : Nat}

/-- Behind a run the cursor is at a character that is not of it, if any. -/
theorem char?_run (c : Cursor) (p : Char → Bool) : (c.run p).2.char?.any p = false :=
  takeRun_stop p c.verbose false false c.offset c.rest

/-- A run is empty where no character of it stands. -/
theorem isEmpty_run (c : Cursor) (p : Char → Bool) : (c.run p).1.isEmpty = !c.char?.any p :=
  isEmpty_takeRun p c.verbose c.offset c.rest

/-- Behind the character at the cursor stands the next one. -/
theorem points_bump (h : c.In text) (hx : c.char? = some x)
    (hfits : ∀ here, fault.fits (some x) here = true) :
    SyntaxError.Points text ⟨fault, c.bump.offset⟩ := by
  obtain ⟨before, after, htext, hoffset⟩ := h.stands hx
  obtain ⟨offset, _ | ⟨y, ys⟩, verbose, groups, names⟩ := c
  · cases hx
  · obtain rfl := Option.some.inj hx
    refine ⟨before ++ [y], after, ?_, ?_, ?_⟩
    · rw [htext, List.append_assoc, List.singleton_append]
    · rw [byteLength_append, hoffset]
      rfl
    · rw [List.getLast?_concat]
      exact hfits _

/-- Digits, of which the first stands where they are looked for, if there are any. -/
theorem hexDigits (h : c.In text) (count : Nat) :
    Reads text (Behind text fun _ => count ≠ 0 → c.char?.any Text.isHexDigit = true)
      (hexDigits c count) := by
  induction count generalizing c with
  | zero => exact ⟨fun hne => absurd rfl hne, h⟩
  | succ count ih =>
    unfold Syntax.hexDigits
    split
    · next hend => exact h.points_end hend fun _ => rfl
    · next x hx =>
      split
      · next hdigit =>
        refine (ih h.next).bind fun _ ha => ⟨fun _ => ?_, ha.2⟩
        rwa [hx]
      · next hdigit =>
        refine Reads.throw ((h.stands hx).points fun _ => ?_)
        simpa [Fault.fits] using hdigit

/-- **An escape by number** stands where its backslash does. -/
theorem hexEscape (h : c.In text) (hstart : Stands text start '\\') :
    Reads text (Behind text (Literal.Placed text)) (hexEscape start c) := by
  have hplaced (stop : Nat) (form : LiteralForm) (x : Char) (hform : form ≠ .verbatim) :
      Literal.Placed text ⟨⟨start, stop⟩, form, x⟩ := by
    rw [Literal.Placed, if_neg hform]
    exact hstart
  have hnext := h.next
  simp only [Syntax.hexEscape]
  split
  · next hend => exact hnext.points_end hend fun _ => rfl
  · next hbrace =>
    have hstands := hnext.stands hbrace
    have hrun := hnext.next.run Text.isHexDigit
    split
    · exact hstands.points fun _ => rfl
    · split
      · exact hstands.points fun _ => rfl
      · split
        · exact hnext.points_bump hbrace fun _ => rfl
        · exact ⟨hplaced _ _ _ (by decide), hrun.next⟩
    · next x _ hx =>
      have hdigit := char?_run c.next.next Text.isHexDigit
      rw [hx] at hdigit
      refine (hrun.stands hx).points fun _ => ?_
      simpa [Fault.fits] using hdigit
  · -- Two, four or eight digits are asked for, so the first stands where they start.
    split
    all_goals
      refine (hnext.hexDigits _).bind ?_
      rintro ⟨digits, c'⟩ ⟨hfirst, hend⟩
      dsimp only
      split
      · refine hnext.points fun prev => ?_
        rw [Fault.fits, hfirst (by decide), Bool.or_true]
      · exact ⟨hplaced _ _ _ (by decide), hend⟩

/-- **A property class** stands where its backslash does. -/
theorem propertyEscape (h : c.In text) :
    Reads text (Behind text fun p => p.span.start = start) (propertyEscape start c) := by
  have hnext := h.next
  simp only [Syntax.propertyEscape]
  split
  · next hend => exact hnext.points_end hend fun _ => rfl
  · have hrun := hnext.next.run (· != '\x7d')
    split
    · next hend => exact hrun.points_end hend fun _ => rfl
    · exact ⟨rfl, hrun.bump⟩
  · next hx => exact (hnext.stands hx).points fun _ => rfl
  · exact ⟨rfl, hnext.next⟩

/-- What a brace makes of the boundary before it. -/
theorem specialBoundary (h : c.In text) (hstart : Stands text start '\\')
    (hbrace : c.char? = some '\x7b') :
    Reads text (fun r => ∀ a ∈ r, a.2.In text) (specialBoundary start c) := by
  have hnext := h.next
  simp only [Syntax.specialBoundary]
  split
  · exact hstart.points fun _ => rfl
  · next x hx =>
    split
    · next hletter =>
      have hrun := hnext.run isBoundaryLetter
      split
      · split
        · rintro _ ⟨⟩
          exact hrun.bump
        · exact (hnext.stands hx).points fun _ => hletter
      · exact (h.stands hbrace).points fun _ => rfl
    · rintro _ ⟨⟩

/-- **What is escaped** stands where its backslash does, and so does what is wrong
with it. -/
theorem escape (h : c.In text) (hx : c.char? = some '\\') :
    Reads text (Behind text (Atom.Placed text)) (escape c) := by
  have hstart := h.stands hx
  have hbehind := h.bump.bump
  have hliteral (stop : Nat) (form : LiteralForm) (x : Char) (hform : form ≠ .verbatim) :
      Atom.Placed text (.literal ⟨⟨c.offset, stop⟩, form, x⟩) := by
    rw [Atom.Placed, Literal.Placed, if_neg hform]
    exact hstart
  simp only [Syntax.escape]
  split
  · exact hstart.points fun _ => rfl
  split
  · exact hstart.points fun _ => rfl
  split
  · exact (h.bump.hexEscape hstart).bind fun _ hl => hl
  split
  · refine h.bump.propertyEscape.bind ?_
    rintro ⟨p, c'⟩ ⟨hp, hcursor⟩
    refine ⟨?_, hcursor⟩
    change Stands text p.span.start _
    rw [hp]
    exact hstart
  split
  · exact ⟨hstart, hbehind⟩
  split
  · exact ⟨hliteral _ _ _ (by decide), hbehind⟩
  split
  · exact ⟨hliteral _ _ _ (by decide), hbehind⟩
  split
  · exact hstart.points fun _ => rfl
  · split
    · next hbrace =>
      refine (hbehind.specialBoundary hstart hbrace).bind ?_
      rintro (_ | ⟨kind, c'⟩) hboundary
      · exact ⟨hstart, hbehind⟩
      · exact ⟨hstart, hboundary _ rfl⟩
    · exact ⟨hstart, hbehind⟩
  · exact ⟨hstart, hbehind⟩

theorem classAtom (h : c.In text) (hx : c.char? = some x) :
    Reads text (Behind text (Atom.Placed text)) (classAtom c x) := by
  unfold Syntax.classAtom
  split
  · next heq =>
    rw [beq_iff_eq.1 heq] at hx
    exact h.escape hx
  · exact ⟨h.stands hx, h.bump⟩

end Cursor.In

/-! ## Groups and counts -/

/-- A name is empty where no character stands that may start one. -/
theorem isEmpty_nameChars (cs : List Char) :
    (nameChars cs).isEmpty = !cs.head?.any isNameStart := by
  cases cs with
  | nil => rfl
  | cons x xs =>
    rw [List.head?_cons, Option.any_some, nameChars]
    cases isNameStart x <;> rfl

/-- The first character of a text that stands at the cursor. -/
theorem Cursor.char?_of_after? {c d : Cursor} {sign : String} (h : c.after? sign = some d)
    (hx : sign.toList.head? = some x) : c.char? = some x := by
  unfold Cursor.after? at h
  split at h
  · next hprefix =>
    obtain ⟨after, hrest⟩ := List.isPrefixOf_iff_prefix.1 hprefix
    rw [Cursor.char?, ← hrest, List.head?_append, hx]
    rfl
  · cases h

namespace Cursor.In

variable {c : Cursor}

theorem groupName (h : c.In text) :
    Reads text (fun r => r.2.2.In text) (groupName c) := by
  have hbehind := h.bumps (nameChars c.rest)
  simp only [Syntax.groupName]
  split
  · next hend => exact hbehind.points_end hend fun _ => rfl
  · next hclose =>
    -- Without characters of a name the bracket stands where the name should; otherwise
    -- the first of them does.
    split
    · next hempty =>
      rw [List.isEmpty_iff.1 hempty] at hclose
      exact (h.stands hclose).points fun _ => rfl
    · next hname =>
      rw [isEmpty_nameChars, Bool.not_eq_true', Bool.not_eq_false] at hname
      split
      · exact h.points fun _ => hname
      · exact hbehind.bump.congr rfl rfl
  · next x hclose hx =>
    refine (hbehind.stands hx).points fun _ => ?_
    rw [Fault.fits, Option.any_some, bne_iff_ne]
    exact hclose

theorem nextGroup (h : c.In text) : c.nextGroup.2.In text := h.congr rfl rfl

end Cursor.In

/-- A flag list, whose signs stand where they were read. -/
theorem reads_flagList {items : List FlagItem} {offset : Nat} {cs : List Char}
    (hitems : ∀ item ∈ items, item.kind = .negation → Stands text item.span.start '-')
    (h : Left text offset cs) :
    Reads text (fun r => Left text r.2.1 r.2.2) (flagList items offset cs) := by
  induction cs generalizing items offset with
  | nil => exact h.points fun _ => rfl
  | cons x cs ih =>
    have hx : Stands text offset x := h.stands rfl
    unfold flagList
    split
    · split
      · next span hlast =>
        have hsign := hitems _ (List.mem_of_getLast? hlast) rfl
        exact hsign.points fun _ => rfl
      · exact h
    · split
      · next hkind =>
        refine hx.points fun _ => ?_
        rw [Fault.fits, Option.any_some, hkind]
        rfl
      · next kind hkind =>
        have hsign : kind = .negation → x = '-' := by
          rintro rfl
          unfold flagItemKind? at hkind
          split at hkind
          · rfl
          · obtain ⟨f, -, hf⟩ := Option.map_eq_some_iff.1 hkind
            cases hf
        split
        · split
          · next hnegation =>
            rw [hsign hnegation] at hx
            exact hx.points fun _ => rfl
          · next hflag =>
            refine hx.points fun _ => ?_
            unfold flagItemKind? at hkind
            split at hkind
            · exact absurd (Option.some.inj hkind).symm hflag
            · obtain ⟨f, hf, -⟩ := Option.map_eq_some_iff.1 hkind
              rw [Fault.fits, Option.any_some, hf]
              rfl
        · refine ih ?_ (Left.behind [x] h)
          refine List.forall_mem_append.2 ⟨hitems, List.forall_mem_singleton.2 ?_⟩
          intro hnegation
          rw [hsign hnegation] at hx
          exact hx

/-- What a parenthesis opens stands where it does. -/
def Opening.Placed (text : List Char) : Opening → Prop
  | .flags s _ _ => Between text s.start
  | .group start _ => Stands text start '('

namespace Cursor.In

variable {c : Cursor}

/-- **What a parenthesis opens** stands where it does, and so does what is wrong
with that. -/
theorem opening (h : c.In text) (hx : c.char? = some '(') :
    Reads text (Behind text (Opening.Placed text)) (opening c) := by
  have hstart := h.stands hx
  have hnext := h.next
  simp only [Syntax.opening]
  split
  · exact hstart.points fun _ => rfl
  split
  · next d hname =>
    have hd : d.In text := by
      rcases (Option.orElse_eq_some _ _ _).1 hname with hname | ⟨-, hname⟩
      · exact hnext.after? hname
      · exact hnext.after? hname
    exact hd.nextGroup.groupName.bind fun _ hbehind => ⟨hstart, hbehind⟩
  · split
    · exact ⟨hstart, hnext.nextGroup⟩
    · next f hquestion =>
      have hf := hnext.after? hquestion
      split
      · exact hstart.points fun _ => rfl
      refine (reads_flagList (by simp) hf).bind ?_
      rintro ⟨items, offset, rest⟩ hend
      dsimp only
      split
      · split
        · have hx := Cursor.char?_of_after? hquestion rfl
          exact (hnext.stands hx).points fun _ => rfl
        · exact ⟨hstart.between, Cursor.In.bump hend⟩
      · exact ⟨hstart, Cursor.In.bump hend⟩

/-- A number, or what stands where its digits should. -/
theorem decimal (h : c.In text) :
    Reads text (fun _ => True) (decimal c).1 ∧ (decimal c).2.In text := by
  have hblanks := h.bumps (c.rest.takeWhile Unicode.isWhiteSpace)
  have hdigits := hblanks.run Char.isDigit
  have hend := hdigits.run Unicode.isWhiteSpace
  simp only [Syntax.decimal, isEmpty_run]
  split
  · next hempty => exact ⟨hblanks.points fun _ => hempty, hend⟩
  · next hfirst =>
    rw [Bool.not_eq_true', Bool.not_eq_false] at hfirst
    split
    · exact ⟨trivial, hend⟩
    · exact ⟨hblanks.points fun _ => hfirst, hend⟩

/-- **The counts of a repetition**, or what is wrong with them at their brace or where
a number should stand. -/
theorem counts (h : c.In text) (hx : c.char? = some '\x7b') :
    Reads text (Behind text fun _ => True) (counts c) := by
  have hunclosed : SyntaxError.Points text ⟨.repetitionCountUnclosed, c.offset⟩ :=
    (h.stands hx).points fun _ => rfl
  obtain ⟨hfirst, hbehind⟩ := h.next.decimal
  obtain ⟨hlast, hend⟩ := hbehind.next.decimal
  simp only [Syntax.counts, pure_bind]
  split
  · exact hunclosed
  generalize Syntax.decimal c.next = first at hfirst hbehind hlast hend ⊢
  generalize Syntax.decimal first.2.next = last at hlast hend ⊢
  -- Whichever counts they are, the brace behind them closes them.
  have hclose {d : Cursor} {closed : Bool} (kind : RepetitionKind) (hd : d.In text) :
      Reads text (Behind text fun _ => True)
        (if closed then pure (kind, d) else throw ⟨.repetitionCountUnclosed, c.offset⟩) := by
    split
    · exact ⟨trivial, hd⟩
    · exact hunclosed
  split
  · exact hunclosed
  · split
    · exact hunclosed
    · refine hfirst.bind fun least _ => ?_
      exact hclose (.atLeast least) hbehind.next
    · refine hfirst.bind fun least _ => ?_
      refine hlast.bind fun most _ => ?_
      exact hclose (.bounded least most) hend
  · refine hfirst.bind fun count _ => ?_
    exact hclose (.exactly count) hbehind

end Cursor.In

end Multiscan.Syntax
