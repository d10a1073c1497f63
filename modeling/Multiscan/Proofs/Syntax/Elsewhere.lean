import Multiscan.Proofs.Syntax.Places
import Multiscan.Proofs.Syntax.Reader
/-!
# Syntax — reading the same elsewhere

What is read at a place in a pattern depends on what stands there, not on how
far from the start that is. Two cursors with the same ahead of them (`Cursor.Along`)
read the same items, but for the places in them, and have the same ahead of them
again behind. This is shown for one reader after the other, up to single items
(`Cursor.Along.atom`), groups (`Cursor.Along.opening`) and counts
(`Cursor.Along.counts`), and together with a bound on what is left, since the
number of steps that a pattern takes is bounded by its length.
-/

namespace Multiscan.Syntax

/-! ## Two readers -/

section
variable {α α' β β' : Type} {R : α → α' → Prop} {S : β → β' → Prop}
variable {x : Except SyntaxError α} {y : Except SyntaxError α'}

/-- Whatever `x` gives, `y` gives something that is related to it. -/
def Gives (R : α → α' → Prop) (x : Except SyntaxError α) (y : Except SyntaxError α') : Prop :=
  ∀ a, x = .ok a → ∃ b, y = .ok b ∧ R a b

namespace Gives

theorem ok {a : α} {b : α'} (h : R a b) : Gives R (.ok a) (.ok b) := by
  rintro _ ⟨⟩
  exact ⟨b, rfl, h⟩

/-- Nothing is asked of the second where the first fails. -/
theorem error {e : SyntaxError} : Gives R (.error e) y := by
  rintro _ ⟨⟩

theorem throw {e : SyntaxError} : Gives R (throw e) y := error

/-- One step after the other. -/
theorem bind {f : α → Except SyntaxError β} {g : α' → Except SyntaxError β'} (h : Gives R x y)
    (hnext : ∀ a b, R a b → Gives S (f a) (g b)) : Gives S (x >>= f) (y >>= g) := by
  intro r hr
  obtain ⟨a, ha, hr⟩ := bind_eq_ok.1 hr
  obtain ⟨b, hb, hab⟩ := h a ha
  obtain ⟨s, hs, hrel⟩ := hnext a b hab r hr
  exact ⟨s, bind_eq_ok.2 ⟨b, hb, hs⟩, hrel⟩

end Gives

end

/-! ## Places with the same ahead of them -/

/-- What is left behind blanks does not depend on where they stand. -/
theorem passBlanks_snd (offset offset' : Nat) (inComment : Bool) (cs : List Char) :
    (passBlanks offset' inComment cs).2 = (passBlanks offset inComment cs).2 := by
  induction cs generalizing offset offset' inComment with
  | nil => rfl
  | cons c cs ih =>
    simp only [passBlanks]
    split
    · exact ih _ _ _
    · split
      · exact ih _ _ _
      · split
        · exact ih _ _ _
        · rfl

/-- And it is no more than there was. -/
theorem length_passBlanks_le (offset : Nat) (inComment : Bool) (cs : List Char) :
    (passBlanks offset inComment cs).2.length ≤ cs.length := by
  induction cs generalizing offset inComment with
  | nil => exact Nat.le_refl _
  | cons c cs ih =>
    have hle (offset : Nat) (inComment : Bool) :
        (passBlanks offset inComment cs).2.length ≤ (c :: cs).length :=
      Nat.le_succ_of_le (ih offset inComment)
    simp only [passBlanks]
    split
    · exact hle _ _
    · split
      · exact hle _ _
      · split
        · exact hle _ _
        · exact Nat.le_refl _

/-- A run and what is left behind it are the same wherever it stands. -/
theorem takeRun_eq (p : Char → Bool) (skipping inside inComment : Bool) (offset offset' : Nat)
    (cs : List Char) :
    (takeRun p skipping inside inComment offset' cs).1 =
        (takeRun p skipping inside inComment offset cs).1 ∧
      (takeRun p skipping inside inComment offset' cs).2.2 =
        (takeRun p skipping inside inComment offset cs).2.2 := by
  induction cs generalizing inside inComment offset offset' with
  | nil => exact ⟨rfl, rfl⟩
  | cons c cs ih =>
    simp only [takeRun]
    split
    · exact ih _ _ _ _
    · split
      · exact ih _ _ _ _
      · split
        · exact ih _ _ _ _
        · split
          · obtain ⟨hrun, hrest⟩ := ih true false (offset + Text.width c) (offset' + Text.width c)
            exact ⟨congrArg (c :: ·) hrun, hrest⟩
          · exact ⟨rfl, rfl⟩

/-- And no more is left than there was. -/
theorem length_takeRun_le (p : Char → Bool) (skipping inside inComment : Bool) (offset : Nat)
    (cs : List Char) :
    (takeRun p skipping inside inComment offset cs).2.2.length ≤ cs.length := by
  induction cs generalizing inside inComment offset with
  | nil => exact Nat.le_refl _
  | cons c cs ih =>
    have hle (inside inComment : Bool) (offset : Nat) :
        (takeRun p skipping inside inComment offset cs).2.2.length ≤ (c :: cs).length :=
      Nat.le_succ_of_le (ih inside inComment offset)
    simp only [takeRun]
    split
    · exact hle _ _ _
    · split
      · exact hle _ _ _
      · split
        · exact hle _ _ _
        · split
          · exact hle _ _ _
          · exact Nat.le_refl _

/-- Two cursors with the same ahead of them, at most `n` characters, and the
same known. -/
structure Cursor.Along (n : Nat) (c d : Cursor) : Prop where
  rest : d.rest = c.rest
  verbose : d.verbose = c.verbose
  groups : d.groups = c.groups
  names : d.names = c.names
  length : c.rest.length ≤ n

namespace Cursor.Along

variable {n : Nat} {c d : Cursor}

/-- Only the offset is another. -/
theorem eq_with (h : c.Along n d) : d = { c with offset := d.offset } := by
  rw [← h.rest, ← h.verbose, ← h.groups, ← h.names]

theorem mono {m : Nat} (h : c.Along n d) (hle : n ≤ m) : c.Along m d :=
  { h with length := Nat.le_trans h.length hle }

theorem char? (h : c.Along n d) : d.char? = c.char? := by
  rw [Cursor.char?, Cursor.char?, h.rest]

theorem peek? (h : c.Along n d) : d.peek? = c.peek? := by
  rw [Cursor.peek?, Cursor.peek?, h.rest]

theorem peekPastBlanks? (h : c.Along n d) : d.peekPastBlanks? = c.peekPastBlanks? := by
  rw [Cursor.peekPastBlanks?, Cursor.peekPastBlanks?, h.verbose, h.rest, h.peek?]

/-- Moving on takes a character. -/
theorem bump (h : c.Along (n + 1) d) : c.bump.Along n d.bump := by
  rw [h.eq_with]
  have hlength := h.length
  rcases c with ⟨_, _ | ⟨x, xs⟩, _, _, _⟩
  · exact ⟨rfl, rfl, rfl, rfl, Nat.zero_le n⟩
  · exact ⟨rfl, rfl, rfl, rfl, Nat.le_of_succ_le_succ hlength⟩

theorem bump_le (h : c.Along n d) : c.bump.Along n d.bump := (h.mono (Nat.le_succ n)).bump

theorem skip (h : c.Along n d) : c.skip.Along n d.skip := by
  rw [h.eq_with]
  rcases c with ⟨_, _, _ | _, _, _⟩
  · exact ⟨rfl, rfl, rfl, rfl, h.length⟩
  · exact ⟨passBlanks_snd _ _ _ _, rfl, rfl, rfl,
      Nat.le_trans (length_passBlanks_le _ _ _) h.length⟩

theorem next (h : c.Along (n + 1) d) : c.next.Along n d.next := h.bump.skip

theorem next_le (h : c.Along n d) : c.next.Along n d.next := h.bump_le.skip

/-- One of two cursors, if the same condition chooses. -/
theorem choose {c' d' : Cursor} (b : Bool) (h' : c'.Along n d') (h : c.Along n d) :
    (if b then c' else c).Along n (if b then d' else d) := by
  cases b
  · exact h
  · exact h'

theorem bumps {α : Type} (l : List α) (h : c.Along n d) :
    (l.foldl (fun c _ => c.bump) c).Along n (l.foldl (fun c _ => c.bump) d) := by
  induction l generalizing c d with
  | nil => exact h
  | cons _ l ih => exact ih h.bump_le

/-- A text stands at both places or at neither. -/
theorem after? (h : c.Along n d) (text : String) :
    Option.Rel (Along n) (c.after? text) (d.after? text) := by
  rw [Cursor.after?, Cursor.after?, h.rest]
  split
  · exact .some (h.bumps _)
  · exact .none

theorem run (h : c.Along n d) (p : Char → Bool) :
    (d.run p).1 = (c.run p).1 ∧ (c.run p).2.Along n (d.run p).2 := by
  rw [h.eq_with]
  obtain ⟨hrun, hrest⟩ := takeRun_eq p c.verbose false false c.offset d.offset c.rest
  exact ⟨hrun, hrest, rfl, rfl, rfl, Nat.le_trans (length_takeRun_le _ _ _ _ _ _) h.length⟩

end Cursor.Along

/-! ## Single items -/

/-- What two readers give: something related, and cursors with the same ahead. -/
def Both {α α' : Type} (R : α → α' → Prop) (n : Nat) (a : α × Cursor) (b : α' × Cursor) : Prop :=
  R a.1 b.1 ∧ a.2.Along n b.2

namespace Cursor.Along

variable {n start start' : Nat} {c d : Cursor}

/-- Digits are the same, and so is what is left behind them. -/
theorem hexDigits (h : c.Along n d) (count : Nat) :
    Gives (Both Eq n) (hexDigits c count) (hexDigits d count) := by
  induction count generalizing c d with
  | zero => exact .ok ⟨rfl, h⟩
  | succ count ih =>
    simp only [Syntax.hexDigits, h.char?]
    split
    · exact .error
    · split
      · refine (ih h.next_le).bind ?_
        rintro ⟨digits, c'⟩ ⟨digits', d'⟩ ⟨hdigits, hcursor⟩
        exact .ok ⟨congrArg (_ :: ·) hdigits, hcursor⟩
      · exact .error

theorem hexEscape (h : c.Along n d) :
    Gives (Both (fun l l' => l'.bare = l.bare) n) (hexEscape start c) (hexEscape start' d) := by
  simp only [Syntax.hexEscape, h.char?, h.next_le.char?]
  split
  · exact .error
  · obtain ⟨hdigits, hrun⟩ := h.next_le.next_le.run Text.isHexDigit
    simp only [hdigits, hrun.char?]
    split
    · exact .error
    · split
      · exact .error
      · split
        · exact .error
        · exact .ok ⟨rfl, hrun.next_le⟩
    · exact .error
  · refine (h.next_le.hexDigits _).bind ?_
    rintro ⟨digits, c'⟩ ⟨digits', d'⟩ ⟨hdigits, hcursor⟩
    obtain rfl : digits = digits' := hdigits
    dsimp only
    split
    · exact .error
    · exact .ok ⟨rfl, hcursor⟩

theorem propertyEscape (h : c.Along n d) :
    Gives (Both (fun p p' => p'.bare = p.bare) n) (propertyEscape start c)
      (propertyEscape start' d) := by
  simp only [Syntax.propertyEscape, h.char?, h.next_le.char?]
  split
  · exact .error
  · obtain ⟨hname, hrun⟩ := h.next_le.next_le.run (· != '\x7d')
    simp only [hname, hrun.char?]
    split
    · exact .error
    · exact .ok ⟨rfl, hrun.bump_le⟩
  · exact .error
  · exact .ok ⟨rfl, h.next_le.next_le⟩

/-- What a brace makes of the boundary before it is the same. -/
theorem specialBoundary (h : c.Along n d) :
    Gives (Option.Rel (Both Eq n)) (specialBoundary start c) (specialBoundary start' d) := by
  simp only [Syntax.specialBoundary, h.next_le.char?]
  split
  · exact .error
  · split
    · obtain ⟨hword, hrun⟩ := h.next_le.run isBoundaryLetter
      simp only [hword, hrun.char?]
      split
      · split
        · exact .ok (.some ⟨rfl, hrun.bump_le⟩)
        · exact .error
      · exact .error
    · exact .ok .none

/-- **The same is escaped** wherever the backslash stands. -/
theorem escape (h : c.Along (n + 1) d) :
    Gives (Both (fun a a' => a'.bare = a.bare) n) (escape c) (escape d) := by
  have hbehind := h.bump.bump_le
  simp only [Syntax.escape, h.bump.char?]
  split
  · exact .error
  split
  · exact .error
  split
  · refine h.bump.hexEscape.bind ?_
    rintro ⟨l, c'⟩ ⟨l', d'⟩ ⟨hl, hcursor⟩
    exact .ok ⟨congrArg Atom.literal hl, hcursor⟩
  split
  · refine h.bump.propertyEscape.bind ?_
    rintro ⟨p, c'⟩ ⟨p', d'⟩ ⟨hp, hcursor⟩
    exact .ok ⟨congrArg Atom.property hp, hcursor⟩
  split
  · exact .ok ⟨rfl, hbehind⟩
  split
  · exact .ok ⟨rfl, hbehind⟩
  split
  · exact .ok ⟨rfl, hbehind⟩
  split
  · exact .error
  · rw [hbehind.char?]
    split
    · refine hbehind.specialBoundary.bind ?_
      rintro _ _ (⟨hkind, hcursor⟩ | _)
      · exact .ok ⟨congrArg (Atom.assertion .origin) hkind.symm, hcursor⟩
      · exact .ok ⟨rfl, hbehind⟩
    · exact .ok ⟨rfl, hbehind⟩
  · exact .ok ⟨rfl, hbehind⟩

theorem atom (h : c.Along (n + 1) d) (x : Char) :
    Gives (Both (fun a a' => a'.bare = a.bare) n) (atom c x) (atom d x) := by
  unfold Syntax.atom
  split
  · exact h.escape
  all_goals exact .ok ⟨rfl, h.bump⟩

theorem classAtom (h : c.Along (n + 1) d) (x : Char) :
    Gives (Both (fun a a' => a'.bare = a.bare) n) (classAtom c x) (classAtom d x) := by
  unfold Syntax.classAtom
  split
  · exact h.escape
  · exact .ok ⟨rfl, h.bump⟩

/-! ## Groups and counts -/

/-- A name is the same. It is new in both patterns, since the same names are known. -/
theorem groupName (h : c.Along n d) :
    Gives (fun a b => b.2.1 = a.2.1 ∧ a.2.2.Along n b.2.2) (groupName c) (groupName d) := by
  have hbehind := h.bumps (nameChars c.rest)
  simp only [Syntax.groupName, h.rest, hbehind.char?, hbehind.names]
  split
  · exact .error
  · split
    · exact .error
    · split
      · exact .error
      · exact .ok ⟨rfl, { hbehind.bump_le with names := rfl }⟩
  · exact .error

theorem nextGroup (h : c.Along n d) :
    d.nextGroup.1 = c.nextGroup.1 ∧ c.nextGroup.2.Along n d.nextGroup.2 := by
  have hgroups := congrArg (· + 1) h.groups
  exact ⟨hgroups, { h with groups := hgroups }⟩

end Cursor.Along

/-- The same flags are read wherever a list stands, and the same is left. -/
theorem flagList_gives {items items' : List FlagItem}
    (hkinds : items'.map FlagItem.kind = items.map FlagItem.kind) (offset offset' : Nat)
    (cs : List Char) :
    Gives (fun a b => b.1.map FlagItem.kind = a.1.map FlagItem.kind ∧ b.2.2 = a.2.2 ∧
        a.2.2.length ≤ cs.length)
      (flagList items offset cs) (flagList items' offset' cs) := by
  induction cs generalizing items items' offset offset' with
  | nil => exact .error
  | cons x cs ih =>
    -- A list is looked at for a sign at its end and for kinds that it has already.
    have hlast := congrArg List.getLast? hkinds
    rw [List.getLast?_map, List.getLast?_map] at hlast
    have hany (kind : FlagItemKind) :
        items'.any (·.kind = kind) = items.any (·.kind = kind) := by
      simpa only [List.any_map, Function.comp_def] using
        congrArg (List.any · (decide <| · = kind)) hkinds
    unfold flagList
    split
    · split
      · exact .error
      · next hnegation =>
        split
        · next span hlast' =>
          rw [hlast', Option.map_some] at hlast
          obtain ⟨⟨span, _⟩, hitem, rfl⟩ := Option.map_eq_some_iff.1 hlast.symm
          exact absurd hitem (hnegation span)
        · exact .ok ⟨hkinds, rfl, Nat.le_refl _⟩
    · split
      · exact .error
      · rw [hany]
        split
        · exact .error
        · next kind _ _ =>
          have hmore (span span' : Span) : (items' ++ [FlagItem.mk span' kind]).map FlagItem.kind =
              (items ++ [FlagItem.mk span kind]).map FlagItem.kind := by
            rw [List.map_append, List.map_append, hkinds, List.map_singleton, List.map_singleton]
          intro r hr
          obtain ⟨s, hs, hitems, hrest, hlength⟩ := ih (hmore _ _) _ _ r hr
          exact ⟨s, hs, hitems, hrest, Nat.le_succ_of_le hlength⟩

/-- Flags are the same but for where they stand if their kinds are. -/
theorem bare_of_kinds {items items' : List FlagItem}
    (h : items'.map FlagItem.kind = items.map FlagItem.kind) :
    items'.map FlagItem.bare = items.map FlagItem.bare := by
  have hmk := congrArg (List.map (FlagItem.mk .origin)) h
  rwa [List.map_map, List.map_map] at hmk

namespace Cursor.Along

variable {n : Nat} {c d : Cursor}

theorem isSome_after? (h : c.Along n d) (text : String) :
    (d.after? text).isSome = (c.after? text).isSome := by
  rw [Cursor.after?, Cursor.after?, h.rest]
  split <;> rfl

/-- The sign before a name stands at both places or at neither. -/
theorem nameSign (h : c.Along n d) : Option.Rel (Along n) (c.after? "?P<" <|> c.after? "?<")
    (d.after? "?P<" <|> d.after? "?<") := by
  have hsign := h.after? "?P<"
  generalize c.after? "?P<" = x, d.after? "?P<" = y at hsign ⊢
  rcases hsign with hcursor | _
  · exact .some hcursor
  · exact h.after? "?<"

/-- **The same groups are opened** wherever their parentheses stand. -/
theorem opening (h : c.Along (n + 1) d) :
    Gives (Both (fun o o' => o'.bare = o.bare) n) (opening c) (opening d) := by
  have hnext := h.next
  simp only [Syntax.opening, hnext.isSome_after?]
  split
  · exact .throw
  -- Both look for a sign first, and both find one or neither does.
  have hname := hnext.nameSign
  generalize (c.next.after? "?P<" <|> c.next.after? "?<") = x,
    (d.next.after? "?P<" <|> d.next.after? "?<") = y at hname ⊢
  rcases hname with hcursor | _
  · obtain ⟨hindex, hinside⟩ := hcursor.nextGroup
    refine hinside.groupName.bind ?_
    rintro ⟨span, name, c'⟩ ⟨span', name', d'⟩ ⟨hname, hbehind⟩
    obtain rfl : name' = name := hname
    exact .ok ⟨by simp only [Opening.bare, GroupKind.bare, hindex], hbehind⟩
  · have hquestion := hnext.after? "?"
    generalize c.next.after? "?" = x, d.next.after? "?" = y at hquestion ⊢
    rcases hquestion with hcursor | _
    · next f g =>
      simp only [hcursor.char?]
      split
      · exact .throw
      rw [hcursor.rest]
      refine (flagList_gives rfl f.offset g.offset f.rest).bind ?_
      rintro ⟨items, offset, _⟩ ⟨items', offset', ahead⟩ ⟨hkinds, rfl, hlength⟩
      have hend : Along n { f with offset := offset, rest := ahead }
          { g with offset := offset', rest := ahead } :=
        ⟨rfl, hcursor.verbose, hcursor.groups, hcursor.names,
          Nat.le_trans hlength hcursor.length⟩
      have hempty : items'.isEmpty = items.isEmpty := by
        simpa only [List.isEmpty_map] using congrArg List.isEmpty hkinds
      have hitems := bare_of_kinds hkinds
      simp only [hend.char?, hempty]
      split
      · split
        · exact .throw
        · exact .ok ⟨by simp only [Opening.bare, hitems], hend.bump_le⟩
      · exact .ok ⟨by simp only [Opening.bare, GroupKind.bare, hitems], hend.bump_le⟩
    · obtain ⟨hindex, hinside⟩ := hnext.nextGroup
      exact .ok ⟨by simp only [Opening.bare, GroupKind.bare, hindex], hinside⟩

/-- A number is the same, and so is what is left behind it. -/
theorem decimal (h : c.Along n d) :
    Gives Eq (decimal c).1 (decimal d).1 ∧ (decimal c).2.Along n (decimal d).2 := by
  have hblanks := h.bumps (c.rest.takeWhile Unicode.isWhiteSpace)
  obtain ⟨hdigits, hrun⟩ := hblanks.run Char.isDigit
  obtain ⟨-, hend⟩ := hrun.run Unicode.isWhiteSpace
  simp only [Syntax.decimal, h.rest, hdigits]
  split
  · exact ⟨.error, hend⟩
  · split
    · exact ⟨.ok rfl, hend⟩
    · exact ⟨.error, hend⟩

/-- **The same counts are read** wherever their braces stand. -/
theorem counts (h : c.Along (n + 1) d) :
    Gives (Both Eq n) (counts c) (counts d) := by
  have hnext := h.next
  obtain ⟨hfirst, hbehind⟩ := hnext.decimal
  obtain ⟨hlast, hend⟩ := hbehind.next_le.decimal
  simp only [Syntax.counts, hnext.char?, hbehind.char?, hbehind.next_le.char?, hend.char?,
    pure_bind]
  split
  · exact .throw
  -- Whichever counts they are, the brace behind them closes both or neither.
  have hclose {c' d' : Cursor} {closed : Bool} {e e' : SyntaxError} (kind : RepetitionKind)
      (hcursor : c'.Along n d') : Gives (Both Eq n)
        (if closed then pure (kind, c') else throw e)
        (if closed then pure (kind, d') else throw e') := by
    split
    · exact .ok ⟨rfl, hcursor⟩
    · exact .throw
  split
  · exact .throw
  · split
    · exact .throw
    · refine hfirst.bind ?_
      rintro least _ rfl
      exact hclose (.atLeast least) hbehind.next_le
    · refine hfirst.bind ?_
      rintro least _ rfl
      refine hlast.bind ?_
      rintro most _ rfl
      exact hclose (.bounded least most) hend
  · refine hfirst.bind ?_
    rintro count _ rfl
    exact hclose (.exactly count) hbehind

end Cursor.Along

end Multiscan.Syntax
