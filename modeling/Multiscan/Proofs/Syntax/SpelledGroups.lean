import Mathlib.Data.List.TakeWhile
import Multiscan.Proofs.Syntax.SpelledItems
/-!
# Syntax — groups and counts spelled in bytes

The openings of groups, with their names and flags, and the counts of repetitions are
ASCII in a pattern that can be spelled in bytes, so the same ones are read in its spelling
(`Cursor.Spelled.opening`, `Cursor.Spelled.counts`).
-/

namespace Multiscan.Syntax

open Unicode (isWhiteSpace)

variable {text : List Char} {c d : Cursor} {x : Char}

/-! ## Names and flags -/

theorem exists_nameChars (cs : List Char) : ∃ rest, cs = nameChars cs ++ rest := by
  cases cs with
  | nil => exact ⟨[], rfl⟩
  | cons x cs =>
    rw [nameChars]
    split
    · exact ⟨cs.dropWhile isNamePart, by rw [List.cons_append, List.takeWhile_append_dropWhile]⟩
    · exact ⟨x :: cs, rfl⟩

/-- The characters of a name are no backslashes. -/
theorem ne_slash_of_mem_nameChars {cs : List Char} (hx : x ∈ nameChars cs) : x ≠ '\\' := by
  have hstart : isNameStart '\\' = false := by decide
  have hpart : isNamePart '\\' = false := by decide
  rintro rfl
  cases cs with
  | nil => cases hx
  | cons y cs =>
    rw [nameChars] at hx
    split at hx
    · next hy =>
      rcases List.mem_cons.1 hx with rfl | hx
      · rw [hstart] at hy
        cases hy
      · rw [List.mem_takeWhile_imp hx] at hpart
        cases hpart
    · cases hx

/-- A name does not depend on what stands behind the bracket that closes it. -/
theorem nameChars_closed {name rest : List Char} (h : nameChars (name ++ '>' :: rest) = name)
    (rest' : List Char) : nameChars (name ++ '>' :: rest') = name := by
  have hpart : isNamePart '>' = false := by decide
  cases name with
  | nil => rfl
  | cons x xs =>
    rw [List.cons_append, nameChars] at h ⊢
    split at h
    · next hx =>
      have hxs := (List.cons.inj h).2
      have hall : ∀ y ∈ xs, isNamePart y = true := fun y hy => List.mem_takeWhile_imp (hxs.symm ▸ hy)
      rw [if_pos hx, List.takeWhile_append_of_pos hall,
        List.takeWhile_cons_of_neg (Bool.eq_false_iff.1 hpart), List.append_nil]
    · cases h

theorem nameChars_spelled {name rest : List Char} (hplain : ∀ x ∈ name, isPlain x = true)
    (h : nameChars (name ++ '>' :: rest) = name) :
    nameChars (spellInBytes (name ++ '>' :: rest)) = name := by
  rw [spellInBytes_append hplain, spellInBytes_plain (by decide)]
  exact nameChars_closed h _

theorem isPlain_of_flagItemKind? {kind : FlagItemKind} (h : flagItemKind? x = some kind) :
    isPlain x = true := by
  unfold flagItemKind? at h
  split at h
  · decide
  · obtain ⟨f, hf, -⟩ := Option.map_eq_some_iff.1 h
    unfold inlineFlag? at hf
    split at hf
    case h_8 => cases hf
    all_goals decide

/-- **The same flags are read** in the spelling of a pattern, up to the same sign. -/
theorem flagList_spelled {items items' : List FlagItem}
    (hkinds : items'.map FlagItem.kind = items.map FlagItem.kind) (offset offset' : Nat)
    (cs : List Char) :
    Gives (fun a b => b.1.map FlagItem.kind = a.1.map FlagItem.kind ∧
        b.2.2 = spellInBytes a.2.2 ∧ ∃ x, a.2.2.head? = some x ∧ isPlain x = true)
      (flagList items offset cs) (flagList items' offset' (spellInBytes cs)) := by
  induction cs generalizing items items' offset offset' with
  | nil => exact .error
  | cons x cs ih =>
    -- A list is looked at for a sign at its end and for kinds that it has already.
    have hlast := congrArg List.getLast? hkinds
    rw [List.getLast?_map, List.getLast?_map] at hlast
    have hany (kind : FlagItemKind) :
        items'.any (·.kind = kind) = items.any (·.kind = kind) := by
      simpa only [List.any_map, Function.comp_def] using
        congrArg (List.any · (decide <| · = kind)) hkinds
    by_cases hx : isPlain x = true
    swap
    · have hkind : flagItemKind? x = none := by
        cases hkind : flagItemKind? x with
        | none => rfl
        | some kind => exact absurd (isPlain_of_flagItemKind? hkind) hx
      have hend : (x == ':' || x == ')') = false := by
        rw [Bool.eq_false_iff]
        intro hend
        rcases Bool.or_eq_true_iff.1 hend with h | h
        · exact hx (beq_iff_eq.1 h ▸ by decide)
        · exact hx (beq_iff_eq.1 h ▸ by decide)
      simp only [flagList, hend, hkind]
      exact .error
    rw [spellInBytes_plain hx]
    unfold flagList
    split
    · split
      · exact .error
      · next hnegation =>
        split
        · next span hlast' =>
          rw [hlast', Option.map_some] at hlast
          obtain ⟨⟨span, _⟩, hitem, rfl⟩ := Option.map_eq_some_iff.1 hlast.symm
          exact absurd hitem (hnegation span)
        · exact .ok ⟨hkinds, (spellInBytes_plain hx cs).symm, x, rfl, hx⟩
    · split
      · exact .error
      · rw [hany]
        split
        · exact .error
        · refine ih ?_ _ _
          rw [List.map_append, List.map_append, hkinds, List.map_singleton, List.map_singleton]

/-- What a parenthesis opens can be spelled. -/
def Opening.Spellable (text : List Char) : Opening → Prop
  | .flags _ _ items => SpellableFlags text items
  | .group _ kind => kind.Spellable text

/-- What the first reads stands in the text. -/
theorem Gives.and_reads {α α' : Type} {P : α → Prop} {R : α → α' → Prop}
    {r : Except SyntaxError α} {r' : Except SyntaxError α'} (h : Gives R r r')
    (hreads : Reads text P r) : Gives (fun a b => P a ∧ R a b) r r' := by
  rintro a rfl
  obtain ⟨b, hb, hab⟩ := h a rfl
  exact ⟨b, hb, hreads, hab⟩

namespace Cursor.Spelled

theorem groupName (h : c.Spelled text d) :
    GivesIf (fun a => ∀ x ∈ a.2.1.toList, x.toNat < 128)
      (fun a b => b.2.1 = a.2.1 ∧ a.2.2.Spelled text b.2.2) (groupName c) (groupName d) := by
  obtain ⟨rest, hrest⟩ := exists_nameChars c.rest
  simp only [Syntax.groupName]
  split
  · exact .error
  · next hclose =>
    split
    · exact .error
    · next hne =>
      split
      · exact .error
      · next hnew =>
        intro a ha hgood
        cases ha
        have hplain : ∀ x ∈ nameChars c.rest, isPlain x = true := fun x hx =>
          isPlain_iff.2 ⟨hgood x (by simpa using hx), ne_slash_of_mem_nameChars hx⟩
        have hbehind := h.bumps hrest hplain
        -- So the name is the same, as the same bracket stands behind it.
        have hname : nameChars d.rest = nameChars c.rest := by
          have hbracket := hclose
          rw [Cursor.char?, Cursor.rest_bumps hrest] at hbracket
          obtain ⟨rest', rfl⟩ := List.head?_eq_some_iff.1 hbracket
          have hspelled := nameChars_spelled hplain (congrArg nameChars hrest.symm)
          rwa [← hrest, ← h.rest] at hspelled
        simp only [hname, (hbehind.char?_eq_iff (by decide)).2 hclose, hne, hnew, hbehind.names]
        exact ⟨_, rfl, rfl, { hbehind.bump hclose (by decide) with names := rfl }⟩
  · exact .error

theorem nextGroup (h : c.Spelled text d) :
    d.nextGroup.1 = c.nextGroup.1 ∧ c.nextGroup.2.Spelled text d.nextGroup.2 := by
  have hgroups := congrArg (· + 1) h.groups
  exact ⟨hgroups, { h with groups := hgroups, place := h.place.nextGroup }⟩

/-- The sign before a name stands at both places or at neither. -/
theorem nameSign (h : c.Spelled text d) :
    Option.Rel (Cursor.Spelled text) (c.after? "?P<" <|> c.after? "?<")
      (d.after? "?P<" <|> d.after? "?<") := by
  have hsign := h.after? "?P<" (by decide)
  generalize c.after? "?P<" = x, d.after? "?P<" = y at hsign ⊢
  rcases hsign with hcursor | _
  · exact .some hcursor
  · exact h.after? "?<" (by decide)

/-- **The same groups are opened** in the spelling of a pattern. -/
theorem opening (h : c.Spelled text d) (hc : c.char? = some '(') :
    GivesIf (fun a => a.1.Spellable text) (Beside (fun o o' => o'.bare = o.bare) text) (opening c)
      (opening d) := by
  have hnext := h.next hc (by decide)
  simp only [Syntax.opening, hnext.isSome_after? "?=" (by decide),
    hnext.isSome_after? "?!" (by decide), hnext.isSome_after? "?<=" (by decide),
    hnext.isSome_after? "?<!" (by decide)]
  split
  · exact .error
  -- Both look for a sign first, and both find one or neither does.
  have hname := hnext.nameSign
  generalize (c.next.after? "?P<" <|> c.next.after? "?<") = x,
    (d.next.after? "?P<" <|> d.next.after? "?<") = y at hname ⊢
  rcases hname with hcursor | _
  · obtain ⟨hindex, hinside⟩ := hcursor.nextGroup
    refine hinside.groupName.bind ?_ ?_
    · rintro ⟨span, name, c'⟩ _ ⟨⟩ hgood
      exact hgood
    · rintro ⟨span, name, c'⟩ ⟨span', name', d'⟩ ⟨hname, hbehind⟩
      obtain rfl : name' = name := hname
      exact (Gives.ok ⟨by simp only [Opening.bare, GroupKind.bare, hindex], hbehind⟩).givesIf
  · refine Gives.givesIf ?_
    have hquestion := hnext.after? "?" (by decide)
    generalize c.next.after? "?" = x, d.next.after? "?" = y at hquestion ⊢
    rcases hquestion with hcursor | _
    · next f g =>
      simp only [hcursor.isNone_char?]
      split
      · exact .throw
      rw [hcursor.rest]
      have hnone : ∀ item ∈ ([] : List FlagItem), item.kind = .negation →
          Stands text item.span.start '-' := List.forall_mem_nil _
      have hlist := (flagList_spelled rfl f.offset g.offset f.rest).and_reads
        (reads_flagList hnone hcursor.place)
      refine hlist.bind ?_
      rintro ⟨items, offset, rest⟩ ⟨items', offset', _⟩ ⟨hplace, hkinds, rfl, x, hx, hplain⟩
      have hend : Spelled text { f with offset := offset, rest := rest }
          { g with offset := offset', rest := spellInBytes rest } :=
        ⟨hplace, rfl, hcursor.verbose, hcursor.groups, hcursor.names, hcursor.blanks⟩
      have hempty : items'.isEmpty = items.isEmpty := by
        simpa only [List.isEmpty_map] using congrArg List.isEmpty hkinds
      have hitems := bare_of_kinds hkinds
      simp only [hend.char?_beq (x := ')') (by decide), hempty]
      split
      · split
        · exact .throw
        · exact .ok ⟨by simp only [Opening.bare, hitems], hend.bump hx hplain⟩
      · exact .ok ⟨by simp only [Opening.bare, GroupKind.bare, hitems], hend.bump hx hplain⟩
    · obtain ⟨hindex, hinside⟩ := hnext.nextGroup
      exact .ok ⟨by simp only [Opening.bare, GroupKind.bare, hindex], hinside⟩

/-- A number is the same. The blanks around it are in ASCII. -/
theorem decimal (h : c.Spelled text d) (hblanks : AsciiBlanks text) :
    Gives Eq (decimal c).1 (decimal d).1 ∧ (decimal c).2.Spelled text (decimal d).2 := by
  have hascii := hblanks.rest h.place
  have hplain : ∀ x ∈ c.rest.takeWhile isWhiteSpace, isPlain x = true := by
    intro x hx
    have hblank : isWhiteSpace x = true := List.mem_takeWhile_imp hx
    refine isPlain_iff.2 ⟨hascii x (List.takeWhile_subset _ hx) hblank, ?_⟩
    rintro rfl
    cases hblank
  have hspace := h.bumps List.takeWhile_append_dropWhile.symm hplain
  obtain ⟨hdigits, hrun⟩ := hspace.run (p := Char.isDigit) (by decide)
    fun x _ hx => (isPlain_iff.1 (isPlain_of_isDigit hx)).1
  obtain ⟨-, hend⟩ := hrun.run (p := isWhiteSpace) (by decide) (hblanks.rest hrun.place)
  have hwhile : d.rest.takeWhile isWhiteSpace = c.rest.takeWhile isWhiteSpace := by
    rw [h.rest, takeWhile_spellInBytes (by decide) hascii]
  simp only [Syntax.decimal, hwhile, hdigits]
  split
  · exact ⟨.error, hend⟩
  · split
    · exact ⟨.ok rfl, hend⟩
    · exact ⟨.error, hend⟩

/-- **The same counts are read** in the spelling of a pattern. -/
theorem counts (h : c.Spelled text d) (hc : c.char? = some '\x7b') (hblanks : AsciiBlanks text) :
    Gives (fun a b => Beside Eq text a b ∧ a.2.char? = some '\x7d') (counts c) (counts d) := by
  have hnext := h.next hc (by decide)
  obtain ⟨hfirst, hbehind⟩ := hnext.decimal hblanks
  simp only [Syntax.counts, hnext.isNone_char?, pure_bind]
  split
  · exact .throw
  -- Whichever counts they are, the brace behind them closes both or neither.
  have hclose {c' d' : Cursor} {e e' : SyntaxError} (kind : RepetitionKind)
      (hcursor : c'.Spelled text d') :
      Gives (fun a b => Beside Eq text a b ∧ a.2.char? = some '\x7d')
        (if c'.char? == some '\x7d' then pure (kind, c') else throw e)
        (if d'.char? == some '\x7d' then pure (kind, d') else throw e') := by
    rw [hcursor.char?_beq (by decide)]
    split
    · next hend => exact .ok ⟨⟨rfl, hcursor⟩, beq_iff_eq.1 hend⟩
    · exact .throw
  split
  · exact .throw
  · next hcomma =>
    have hafter := hbehind.next hcomma (by decide)
    obtain ⟨hlast, hend⟩ := hafter.decimal hblanks
    simp only [(hbehind.char?_eq_iff (by decide)).2 hcomma]
    split
    · exact .throw
    · next hbrace =>
      simp only [(hafter.char?_eq_iff (by decide)).2 hbrace, hbrace]
      refine hfirst.bind ?_
      rintro least _ rfl
      exact .ok ⟨⟨rfl, hafter⟩, hbrace⟩
    · next z hbrace hz =>
      have hshown : shown z ≠ '\x7d' := fun h => hbrace ((shown_eq_iff (by decide)).1 h)
      simp only [hafter.char?, hz, Option.map_some]
      refine hfirst.bind ?_
      rintro least _ rfl
      refine hlast.bind ?_
      rintro most _ rfl
      exact hclose (.bounded least most) hend
  · next z hcomma hz =>
    have hshown : shown z ≠ ',' := fun h => hcomma ((shown_eq_iff (by decide)).1 h)
    simp only [hbehind.char?, hz, Option.map_some]
    refine hfirst.bind ?_
    rintro count _ rfl
    simpa only [hbehind.char?, hz, Option.map_some] using hclose (.exactly count) hbehind

end Cursor.Spelled

end Multiscan.Syntax
