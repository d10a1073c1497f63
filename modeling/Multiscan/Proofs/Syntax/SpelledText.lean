import Multiscan.Proofs.Syntax.Literals
/-!
# Syntax — the text of a pattern spelled in bytes

Spelling a pattern in bytes leaves its characters in ASCII where they are and puts
escapes for the others, which show as a backslash. So what stands at a place in
the spelled text follows from what stands in the pattern (`head?_spellInBytes`), and
blanks, comments and runs in the pattern become blanks, comments and runs in the
spelled text, provided that no white space outside ASCII is passed over
(`passBlanks_spellInBytes`, `takeRun_spellInBytes`).
-/

namespace Multiscan.Syntax

open Text (encodeChar)
open Unicode (isWhiteSpace)

variable {x y : Char} {cs front : List Char} {p : Char → Bool}

/-! ## Characters -/

/-- A character that is spelled as it is wherever it comes first. -/
def isPlain (x : Char) : Bool := decide (x.toNat < 128) && x != '\\'

theorem isPlain_iff : isPlain x = true ↔ x.toNat < 128 ∧ x ≠ '\\' := by
  rw [isPlain, Bool.and_eq_true, decide_eq_true_iff, bne_iff_ne]

/-- A character as it shows in a spelled text. -/
def shown (x : Char) : Char := if x.toNat < 128 then x else '\\'

theorem shown_of_ascii (h : x.toNat < 128) : shown x = x := if_pos h

theorem shown_of_wide (h : ¬ x.toNat < 128) : shown x = '\\' := if_neg h

/-- A plain character shows where it stands itself. -/
theorem shown_eq_iff (hy : isPlain y = true) : shown x = y ↔ x = y := by
  obtain ⟨hascii, hslash⟩ := isPlain_iff.1 hy
  unfold shown
  split
  · rfl
  · next hwide =>
    refine iff_of_false (fun h => hslash h.symm) ?_
    rintro rfl
    exact hwide hascii

/-- What holds of plain characters only can be read off what shows. -/
theorem apply_shown (hp : ∀ x, p x = true → isPlain x = true) (x : Char) : p (shown x) = p x := by
  unfold shown
  split
  · rfl
  · next hwide =>
    rw [Bool.eq_false_iff.2 fun h => (isPlain_iff.1 (hp '\\' h)).2 rfl,
      Bool.eq_false_iff.2 fun h => hwide (isPlain_iff.1 (hp x h)).1]

/-- The characters of escapes of bytes. -/
def escapeChars : List Char :=
  ['\\', 'x', '0', '1', '2', '3', '4', '5', '6', '7', '8', '9', 'A', 'B', 'C', 'D', 'E', 'F']

theorem capitalDigit_mem {n : Nat} (h : n < 16) : Text.capitalDigit n ∈ escapeChars := by
  have all_digits : ∀ m : Fin 16, Text.capitalDigit m.val ∈ escapeChars := by decide
  exact all_digits ⟨n, h⟩

/-- Escapes are made of such characters. -/
theorem mem_escapeChars (h : y ∈ charInBytes x) : y ∈ escapeChars := by
  obtain ⟨b, -, hb⟩ := List.mem_flatMap.1 h
  have hlt := b.toNat_lt
  simp only [byteEscape, Text.byteDigits, List.mem_cons, List.not_mem_nil, or_false] at hb
  rcases hb with rfl | rfl | rfl | rfl
  · decide
  · decide
  · exact capitalDigit_mem (by omega)
  · exact capitalDigit_mem (by omega)

theorem ne_newline_of_mem_escapeChars (h : y ∈ escapeChars) : y ≠ '\n' := by
  rintro rfl
  revert h
  decide

/-- The bytes of a character are spelled behind a backslash. -/
theorem exists_charInBytes (x : Char) : ∃ rest, charInBytes x = '\\' :: rest := by
  obtain ⟨b, bs, hbs, -⟩ := Text.exists_cons_encodeChar x
  refine ⟨'x' :: (Text.byteDigits b ++ bs.flatMap byteEscape), ?_⟩
  rw [charInBytes, hbs, List.flatMap_cons]
  rfl

/-! ## What is spelled -/

theorem spellInBytes_plain (h : isPlain x = true) (cs : List Char) :
    spellInBytes (x :: cs) = x :: spellInBytes cs := by
  obtain ⟨hascii, hslash⟩ := isPlain_iff.1 h
  rw [spellInBytes_cons hslash, if_pos hascii]

/-- Plain characters at the front stay as they are. -/
theorem spellInBytes_append (h : ∀ x ∈ front, isPlain x = true) (cs : List Char) :
    spellInBytes (front ++ cs) = front ++ spellInBytes cs := by
  induction front with
  | nil => rfl
  | cons x front ih =>
    obtain ⟨hx, hfront⟩ := List.forall_mem_cons.1 h
    rw [List.cons_append, spellInBytes_plain hx, ih hfront, List.cons_append]

theorem spellInBytes_wide (hx : ¬ x.toNat < 128) (cs : List Char) :
    spellInBytes (x :: cs) = charInBytes x ++ spellInBytes cs := by
  have hslash : x ≠ '\\' := by
    rintro rfl
    exact hx (by decide)
  rw [spellInBytes_cons hslash, if_neg hx]

theorem spellInBytes_slash (hy : y.toNat < 128) (cs : List Char) :
    spellInBytes ('\\' :: y :: cs) = '\\' :: y :: spellInBytes cs := by
  rw [spellInBytes, if_pos hy]

/-- **What stands in a spelled text** is what stands in the pattern, or a backslash. -/
theorem head?_spellInBytes (cs : List Char) : (spellInBytes cs).head? = cs.head?.map shown := by
  have hescape (x : Char) (rest : List Char) : (charInBytes x ++ rest).head? = some '\\' := by
    obtain ⟨more, hmore⟩ := exists_charInBytes x
    rw [hmore]
    rfl
  fun_induction spellInBytes cs with
  | case1 => rfl
  | case2 => rfl
  | case3 => rw [hescape]; rfl
  | case4 x cs _ hascii =>
    rw [List.head?_cons, List.head?_cons, Option.map_some, shown_of_ascii hascii]
  | case5 x cs _ hwide => rw [hescape, List.head?_cons, Option.map_some, shown_of_wide hwide]

/-- Plain characters stand at the front of both or of neither. -/
theorem isPrefixOf_spellInBytes (h : ∀ x ∈ front, isPlain x = true) (cs : List Char) :
    front.isPrefixOf (spellInBytes cs) = front.isPrefixOf cs := by
  induction front generalizing cs with
  | nil => rfl
  | cons x front ih =>
    obtain ⟨hx, hfront⟩ := List.forall_mem_cons.1 h
    cases cs with
    | nil => rfl
    | cons y ys =>
      by_cases hy : y = x
      · rw [hy, spellInBytes_plain hx, List.isPrefixOf_cons_cons, List.isPrefixOf_cons_cons, ih hfront]
      · obtain ⟨zs, hzs⟩ := List.head?_eq_some_iff.1 (head?_spellInBytes (y :: ys))
        have hshown : shown y ≠ x := fun h => hy ((shown_eq_iff hx).1 h)
        rw [hzs, List.isPrefixOf_cons_cons, List.isPrefixOf_cons_cons,
          beq_eq_false_iff_ne.2 hshown.symm, beq_eq_false_iff_ne.2 (Ne.symm hy)]
        rfl

/-- Characters at the front that have a property of plain ones are the same. -/
theorem takeWhile_spellInBytes (hslash : p '\\' = false)
    (hascii : ∀ x ∈ cs, p x = true → x.toNat < 128) :
    (spellInBytes cs).takeWhile p = cs.takeWhile p := by
  have hescape (x : Char) (rest : List Char) : (charInBytes x ++ rest).takeWhile p = [] := by
    obtain ⟨more, hmore⟩ := exists_charInBytes x
    rw [hmore, List.cons_append]
    exact List.takeWhile_cons_of_neg (Bool.eq_false_iff.1 hslash)
  fun_induction spellInBytes cs with
  | case1 => rfl
  | case2 => simp only [List.takeWhile_cons, hslash, Bool.false_eq_true, if_false]
  | case3 => simp only [hescape, List.takeWhile_cons, hslash, Bool.false_eq_true, if_false]
  | case4 x cs _ _ ih =>
    simp only [List.takeWhile_cons, ih (List.forall_mem_cons.1 hascii).2]
  | case5 x cs _ hwide =>
    have hx : p x = false :=
      Bool.eq_false_iff.2 fun h => hwide ((List.forall_mem_cons.1 hascii).1 h)
    simp only [hescape, List.takeWhile_cons, hx, Bool.false_eq_true, if_false]

/-! ## Blanks and comments -/

/-- A text has no white space outside ASCII. -/
def AsciiBlanks (cs : List Char) : Prop := ∀ x ∈ cs, isWhiteSpace x = true → x.toNat < 128

/-- It is decided character by character. -/
instance (cs : List Char) : Decidable (AsciiBlanks cs) :=
  decidable_of_iff (cs.all (fun x => !isWhiteSpace x || decide (x.toNat < 128)) = true) <| by
    simp only [List.all_eq_true, Bool.or_eq_true, Bool.not_eq_true', decide_eq_true_eq,
      AsciiBlanks, or_iff_not_imp_left, Bool.not_eq_false]

theorem AsciiBlanks.tail (h : AsciiBlanks (x :: cs)) : AsciiBlanks cs :=
  (List.forall_mem_cons.1 h).2

/-- A character outside ASCII is then no blank. -/
theorem AsciiBlanks.not_blank (h : AsciiBlanks (x :: cs)) (hx : ¬ x.toNat < 128) :
    isWhiteSpace x = false :=
  Bool.eq_false_iff.2 fun hblank => hx ((List.forall_mem_cons.1 h).1 hblank)

/-- No character outside ASCII opens a comment, and none ends one. -/
theorem ne_of_wide (hx : ¬ x.toNat < 128) (hy : y.toNat < 128) : x ≠ y := by
  rintro rfl
  exact hx hy

/-- What is in a comment is passed over. -/
theorem passBlanks_comment (offset : Nat) (hfront : ∀ y ∈ front, y ≠ '\n') (cs : List Char) :
    ∃ offset', passBlanks offset true (front ++ cs) = passBlanks offset' true cs := by
  induction front generalizing offset with
  | nil => exact ⟨offset, rfl⟩
  | cons y front ih =>
    obtain ⟨hy, hfront⟩ := List.forall_mem_cons.1 hfront
    obtain ⟨offset', h⟩ := ih (offset + Text.width y) hfront
    refine ⟨offset', ?_⟩
    rw [List.cons_append, passBlanks, if_pos rfl, bne_iff_ne.2 hy, h]

/-- Nothing is passed over where a backslash stands. -/
theorem passBlanks_slash (offset : Nat) (cs : List Char) :
    passBlanks offset false ('\\' :: cs) = (offset, '\\' :: cs) := rfl

/-- **What is left behind blanks and comments** of a spelled text is spelled from
what is left of the pattern. -/
theorem passBlanks_spellInBytes (h : AsciiBlanks cs) (offset offset' : Nat) (inComment : Bool) :
    (passBlanks offset' inComment (spellInBytes cs)).2 =
      spellInBytes (passBlanks offset inComment cs).2 := by
  have hescape (x : Char) (rest : List Char) (offset : Nat) :
      ∃ offset', passBlanks offset true (charInBytes x ++ rest) = passBlanks offset' true rest :=
    passBlanks_comment offset (fun y hy => ne_newline_of_mem_escapeChars (mem_escapeChars hy)) rest
  have hstop (x : Char) (rest : List Char) (offset : Nat) :
      (passBlanks offset false (charInBytes x ++ rest)).2 = charInBytes x ++ rest := by
    obtain ⟨more, hmore⟩ := exists_charInBytes x
    rw [hmore]
    rfl
  fun_induction spellInBytes cs generalizing offset offset' inComment with
  | case1 => rfl
  | case2 y cs hascii ih =>
    cases inComment with
    | true => exact ih h.tail.tail _ _ _
    | false => rw [passBlanks_slash, passBlanks_slash, spellInBytes_slash hascii]
  | case3 y cs hwide ih =>
    cases inComment with
    | true =>
      obtain ⟨offset₁, hcomment⟩ := hescape y (spellInBytes cs) offset'
      have hy : (y != '\n') = true := bne_iff_ne.2 (ne_of_wide hwide (by decide))
      rw [hcomment, ih h.tail.tail (offset + Text.width '\\' + Text.width y)]
      simp only [passBlanks, if_true, hy]
      rfl
    | false => rw [hstop, passBlanks_slash, spellInBytes, if_neg hwide]
  | case4 x cs hslash hascii ih =>
    simp only [passBlanks]
    split
    · exact ih h.tail _ _ _
    · split
      · exact ih h.tail _ _ _
      · split
        · exact ih h.tail _ _ _
        · rw [spellInBytes, if_pos hascii]
          exact hslash
  | case5 x cs hslash hwide ih =>
    cases inComment with
    | true =>
      obtain ⟨offset₁, hcomment⟩ := hescape x (spellInBytes cs) offset'
      have hx : (x != '\n') = true := bne_iff_ne.2 (ne_of_wide hwide (by decide))
      rw [hcomment, ih h.tail (offset + Text.width x)]
      simp only [passBlanks, if_true, hx]
    | false =>
      have hx : (x == '#') = false := beq_eq_false_iff_ne.2 (ne_of_wide hwide (by decide))
      simp only [hstop, passBlanks, Bool.false_eq_true, if_false, h.not_blank hwide, hx]
      exact (spellInBytes_wide hwide cs).symm

/-- The first character behind blanks shows there in a spelled text. -/
theorem afterBlanks?_spellInBytes (h : AsciiBlanks cs) (inComment : Bool) :
    Cursor.afterBlanks? (spellInBytes cs) inComment =
      (Cursor.afterBlanks? cs inComment).map shown := by
  have hstop (rest : List Char) (inComment : Bool) :
      Cursor.afterBlanks? ('\\' :: rest) inComment = some '\\' := by
    cases inComment <;> rfl
  have hescape (x : Char) (rest : List Char) (inComment : Bool) :
      Cursor.afterBlanks? (charInBytes x ++ rest) inComment = some '\\' := by
    obtain ⟨more, hmore⟩ := exists_charInBytes x
    rw [hmore, List.cons_append, hstop]
  fun_induction spellInBytes cs generalizing inComment with
  | case1 => rfl
  | case2 => rw [hstop, hstop]; rfl
  | case3 => rw [hescape, hstop]; rfl
  | case4 x cs _ hascii ih =>
    simp only [Cursor.afterBlanks?]
    split
    · exact ih h.tail _
    · split
      · exact ih h.tail _
      · rw [Option.map_some, shown_of_ascii hascii]
  | case5 x cs _ hwide ih =>
    have hx : (x == '#') = false := beq_eq_false_iff_ne.2 (ne_of_wide hwide (by decide))
    simp only [hescape, Cursor.afterBlanks?, h.not_blank hwide, hx, Bool.and_false,
      Bool.false_eq_true, if_false, Option.map_some, shown_of_wide hwide]

/-! ## Runs -/

/-- What is in a comment does not belong to a run. -/
theorem takeRun_comment (p : Char → Bool) (skipping inside : Bool) (offset : Nat)
    (hfront : ∀ y ∈ front, y ≠ '\n') (cs : List Char) :
    ∃ offset', takeRun p skipping inside true offset (front ++ cs) =
      takeRun p skipping inside true offset' cs := by
  induction front generalizing offset with
  | nil => exact ⟨offset, rfl⟩
  | cons y front ih =>
    obtain ⟨hy, hfront⟩ := List.forall_mem_cons.1 hfront
    obtain ⟨offset', h⟩ := ih (offset + Text.width y) hfront
    refine ⟨offset', ?_⟩
    rw [List.cons_append, takeRun, if_pos rfl, bne_iff_ne.2 hy, h]

/-- Nor does a character there that is spelled in bytes, -/
theorem takeRun_comment_charInBytes (p : Char → Bool) (skipping inside : Bool) (offset : Nat)
    (x : Char) (cs : List Char) :
    ∃ offset', takeRun p skipping inside true offset (charInBytes x ++ cs) =
      takeRun p skipping inside true offset' cs :=
  takeRun_comment p skipping inside offset
    (fun _ hy => ne_newline_of_mem_escapeChars (mem_escapeChars hy)) cs

/-- or as it is. -/
theorem takeRun_comment_wide (p : Char → Bool) (skipping inside : Bool) (offset : Nat)
    (hx : ¬ x.toNat < 128) (cs : List Char) :
    takeRun p skipping inside true offset (x :: cs) =
      takeRun p skipping inside true (offset + Text.width x) cs := by
  have hline : (x != '\n') = true := bne_iff_ne.2 (ne_of_wide hx (by decide))
  rw [takeRun, if_pos rfl, hline]

/-- What is not a blank is not passed over. -/
theorem not_skipped {skipping : Bool} (hblank : skipping = true → isWhiteSpace x = false)
    (inside : Bool) : (skipping && inside && isWhiteSpace x) = false := by
  cases skipping with
  | false => rfl
  | true => rw [hblank rfl, Bool.and_false]

/-- A run ends at a character that is not of it, unless that is passed over. -/
theorem takeRun_of_not {skipping : Bool} (hx : p x = false)
    (hblank : skipping = true → isWhiteSpace x = false) (hsign : x ≠ '#') (inside : Bool)
    (offset : Nat) (cs : List Char) :
    takeRun p skipping inside false offset (x :: cs) = ([], offset, x :: cs) := by
  simp only [takeRun, not_skipped hblank, beq_eq_false_iff_ne.2 hsign, hx, Bool.and_false, Bool.false_eq_true,
    if_false]

/-- **A run of plain characters** is the same in a spelled text, and what is left
behind it is spelled from what is left of the pattern. -/
theorem takeRun_spellInBytes {skipping : Bool} (hslash : p '\\' = false)
    (hascii : ∀ x ∈ cs, p x = true → x.toNat < 128) (hblanks : skipping = true → AsciiBlanks cs)
    (inside inComment : Bool) (offset offset' : Nat) :
    (takeRun p skipping inside inComment offset' (spellInBytes cs)).1 =
        (takeRun p skipping inside inComment offset cs).1 ∧
      (takeRun p skipping inside inComment offset' (spellInBytes cs)).2.2 =
        spellInBytes (takeRun p skipping inside inComment offset cs).2.2 := by
  have hstop (inside : Bool) (offset : Nat) (rest : List Char) :
      takeRun p skipping inside false offset ('\\' :: rest) = ([], offset, '\\' :: rest) :=
    takeRun_of_not hslash (fun _ => rfl) (by decide) inside offset rest
  have hescape (x : Char) (rest : List Char) (inside : Bool) (offset : Nat) :
      takeRun p skipping inside false offset (charInBytes x ++ rest) =
        ([], offset, charInBytes x ++ rest) := by
    obtain ⟨more, hmore⟩ := exists_charInBytes x
    rw [hmore, List.cons_append, hstop]
  fun_induction spellInBytes cs generalizing inside inComment offset offset' with
  | case1 => exact ⟨rfl, rfl⟩
  | case2 y cs hy ih =>
    have hmore := ih (fun x hx => hascii x (by simp [hx])) fun h => (hblanks h).tail.tail
    cases inComment with
    | true => exact hmore _ _ _ _
    | false =>
      rw [hstop, hstop, spellInBytes_slash hy]
      exact ⟨rfl, rfl⟩
  | case3 y cs hwide ih =>
    have hmore := ih (fun x hx => hascii x (by simp [hx])) fun h => (hblanks h).tail.tail
    cases inComment with
    | true =>
      obtain ⟨offset₁, h⟩ := takeRun_comment_charInBytes p skipping inside offset' y _
      have hslash : takeRun p skipping inside true offset ('\\' :: y :: cs) =
        takeRun p skipping inside true (offset + Text.width '\\') (y :: cs) := rfl
      rw [h, hslash, takeRun_comment_wide p skipping inside _ hwide]
      exact hmore _ _ _ _
    | false =>
      rw [hescape, hstop, spellInBytes, if_neg hwide]
      exact ⟨rfl, rfl⟩
  | case4 x cs hnot hx ih =>
    have hmore := ih (List.forall_mem_cons.1 hascii).2 fun h => (hblanks h).tail
    simp only [takeRun]
    split
    · exact hmore _ _ _ _
    · split
      · exact hmore _ _ _ _
      · split
        · exact hmore _ _ _ _
        · split
          · obtain ⟨hrun, hrest⟩ := hmore true false (offset + Text.width x) (offset' + Text.width x)
            exact ⟨congrArg (x :: ·) hrun, hrest⟩
          · refine ⟨rfl, ?_⟩
            rw [spellInBytes, if_pos hx]
            exact hnot
  | case5 x cs hnot hwide ih =>
    have hmore := ih (List.forall_mem_cons.1 hascii).2 fun h => (hblanks h).tail
    cases inComment with
    | true =>
      obtain ⟨offset₁, h⟩ := takeRun_comment_charInBytes p skipping inside offset' x _
      rw [h, takeRun_comment_wide p skipping inside offset hwide]
      exact hmore _ _ _ _
    | false =>
      have hx : p x = false :=
        Bool.eq_false_iff.2 fun h => hwide ((List.forall_mem_cons.1 hascii).1 h)
      rw [hescape, takeRun_of_not hx (fun h => (hblanks h).not_blank hwide)
        (ne_of_wide hwide (by decide)), spellInBytes_wide hwide]
      exact ⟨rfl, rfl⟩

/-- A run goes on behind a character of it. -/
theorem takeRun_of_mem (skipping : Bool) (hx : p x = true)
    (hblank : skipping = true → isWhiteSpace x = false) (hsign : x ≠ '#') (inside : Bool)
    (offset : Nat) (cs : List Char) :
    (takeRun p skipping inside false offset (x :: cs)).2.2 =
      (takeRun p skipping true false (offset + Text.width x) cs).2.2 := by
  simp only [takeRun, not_skipped hblank, beq_eq_false_iff_ne.2 hsign, hx, Bool.and_false, Bool.false_eq_true,
    if_false, if_true]

/-- And so it does behind several. -/
theorem takeRun_append {skipping : Bool} (offset : Nat)
    (hfront : ∀ y ∈ front, p y = true ∧ isWhiteSpace y = false ∧ y ≠ '#') (hne : front ≠ [])
    (inside : Bool) (cs : List Char) :
    ∃ offset', (takeRun p skipping inside false offset (front ++ cs)).2.2 =
      (takeRun p skipping true false offset' cs).2.2 := by
  induction front generalizing offset inside with
  | nil => exact absurd rfl hne
  | cons y front ih =>
    obtain ⟨⟨hy, hblank, hsign⟩, hfront⟩ := List.forall_mem_cons.1 hfront
    rw [List.cons_append, takeRun_of_mem skipping hy (fun _ => hblank) hsign]
    cases front with
    | nil => exact ⟨_, rfl⟩
    | cons z front => exact ih _ hfront (List.cons_ne_nil _ _) _

/-- Where escapes are of a run, it goes on behind a character that is spelled in bytes. -/
theorem takeRun_charInBytes {skipping : Bool} (hescapes : ∀ y ∈ escapeChars, p y = true)
    (inside : Bool) (offset : Nat) (x : Char) (cs : List Char) :
    ∃ offset', (takeRun p skipping inside false offset (charInBytes x ++ cs)).2.2 =
      (takeRun p skipping true false offset' cs).2.2 := by
  have hall : escapeChars.all (fun y => !isWhiteSpace y && y != '#') = true := by decide
  have hchars : ∀ y ∈ escapeChars, isWhiteSpace y = false ∧ y ≠ '#' := fun y hy => by
    simpa using List.all_eq_true.1 hall y hy
  refine takeRun_append offset (fun y hy => ?_) ?_ inside cs
  · exact ⟨hescapes y (mem_escapeChars hy), hchars y (mem_escapeChars hy)⟩
  · obtain ⟨more, hmore⟩ := exists_charInBytes x
    rw [hmore]
    exact List.cons_ne_nil _ _

/-- **Behind a run of characters that escapes are made of too** the same is left, if
whatever ends the run is plain. -/
theorem takeRun_spellInBytes_of_escapes {skipping : Bool} (hescapes : ∀ y ∈ escapeChars, p y = true)
    (hplain : ∀ x, p x = false → isPlain x = true) (hblanks : skipping = true → AsciiBlanks cs)
    (inside inComment : Bool) (offset offset' : Nat) :
    (takeRun p skipping inside inComment offset' (spellInBytes cs)).2.2 =
      spellInBytes (takeRun p skipping inside inComment offset cs).2.2 := by
  have hslash : p '\\' = true := hescapes _ (by decide)
  have hwide_p (x : Char) (hx : ¬ x.toNat < 128) : p x = true := by
    cases h : p x with
    | true => rfl
    | false => exact absurd (isPlain_iff.1 (hplain x h)).1 hx
  -- In the pattern a backslash is one of the run, and so is what is outside ASCII.
  have hslash_step (rest : List Char) (inside : Bool) (offset : Nat) :=
    takeRun_of_mem skipping hslash (fun _ => rfl) (by decide) inside offset rest
  have hwide_step {x : Char} (rest : List Char) (inside : Bool) (offset : Nat)
      (hx : ¬ x.toNat < 128) (hblank : skipping = true → isWhiteSpace x = false) :=
    takeRun_of_mem skipping (hwide_p x hx) hblank (ne_of_wide hx (by decide)) inside offset rest
  fun_induction spellInBytes cs generalizing inside inComment offset offset' with
  | case1 => rfl
  | case2 y cs hy ih =>
    have hmore := ih fun h => (hblanks h).tail.tail
    cases inComment with
    | true => exact hmore _ _ _ _
    | false =>
      rw [hslash_step, hslash_step]
      simp only [takeRun, Bool.false_eq_true, if_false]
      split
      · exact hmore _ _ _ _
      · split
        · exact hmore _ _ _ _
        · split
          · exact hmore _ _ _ _
          · next hnot => exact (spellInBytes_plain (hplain y (Bool.eq_false_iff.2 hnot)) cs).symm
  | case3 y cs hwide ih =>
    have hmore := ih fun h => (hblanks h).tail.tail
    cases inComment with
    | true =>
      obtain ⟨offset₁, h⟩ := takeRun_comment_charInBytes p skipping inside offset' y _
      have hslash : takeRun p skipping inside true offset ('\\' :: y :: cs) =
        takeRun p skipping inside true (offset + Text.width '\\') (y :: cs) := rfl
      rw [h, hslash, takeRun_comment_wide p skipping inside _ hwide]
      exact hmore _ _ _ _
    | false =>
      obtain ⟨offset₁, h⟩ := takeRun_charInBytes hescapes inside offset' y (spellInBytes cs)
      rw [h, hslash_step, hwide_step _ _ _ hwide fun h => (hblanks h).tail.not_blank hwide]
      exact hmore _ _ _ _
  | case4 x cs hnot hx ih =>
    have hmore := ih fun h => (hblanks h).tail
    simp only [takeRun]
    split
    · exact hmore _ _ _ _
    · split
      · exact hmore _ _ _ _
      · split
        · exact hmore _ _ _ _
        · split
          · exact hmore _ _ _ _
          · rw [spellInBytes, if_pos hx]
            exact hnot
  | case5 x cs hnot hwide ih =>
    have hmore := ih fun h => (hblanks h).tail
    cases inComment with
    | true =>
      obtain ⟨offset₁, h⟩ := takeRun_comment_charInBytes p skipping inside offset' x _
      rw [h, takeRun_comment_wide p skipping inside offset hwide]
      exact hmore _ _ _ _
    | false =>
      obtain ⟨offset₁, h⟩ := takeRun_charInBytes hescapes inside offset' x (spellInBytes cs)
      rw [h, hwide_step _ _ _ hwide fun h => (hblanks h).not_blank hwide]
      exact hmore _ _ _ _

end Multiscan.Syntax
