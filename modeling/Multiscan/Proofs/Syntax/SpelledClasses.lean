import Multiscan.Proofs.Syntax.ClassesElsewhere
import Multiscan.Proofs.Syntax.SpelledItems
import Multiscan.Proofs.Syntax.Spread
/-!
# Syntax — bracketed classes spelled in bytes

A class in a pattern and its spelling are read step by step: where the pattern has one
member, the spelling has one for each byte of it (`Cursor.Spelled.classMember`), and what
is open stays open in both (`readClassAlongside`). So the same classes are read, and
no deeper (`Cursor.Spelled.bracketedClass`). A range may end in a character outside ASCII
only where no hyphen follows; behind one that was read none does
(`endsMember_of_classRest`).
-/

namespace Multiscan.Syntax

open Text (encodeChar)

variable {text : List Char} {c d : Cursor} {x : Char} {p : Char → Bool}

/-! ## What is left -/

namespace Cursor

theorem length_bump (hc : c.char? = some x) : c.bump.rest.length + 1 = c.rest.length := by
  obtain ⟨xs, hxs⟩ := List.head?_eq_some_iff.1 hc
  rcases c with ⟨_, rest, _, _, _⟩
  obtain rfl : rest = _ := hxs
  rfl

theorem length_bump_lt (hc : c.char? = some x) : c.bump.rest.length < c.rest.length :=
  Nat.lt_of_succ_le (Nat.le_of_eq (length_bump hc))

/-- What stands behind the character at the cursor. -/
theorem char?_bump (c : Cursor) : c.bump.char? = c.peek? := by
  rcases c with ⟨_, _ | ⟨x, xs⟩, _, _, _⟩ <;> rfl

theorem length_skip_le (c : Cursor) : c.skip.rest.length ≤ c.rest.length := by
  rcases c with ⟨_, rest, _ | _, _, _⟩
  · exact Nat.le_refl _
  · exact length_passBlanks_le _ _ _

/-- A cursor with a character beside itself. -/
theorem along_self (hx : c.char? = some x) : c.Along (c.bump.rest.length + 1) c :=
  ⟨rfl, rfl, rfl, rfl, Nat.le_of_eq (length_bump hx).symm⟩

/-- A reader that reads the same elsewhere takes a character. -/
theorem length_lt {α : Type} {R : α → α → Prop} {r : Except SyntaxError (α × Cursor)} {a : α}
    {c' : Cursor} (hx : c.char? = some x)
    (hread : ∀ n, c.Along (n + 1) c → Gives (Both R n) r r) (h : r = .ok (a, c')) :
    c'.rest.length < c.rest.length := by
  obtain ⟨_, _, _, hcursor⟩ := hread _ (along_self hx) _ h
  have hlength := hcursor.length
  have hbump := length_bump hx
  dsimp only at hlength
  omega

theorem length_next_lt (hc : c.char? = some x) : c.next.rest.length < c.rest.length := by
  have hskip := c.bump.length_skip_le
  have hbump := length_bump hc
  unfold Cursor.next
  omega

end Cursor

/-! ## Named classes -/

/-- A front that ends at a plain character and is plain itself is the same. -/
theorem takeWhile_spelled {cs : List Char} (hstop : ∀ x, p x = false → isPlain x = true)
    (h : ∀ x ∈ cs.takeWhile p, isPlain x = true) :
    (spellInBytes cs).takeWhile p = cs.takeWhile p := by
  induction cs with
  | nil => rfl
  | cons x cs ih =>
    cases hx : p x with
    | true =>
      rw [List.takeWhile_cons_of_pos hx] at h ⊢
      obtain ⟨hplain, hmore⟩ := List.forall_mem_cons.1 h
      rw [spellInBytes_plain hplain, List.takeWhile_cons_of_pos hx, ih hmore]
    | false =>
      rw [spellInBytes_plain (hstop x hx), List.takeWhile_cons_of_neg (Bool.eq_false_iff.1 hx),
        List.takeWhile_cons_of_neg (Bool.eq_false_iff.1 hx)]

/-- And it is plain itself if it is in the spelling. -/
theorem plain_of_takeWhile_spelled {cs : List Char} (hslash : p '\\' = true)
    (h : ∀ x ∈ (spellInBytes cs).takeWhile p, isPlain x = true) :
    ∀ x ∈ cs.takeWhile p, isPlain x = true := by
  induction cs with
  | nil => exact h
  | cons x cs ih =>
    cases hx : p x with
    | true =>
      rw [List.takeWhile_cons_of_pos hx]
      by_cases hplain : isPlain x = true
      · rw [spellInBytes_plain hplain, List.takeWhile_cons_of_pos hx] at h
        exact List.forall_mem_cons.2 ⟨hplain, ih (List.forall_mem_cons.1 h).2⟩
      · -- Otherwise a backslash shows there, which is not plain.
        have hshown : shown x = '\\' := by
          unfold shown
          split
          · next hascii =>
            by_contra hslash
            exact hplain (isPlain_iff.2 ⟨hascii, hslash⟩)
          · rfl
        have hhead := head?_spellInBytes (x :: cs)
        rw [List.head?_cons, Option.map_some, hshown] at hhead
        obtain ⟨more, hmore⟩ := List.head?_eq_some_iff.1 hhead
        rw [hmore, List.takeWhile_cons_of_pos hslash] at h
        cases (List.forall_mem_cons.1 h).1
    | false =>
      rw [List.takeWhile_cons_of_neg (Bool.eq_false_iff.1 hx)]
      exact fun _ hmem => nomatch hmem

/-- Names of classes are made of letters. -/
theorem plain_of_asciiKind? {name : List Char} {kind : AsciiKind}
    (h : asciiKind? (String.ofList name) = some kind) : ∀ x ∈ name, isPlain x = true := by
  unfold asciiKind? at h
  split at h
  case h_15 => cases h
  all_goals
    next heq =>
      rw [← String.toList_ofList (l := name), heq]
      exact List.all_eq_true.1 (by decide)

namespace Cursor.Spelled

/-- A named class stands at both places or at neither. -/
theorem asciiClass? (h : c.Spelled text d) :
    Option.Rel (Beside (fun _ _ => True) text) (asciiClass? c) (asciiClass? d) := by
  have hopen := h.after? "[:" (by decide)
  simp only [Syntax.asciiClass?]
  generalize c.after? "[:" = x, d.after? "[:" = y at hopen ⊢
  rcases hopen with hopen | _
  swap
  · exact .none
  next c₁ d₁ =>
  have hname : Cursor.Spelled text (if c₁.char? == some '^' then c₁.bump else c₁)
      (if d₁.char? == some '^' then d₁.bump else d₁) := by
    rw [hopen.char?_beq (by decide)]
    split
    · next hcaret => exact hopen.bump (beq_iff_eq.1 hcaret) (by decide)
    · exact hopen
  simp only [Option.bind_eq_bind, Option.bind_some]
  generalize (if c₁.char? == some '^' then c₁.bump else c₁) = c₂,
    (if d₁.char? == some '^' then d₁.bump else d₁) = d₂ at hname ⊢
  have hcolon : ∀ x : Char, (x != ':') = false → isPlain x = true := by
    intro x hx
    obtain rfl : x = ':' := by simpa using hx
    decide
  by_cases hplain : ∀ x ∈ c₂.rest.takeWhile (· != ':'), isPlain x = true
  · have hsame : d₂.rest.takeWhile (· != ':') = c₂.rest.takeWhile (· != ':') := by
      rw [hname.rest, takeWhile_spelled hcolon hplain]
    have hclose := (hname.bumps List.takeWhile_append_dropWhile.symm hplain).after? ":]" (by decide)
    rw [hsame]
    generalize (List.foldl _ c₂ _).after? ":]" = x, (List.foldl _ d₂ _).after? ":]" = y
      at hclose ⊢
    rcases hclose with hclose | _
    · simp only [Option.bind_some]
      cases asciiKind? _
      · exact .none
      · exact .some ⟨trivial, hclose⟩
    · exact .none
  · -- Neither is the name of a class.
    have hkind : asciiKind? (String.ofList (c₂.rest.takeWhile (· != ':'))) = none :=
      Option.eq_none_iff_forall_ne_some.2 fun kind h => hplain (plain_of_asciiKind? h)
    have hkind' : asciiKind? (String.ofList (d₂.rest.takeWhile (· != ':'))) = none := by
      refine Option.eq_none_iff_forall_ne_some.2 fun kind h => hplain ?_
      have hspelled := plain_of_asciiKind? h
      rw [hname.rest] at hspelled
      exact plain_of_takeWhile_spelled (by decide) hspelled
    simp only [hkind, hkind', Option.bind_none, Option.bind_fun_none]
    exact .none

variable {m m' : Members}

/-- Hyphens that come first are the same. -/
theorem leadingHyphens {start start' : Nat} (h : c.Spelled text d)
    (hm : Spreads ClassSet.tooDeep? m.items m'.items) {fuel fuel' : Nat}
    (hfuel : c.rest.length ≤ fuel) (hfuel' : d.rest.length ≤ fuel') :
    Gives (Beside (fun m m' => Spreads ClassSet.tooDeep? m.items m'.items) text)
      (leadingHyphens start fuel m c) (leadingHyphens start' fuel' m' d) := by
  have hone {m m' : Members} (hm : Spreads ClassSet.tooDeep? m.items m'.items) (x : Char)
      (s s' : Span) : Spreads ClassSet.tooDeep? (m.push (.literal ⟨s, .verbatim, x⟩)).items
        (m'.push (.literal ⟨s', .verbatim, x⟩)).items :=
    hm.push (.one fun _ _ _ _ _ _ => rfl)
  induction fuel generalizing c d m m' fuel' with
  | zero =>
    have hend : d.char? = none := by
      rw [h.char?, Cursor.char?, List.length_eq_zero_iff.1 (Nat.le_zero.1 hfuel)]
      rfl
    cases fuel' with
    | zero => exact .ok ⟨hm, h⟩
    | succ fuel' =>
      simp only [Syntax.leadingHyphens, hend]
      exact .ok ⟨hm, h⟩
  | succ fuel ih =>
    by_cases hx : c.char? = some '-'
    · have hd := (h.char?_eq_iff (by decide)).2 hx
      have hnext := h.next hx (by decide)
      have hlength := Cursor.length_next_lt hx
      have hlength' := Cursor.length_next_lt hd
      cases fuel' with
      | zero => omega
      | succ fuel' =>
        simp only [Syntax.leadingHyphens, hx, hd, if_true, hnext.isNone_char?]
        split
        · exact .error
        · exact ih hnext (hone hm _ _ _) (by omega) (by omega)
    · have hd : d.char? ≠ some '-' := fun hd => hx ((h.char?_eq_iff (by decide)).1 hd)
      simp only [Syntax.leadingHyphens, if_neg hx]
      cases fuel' with
      | zero => exact .ok ⟨hm, h⟩
      | succ fuel' =>
        simp only [Syntax.leadingHyphens, if_neg hd]
        exact .ok ⟨hm, h⟩

/-- **A bracket is opened** in the spelling as in the pattern. -/
theorem openBracket (h : c.Spelled text d) (hc : c.char? = some '[') :
    Gives (fun a b => b.1 = a.1 ∧ Spreads ClassSet.tooDeep? a.2.1.items b.2.1.items ∧
      a.2.2.Spelled text b.2.2) (openBracket c) (openBracket d) := by
  have hnext := h.next hc (by decide)
  have hfirst : Cursor.Spelled text (if c.next.char? == some '^' then c.next.next else c.next)
      (if c.next.char? == some '^' then d.next.next else d.next) := by
    split
    · next hcaret => exact hnext.next (beq_iff_eq.1 hcaret) (by decide)
    · exact hnext
  simp only [Syntax.openBracket, hnext.isNone_char?, hnext.char?_beq (x := '^') (by decide)]
  split
  · exact .throw
  generalize (if c.next.char? == some '^' then c.next.next else c.next) = c₁,
    (if c.next.char? == some '^' then d.next.next else d.next) = d₁ at hfirst ⊢
  rw [hfirst.isNone_char?]
  split
  · exact .throw
  have hnone : Spreads ClassSet.tooDeep? (Members.none c₁).items (Members.none d₁).items := .nil
  refine (hfirst.leadingHyphens hnone (Nat.le_refl _) (Nat.le_refl _)).bind ?_
  rintro ⟨m, c₂⟩ ⟨m', d₂⟩ ⟨hm, hbehind⟩
  simp only [hm.isEmpty, hbehind.char?_beq (x := ']') (by decide)]
  split
  · next hbracket =>
    have hnext := hbehind.next (beq_iff_eq.1 (Bool.and_eq_true_iff.1 hbracket).2) (by decide)
    simp only [hnext.isNone_char?]
    split
    · exact .throw
    · exact .ok ⟨rfl, hm.push (.one fun _ _ _ _ _ _ => rfl), hnext⟩
  · exact .ok ⟨rfl, hm, hbehind⟩

end Cursor.Spelled

/-! ## Members -/

section

variable {c' : Cursor} {lo : Atom} {item set : ClassSet} {stack : List OpenSet} {fuel : Nat}

/-- A member ends here: no hyphen stands here that makes it the start of a range. -/
def Cursor.EndsMember (c : Cursor) : Prop :=
  ∃ x, c.char? = some x ∧
    (x = '-' → c.peekPastBlanks? = some ']' ∨ c.peekPastBlanks? = some '-')

/-- A range that is read at a cursor behind its first end `lo`. -/
structure RangeRead (lo : Atom) (c : Cursor) (item : ClassSet) (c' : Cursor) : Prop where
  hyphen : c.char? = some '-'
  open_ended : ¬ c.EndsMember
  ends : ∃ y hi first last, c.next.char? = some y ∧ classAtom c.next y = .ok (hi, c') ∧
    lo.toRangeEnd = .ok first ∧ hi.toRangeEnd = .ok last ∧ first.char ≤ last.char ∧
    item = .range ⟨lo.span.start, hi.span.stop⟩ first last

/-- **A member is read** alone or as the start of a range. -/
theorem classRange_eq_ok {r : ClassSet × Cursor} :
    classRange stack c x = .ok r ↔ ∃ lo c₁, classAtom c x = .ok (lo, c₁) ∧
      (c₁.skip.EndsMember ∧ lo.toClassSet = .ok r.1 ∧ r.2 = c₁.skip ∨
        RangeRead lo c₁.skip r.1 r.2) := by
  have hyphen_iff {c : Cursor} (hx : c.char? = some '-') : c.EndsMember ↔
      (c.peekPastBlanks? == some ']' || c.peekPastBlanks? == some '-') = true := by
    rw [Bool.or_eq_true, beq_iff_eq, beq_iff_eq]
    constructor
    · rintro ⟨z, hz, hhyphen⟩
      rw [hx] at hz
      exact hhyphen (Option.some.inj hz).symm
    · exact fun h => ⟨'-', hx, fun _ => h⟩
  rw [classRange, bind_eq_ok]
  constructor
  · rintro ⟨⟨lo, c₁⟩, hlo, h⟩
    refine ⟨lo, c₁, hlo, ?_⟩
    dsimp only at h
    split at h
    · cases h
    · next hx =>
      split at h
      · next hend =>
        obtain ⟨set, hset, h⟩ := bind_eq_ok.1 h
        cases h
        exact .inl ⟨(hyphen_iff hx).2 hend, hset, rfl⟩
      · next hend =>
        split at h
        · cases h
        · next y hy =>
          obtain ⟨⟨hi, c₂⟩, hhi, h⟩ := bind_eq_ok.1 h
          obtain ⟨first, hfirst, h⟩ := bind_eq_ok.1 h
          obtain ⟨last, hlast, h⟩ := bind_eq_ok.1 h
          split at h
          · next hle =>
            cases h
            exact .inr ⟨hx, fun h => hend ((hyphen_iff hx).1 h), y, hi, first, last, hy, hhi, hfirst,
              hlast, hle, rfl⟩
          · cases h
    · next z hz hchar =>
      obtain ⟨set, hset, h⟩ := bind_eq_ok.1 h
      cases h
      exact .inl ⟨⟨z, hchar, fun h => absurd h hz⟩, hset, rfl⟩
  · rintro ⟨lo, c₁, hlo, hread⟩
    refine ⟨⟨lo, c₁⟩, hlo, ?_⟩
    obtain ⟨item, c'⟩ := r
    rcases hread with ⟨hend, hset, hcursor⟩ | ⟨hx, hend, hends⟩
    · obtain rfl : c' = c₁.skip := hcursor
      obtain ⟨z, hz, -⟩ := id hend
      by_cases hhyphen : z = '-'
      · subst hhyphen
        simp only [hz, (hyphen_iff hz).1 hend, if_true]
        exact bind_eq_ok.2 ⟨item, hset, rfl⟩
      · simp only [hz]
        exact bind_eq_ok.2 ⟨item, hset, rfl⟩
    · obtain ⟨y, hi, first, last, hy, hhi, hfirst, hlast, hle, rfl⟩ := hends
      simp only [hx, if_neg fun h => hend ((hyphen_iff hx).2 h), hy]
      refine bind_eq_ok.2 ⟨(hi, c'), hhi, bind_eq_ok.2 ⟨first, hfirst, bind_eq_ok.2 ⟨last, hlast, ?_⟩⟩⟩
      exact if_pos hle

theorem isPlain_of_setOp? {kind : SetOp} (h : setOp? x = some kind) : isPlain x = true := by
  unfold setOp? at h
  split at h
  case h_4 => cases h
  all_goals decide

/-- A member starts here with a character: neither a bracket nor the sign of an operation
stands here. -/
structure Cursor.AtMember (c : Cursor) (x : Char) : Prop where
  char : c.char? = some x
  opens : x ≠ '['
  closes : x ≠ ']'
  sign : ∀ kind, setOp? x = some kind → c.peek? ≠ some x

variable {m : Members}

theorem classRest_skip (fuel : Nat) (stack : List OpenSet) (m : Members) (c : Cursor) :
    classRest fuel stack m c.skip = classRest fuel stack m c := by
  cases fuel with
  | zero => rfl
  | succ fuel => simp only [classRest, Cursor.skip_skip]

/-- Where the sign of an operation stands twice, its right side is read. -/
theorem classRest_operation {kind : SetOp} (hx : c.skip.char? = some x)
    (hkind : setOp? x = some kind) (hpeek : c.skip.peek? = some x) (fuel : Nat)
    (stack : List OpenSet) (m : Members) :
    classRest (fuel + 1) stack m c =
      classRest fuel (.operation kind (closeOperation m.toSet stack).1 ::
        (closeOperation m.toSet stack).2) (Members.none c.skip.bump.bump) c.skip.bump.bump := by
  simp only [classRest, hx]
  split
  · next h => cases h
  · next h =>
    cases h
    cases hkind
  · next h =>
    cases h
    cases hkind
  · next h =>
    cases h
    simp only [hkind, hpeek, beq_self_eq_true, if_true]

/-- Where a member starts, it is read. -/
theorem classRest_member (h : c.skip.AtMember x) (fuel : Nat) (stack : List OpenSet)
    (m : Members) :
    classRest (fuel + 1) stack m c =
      classRange stack c.skip x >>= fun r => classRest fuel stack (m.push r.1) r.2 := by
  obtain ⟨hchar, hopens, hcloses, hsign⟩ := h
  simp only [classRest, hchar]
  split
  · next kind hkind => rw [if_neg fun h => hsign kind hkind (beq_iff_eq.1 h)]
  · rfl

namespace Cursor.Spelled

/-- A member ends in the spelling where it does in the pattern. -/
theorem endsMember (h : c.Spelled text d) (hc : c.EndsMember) : d.EndsMember := by
  obtain ⟨x, hx, hhyphen⟩ := hc
  refine ⟨shown x, by rw [h.char?, hx, Option.map_some], fun hshown => ?_⟩
  obtain rfl := (shown_eq_iff (by decide)).1 hshown
  rw [h.peekPastBlanks? hx (by decide)]
  rcases hhyphen rfl with hpeek | hpeek <;> rw [hpeek]
  · exact .inl rfl
  · exact .inr rfl

/-- And only there. -/
theorem not_endsMember (h : c.Spelled text d) (hx : c.char? = some '-') (hc : ¬ c.EndsMember) :
    ¬ d.EndsMember := by
  rintro ⟨y, hy, hhyphen⟩
  have hd := (h.char?_eq_iff (by decide)).2 hx
  rw [hd] at hy
  have hpeek := hhyphen (Option.some.inj hy).symm
  rw [h.peekPastBlanks? hx (by decide)] at hpeek
  refine hc ⟨'-', hx, fun _ => ?_⟩
  rcases hpeek with hpeek | hpeek
  · obtain ⟨z, hz, hshown⟩ := Option.map_eq_some_iff.1 hpeek
    exact .inl (hz.trans (congrArg some ((shown_eq_iff (by decide)).1 hshown)))
  · obtain ⟨z, hz, hshown⟩ := Option.map_eq_some_iff.1 hpeek
    exact .inr (hz.trans (congrArg some ((shown_eq_iff (by decide)).1 hshown)))

/-- A member starts in the spelling where it does in the pattern. -/
theorem atMember (h : c.Spelled text d) (hc : c.AtMember x) (hx : x.toNat < 128) :
    d.AtMember x := by
  obtain ⟨hchar, hopens, hcloses, hsign⟩ := hc
  refine ⟨?_, hopens, hcloses, fun kind hkind hpeek => ?_⟩
  · rw [h.char?, hchar, Option.map_some, shown_of_ascii hx]
  · have hplain := isPlain_of_setOp? hkind
    rw [h.peek? hchar hplain] at hpeek
    obtain ⟨z, hz, hshown⟩ := Option.map_eq_some_iff.1 hpeek
    exact hsign kind hkind (hz.trans (congrArg some ((shown_eq_iff hplain).1 hshown)))

end Cursor.Spelled

/-- A member ends where bytes are still to be read. -/
theorem Cursor.Pending.endsMember {bs : List UInt8} (h : c.Pending text bs d)
    (hend : bs = [] → c.skip.EndsMember) : d.skip.EndsMember := by
  cases bs with
  | nil => exact h.spelled.skip.endsMember (hend rfl)
  | cons b bs =>
    rw [h.skip]
    exact ⟨'\\', h.char?, fun h => absurd h (by decide)⟩

/-- **The bytes that are still to be read** of a character are members one by one. -/
theorem Cursor.Pending.classRest {bs more : List UInt8} (h : c.Pending text (bs ++ more) d)
    (hend : bs ≠ [] → more = [] → c.skip.EndsMember) (hfuel : d.rest.length < fuel) (stack : List OpenSet)
    (m : Members) :
    ∃ fuel' e m' ls, classRest fuel stack m d = classRest fuel' stack m' e ∧
      m'.items = m.items ++ List.map ClassSet.literal ls ∧ c.Pending text more e ∧
      e.rest.length < fuel' := by
  induction bs generalizing d m fuel with
  | nil => exact ⟨fuel, d, m, [], rfl, (List.append_nil _).symm, h, hfuel⟩
  | cons b bs ih =>
    obtain ⟨l, e, hread, -, hrest, hlength⟩ := h.escape
    have hmember : d.skip.AtMember '\\' := by
      rw [h.skip]
      exact ⟨h.char?, by decide, by decide, fun _ hkind => nomatch hkind⟩
    have hends : e.skip.skip.EndsMember := by
      rw [Cursor.skip_skip]
      exact hrest.endsMember fun hnil =>
        hend (List.cons_ne_nil _ _) (List.append_eq_nil_iff.1 hnil).2
    have hrange : classRange stack d.skip '\\' = .ok (.literal l, e.skip) := by
      rw [h.skip]
      exact classRange_eq_ok.2 ⟨.literal l, e.skip, hread, .inl ⟨hends, rfl, (e.skip_skip).symm⟩⟩
    cases fuel with
    | zero => cases hfuel
    | succ fuel =>
      have hfuel' : e.rest.length < fuel := by omega
      obtain ⟨fuel', e', m', ls, hclass, hitems, hpending, hlt⟩ :=
        ih hrest (fun _ => hend (List.cons_ne_nil _ _)) hfuel' (m.push (.literal l))
      refine ⟨fuel', e', m', l :: ls, ?_, ?_, hpending, hlt⟩
      · rw [classRest_member hmember, hrange, ← hclass, ← classRest_skip fuel stack _ e]
        rfl
      · rw [hitems, Members.push, List.map_cons, List.append_assoc, List.singleton_append]

end

/-! ## Ends of ranges -/

/-- What is escaped is not written as itself. -/
theorem form_of_hexEscape {start : Nat} {l : Literal} {c' : Cursor}
    (h : hexEscape start c = .ok (l, c')) : l.form ≠ .verbatim := by
  simp only [hexEscape] at h
  split at h
  · cases h
  · split at h
    · cases h
    · split at h
      · cases h
      · split at h
        · cases h
        · cases h
          exact LiteralForm.noConfusion
    · cases h
  · obtain ⟨⟨digits, c₁⟩, -, h⟩ := bind_eq_ok.1 h
    dsimp only at h
    split at h
    · cases h
    · cases h
      dsimp only
      split <;> exact LiteralForm.noConfusion

theorem form_of_escape {l : Literal} {c' : Cursor} (h : escape c = .ok (.literal l, c')) :
    l.form ≠ .verbatim := by
  simp only [escape] at h
  split at h
  · cases h
  split at h
  · cases h
  split at h
  · obtain ⟨⟨l', c₁⟩, hl, h⟩ := bind_eq_ok.1 h
    cases h
    exact form_of_hexEscape hl
  split at h
  · obtain ⟨⟨q, c₁⟩, -, h⟩ := bind_eq_ok.1 h
    cases h
  split at h
  · cases h
  split at h
  · cases h
    exact LiteralForm.noConfusion
  split at h
  · cases h
    exact LiteralForm.noConfusion
  split at h
  · cases h
  · split at h
    · obtain ⟨o, -, h⟩ := bind_eq_ok.1 h
      split at h <;> cases h
    · cases h
  · cases h

/-- What is put for the first end of a range can be put for it as a member and as an
end. -/
structure Atom.Leads (lo lo' : Atom) : Prop where
  alone : ∀ set, lo.toClassSet = .ok set → ∃ set', lo'.toClassSet = .ok set' ∧
    ∀ limit depth, set'.tooDeep? limit depth = none
  low : ∀ l, lo.toRangeEnd = .ok l → ∃ l', lo'.toRangeEnd = .ok l' ∧ l'.char ≤ l.char ∧
    (l.form = .verbatim → l'.char.toNat < 0xC0)

theorem Atom.Alike.leads {lo lo' : Atom} {c' : Cursor} (h : lo.Alike lo')
    (hread : classAtom c x = .ok (lo, c')) (hx : x.toNat < 128) : lo.Leads lo' := by
  cases h with
  | literal s s' form y =>
    constructor
    · rintro _ ⟨⟩
      exact ⟨_, rfl, fun _ _ => rfl⟩
    · rintro _ ⟨⟩
      refine ⟨_, rfl, Char.le_refl _, fun hform => ?_⟩
      unfold classAtom at hread
      split at hread
      · exact absurd hform (form_of_escape hread)
      · cases hread
        exact Nat.lt_trans hx (by decide)
  | assertion s s' kind => exact ⟨fun _ h => (nomatch h), fun _ h => (nomatch h)⟩
  | dot s s' => exact ⟨fun _ h => (nomatch h), fun _ h => (nomatch h)⟩
  | shorthand s s' kind negated =>
    refine ⟨?_, fun _ h => (nomatch h)⟩
    rintro _ ⟨⟩
    exact ⟨_, rfl, fun _ _ => rfl⟩
  | property c c' =>
    refine ⟨?_, fun _ h => (nomatch h)⟩
    rintro _ ⟨⟩
    exact ⟨_, rfl, fun _ _ => rfl⟩

theorem char_le_of_toNat {x y : Char} (h : x.toNat ≤ y.toNat) : x ≤ y :=
  UInt32.le_iff_toNat_le.2 h

/-- The last byte of a character outside ASCII is put for it. -/
theorem leads_of_wide {b : UInt8} {l : Literal} (hl : (bytePiece b).Of l) (hb : b.toNat < 0xC0)
    (hle : b.toNat ≤ x.toNat) (s : Span) :
    (Atom.literal ⟨s, .verbatim, x⟩).Leads (.literal l) := by
  have hchar : l.char.toNat = b.toNat := by
    rw [hl.2]
    exact Text.toNat_charOfNat (Text.isValidChar_toNat b)
  constructor
  · rintro _ ⟨⟩
    exact ⟨_, rfl, fun _ _ => rfl⟩
  · rintro _ ⟨⟩
    exact ⟨l, rfl, char_le_of_toNat (by rw [hchar]; exact hle), fun _ => by rwa [hchar]⟩

theorem Cursor.length_classAtom_lt {c' : Cursor} {a : Atom} (hx : c.char? = some x)
    (h : classAtom c x = .ok (a, c')) : c'.rest.length < c.rest.length :=
  length_lt hx (fun _ hself => hself.classAtom x) h

section

variable {c' c₁ : Cursor} {lo : Atom} {item : ClassSet} {stack : List OpenSet} {fuel : Nat}

theorem Cursor.length_classRange_lt (hx : c.char? = some x)
    (h : classRange stack c x = .ok (item, c')) : c'.rest.length < c.rest.length := by
  obtain ⟨lo, c₁, hlo, ⟨-, -, rfl⟩ | ⟨hx', -, y, hi, -, -, hy, hhi, -⟩⟩ := classRange_eq_ok.1 h
  · exact Nat.lt_of_le_of_lt c₁.length_skip_le (length_classAtom_lt hx hlo)
  · have hlow := length_classAtom_lt hx hlo
    have hhigh := length_classAtom_lt hy hhi
    have hnext := length_next_lt hx'
    have hskip := c₁.length_skip_le
    dsimp only at hhigh
    omega

/-- What the bytes of a member begin with: all before its last atom, which is then
read. -/
theorem Cursor.Spelled.first_end (h : c.Spelled text d) (hskip : d.skip = d) (hc : c.AtMember x)
    (hlo : Syntax.classAtom c x = .ok (lo, c₁)) (hspell : lo.Spellable) (hfuel : d.rest.length < fuel)
    (stack : List OpenSet) (m : Members) :
    ∃ fuel' d' m' ls x' lo' d₁, classRest fuel stack m d = classRest fuel' stack m' d' ∧
      m'.items = m.items ++ List.map ClassSet.literal ls ∧ d'.rest.length < fuel' ∧
      d'.skip = d' ∧ d'.AtMember x' ∧ Syntax.classAtom d' x' = .ok (lo', d₁) ∧ lo.Leads lo' ∧
      c₁.skip.Spelled text d₁.skip := by
  by_cases hx : x.toNat < 128
  · obtain ⟨⟨lo', d₁⟩, hlo', halike, hbehind⟩ := h.classAtom hc.char hx _ hlo hspell
    exact ⟨fuel, d, m, [], x, lo', d₁, rfl, (List.append_nil _).symm, hfuel, hskip, h.atMember hc hx, hlo',
      halike.leads hlo hx, hbehind.skip⟩
  · have hslash : (x == '\\') = false := beq_eq_false_iff_ne.2 (ne_of_wide hx (by decide))
    rw [Syntax.classAtom, hslash, if_neg Bool.false_ne_true] at hlo
    cases hlo
    obtain ⟨lead, mid, last, hbytes, -, hlast, hle⟩ := Text.exists_encodeChar_wide hx
    have hpending := Cursor.Pending.of_wide h hc.char hx
    rw [hbytes, ← List.cons_append] at hpending
    obtain ⟨fuel', e, m', ls, hclass, hitems, hpending, hlt⟩ :=
      hpending.classRest (fun _ h => nomatch h) hfuel stack m
    obtain ⟨l, e', hread, hl, hend, -⟩ := hpending.escape
    refine ⟨fuel', e, m', ls, '\\', .literal l, e'.skip, hclass, hitems, hlt, hpending.skip,
      ⟨hpending.char?, by decide, by decide, fun _ hkind => nomatch hkind⟩, hread,
      leads_of_wide hl hlast hle _, ?_⟩
    rw [Cursor.skip_skip]
    exact hend.spelled.skip

/-- What is put for a member or for a range of members. -/
theorem Cursor.Spelled.classRange {lo' : Atom} {d₁ : Cursor} {x' : Char}
    (hbehind : c₁.skip.Spelled text d₁.skip) (hlo' : Syntax.classAtom d x' = .ok (lo', d₁))
    (hleads : lo.Leads lo')
    (hread : c₁.skip.EndsMember ∧ lo.toClassSet = .ok item ∧ c' = c₁.skip ∨
      RangeRead lo c₁.skip item c')
    (hgood : item.Spellable) (stack : List OpenSet) :
    ∃ item' d' bs, Syntax.classRange stack d x' = .ok (item', d') ∧
      (∀ limit depth, item'.tooDeep? limit depth = none) ∧ c'.Pending text bs d' ∧
      (bs ≠ [] → item.EndsWide) := by
  rcases hread with ⟨hend, hset, rfl⟩ | ⟨hx, hend, y, hi, first, last, hy, hhi, hfirst, hlast, hle, rfl⟩
  · obtain ⟨set', hset', hflat⟩ := hleads.alone _ hset
    exact ⟨set', d₁.skip, [], classRange_eq_ok.2 ⟨lo', d₁, hlo', .inl ⟨hbehind.endsMember hend, hset',
      rfl⟩⟩, hflat, .of_spelled hbehind, fun h => absurd rfl h⟩
  obtain ⟨first', hfirst', hlow, hverbatim⟩ := hleads.low _ hfirst
  have hnext := hbehind.next hx (by decide)
  have hhyphen := (hbehind.char?_eq_iff (by decide)).2 hx
  have hopen := hbehind.not_endsMember hx hend
  cases hi with
  | assertion s kind => cases hlast
  | dot s => cases hlast
  | shorthand q => cases hlast
  | property q => cases hlast
  | literal l =>
    obtain rfl := Except.ok.inj hlast
    by_cases hascii : y.toNat < 128
    · obtain ⟨⟨hi', d₂⟩, hhi', halike, hrest⟩ := hnext.classAtom hy hascii _ hhi trivial
      have hy' : d₁.skip.next.char? = some y := by
        rw [hnext.char?, hy, Option.map_some, shown_of_ascii hascii]
      cases halike with
      | literal s s' form z =>
        exact ⟨_, d₂, [], classRange_eq_ok.2 ⟨lo', d₁, hlo', .inr ⟨hhyphen, hopen, y, _, first', _,
          hy', hhi', hfirst', rfl, Char.le_trans hlow hle, rfl⟩⟩, fun _ _ => rfl,
          .of_spelled hrest, fun h => absurd rfl h⟩
    · -- The range goes up to the first byte only, and the others are still to be read.
      have hslash : (y == '\\') = false := beq_eq_false_iff_ne.2 (ne_of_wide hascii (by decide))
      rw [Syntax.classAtom, hslash, if_neg Bool.false_ne_true] at hhi
      cases hhi
      obtain ⟨lead, mid, final, hbytes, hlead, -, -⟩ := Text.exists_encodeChar_wide hascii
      have hpending := Cursor.Pending.of_wide hnext hy hascii
      rw [hbytes] at hpending
      obtain ⟨l', e, hread, hl', hmore, -⟩ := hpending.escape
      have hchar : l'.char.toNat = lead.toNat := by
        rw [hl'.2]
        exact Text.toNat_charOfNat (Text.isValidChar_toNat lead)
      have hle' : first'.char ≤ l'.char := by
        refine char_le_of_toNat ?_
        rw [hchar]
        rcases hgood ⟨rfl, hascii⟩ with hform | hbound
        · exact Nat.le_of_lt (Nat.lt_of_lt_of_le (hverbatim hform) hlead)
        · have hfirst_le := hbound lead (by rw [hbytes]; rfl)
          exact Nat.le_trans (UInt32.le_iff_toNat_le.1 hlow) hfirst_le
      have hskip : e.skip = e := hmore.skip_of_ne_nil (by simp)
      rw [hskip] at hread
      exact ⟨_, e, mid ++ [final], classRange_eq_ok.2 ⟨lo', d₁, hlo', .inr ⟨hhyphen, hopen, '\\',
        _, first', _, hpending.char?, hread, hfirst', rfl, hle', rfl⟩⟩, fun _ _ => rfl, hmore,
        fun _ => ⟨rfl, hascii⟩⟩

/-- **What is put for a member**: members without levels, behind which the places belong
together again. -/
theorem Cursor.Spelled.classMember (h : c.Spelled text d) (hskip : d.skip = d)
    (hc : c.AtMember x) (hread : Syntax.classRange stack c x = .ok (item, c'))
    (hgood : item.Spellable) (hend : item.EndsWide → c'.skip.EndsMember)
    (hfuel : d.rest.length < fuel) (stack' : List OpenSet) {m m' : Members}
    (hm : Spreads ClassSet.tooDeep? m.items m'.items) :
    ∃ fuel' e m'', Syntax.classRest fuel stack' m' d = Syntax.classRest fuel' stack' m'' e ∧
      Spreads ClassSet.tooDeep? (m.push item).items m''.items ∧ c'.Spelled text e ∧
      e.rest.length < fuel' := by
  obtain ⟨lo, c₁, hlo, hread⟩ := classRange_eq_ok.1 hread
  -- A property class is a member alone.
  have hspell : lo.Spellable := by
    cases lo with
    | property q =>
      rcases hread with ⟨-, hset, -⟩ | ⟨-, -, y, hi, first, last, -, -, hfirst, -⟩
      · obtain rfl := Except.ok.inj hset
        exact hgood
      · cases hfirst
    | _ => trivial
  obtain ⟨fuel₁, d₁, m₁, ls, x', lo', d₂, hclass₁, hitems₁, hfuel₁, hskip₁, hmember, hlo', hleads,
    hbehind⟩ := h.first_end hskip hc hlo hspell hfuel stack' m'
  obtain ⟨item', d₃, bs, hrange, hflat, hpending, hwide⟩ :=
    hbehind.classRange hlo' hleads hread hgood stack'
  have hlength := Cursor.length_classRange_lt hmember.char hrange
  cases fuel₁ with
  | zero => cases hfuel₁
  | succ fuel₁ =>
  have hfuel₃ : d₃.rest.length < fuel₁ := by omega
  rw [← List.append_nil bs] at hpending
  obtain ⟨fuel', e, m'', ls', hclass, hitems, hrest, hlt⟩ :=
    hpending.classRest (fun hne _ => hend (hwide hne)) hfuel₃ stack' (m₁.push item')
  refine ⟨fuel', e, m'', ?_, ?_, hrest.spelled, hlt⟩
  · rw [hclass₁, classRest_member (hskip₁.symm ▸ hmember), hskip₁, hrange, ← hclass]
    rfl
  · have hsets : m''.items = m'.items ++
        (ls.map ClassSet.literal ++ item' :: ls'.map ClassSet.literal) := by
      rw [hitems, Members.push, hitems₁, List.append_assoc, List.append_assoc,
        List.singleton_append]
    rw [hsets]
    refine hm.push (spread_of_flat_sets (by simp) (fun set hset => ?_) item)
    rcases List.mem_append.1 hset with hset | hset
    · obtain ⟨l, -, rfl⟩ := List.mem_map.1 hset
      exact fun _ _ => rfl
    · rcases List.mem_cons.1 hset with rfl | hset
      · exact hflat
      · obtain ⟨l, -, rfl⟩ := List.mem_map.1 hset
        exact fun _ _ => rfl

end

/-! ## Classes -/

section

variable {c' : Cursor} {item : ClassSet} {stack stack' : List OpenSet} {m m' : Members}
variable {fuel : Nat} {t : Tree}

/-- What is read at a hyphen starts with it. -/
theorem startsHyphen_of_classRange (h : classRange stack c '-' = .ok (item, c')) :
    item.StartsHyphen := by
  obtain ⟨lo, c₁, hlo, ⟨-, hset, -⟩ | ⟨-, -, y, hi, first, last, -, -, hfirst, -, -, hitem⟩⟩ :=
    classRange_eq_ok.1 h
  · cases hlo
    obtain rfl := Except.ok.inj hset
    exact ⟨rfl, rfl⟩
  · cases hlo
    obtain rfl := Except.ok.inj hfirst
    obtain rfl : item = _ := hitem
    exact ⟨rfl, rfl⟩

/-- What stands behind the hyphen at the cursor is not passed over if it is another. -/
theorem peekPastBlanks?_of_peek? (h : c.peek? = some '-') : c.peekPastBlanks? = some '-' := by
  unfold Cursor.peekPastBlanks?
  split
  · obtain ⟨xs, hxs⟩ := List.head?_eq_some_iff.1 h
    rw [hxs]
    rfl
  · exact h

/-- **Behind a range up to a character outside ASCII** no hyphen stands that would be
taken for the sign of another range. -/
theorem endsMember_of_classRest (h : classRest fuel stack (m.push item) c = .ok (t, c'))
    (hopen : stack ≠ []) (ht : t.Spellable text) (hwide : item.EndsWide) : c.skip.EndsMember := by
  cases fuel with
  | zero => cases h
  | succ fuel =>
    cases hx : c.skip.char? with
    | none =>
      simp only [classRest, hx] at h
      cases h
    | some x =>
      refine ⟨x, hx, ?_⟩
      rintro rfl
      by_cases hpeek : c.skip.peek? = some '-'
      · exact .inr (peekPastBlanks?_of_peek? hpeek)
      · have hmember : c.skip.AtMember '-' := ⟨hx, by decide, by decide, fun _ _ => hpeek⟩
        rw [classRest_member hmember] at h
        obtain ⟨⟨next, c₁⟩, hnext, h⟩ := bind_eq_ok.1 h
        have hm := (spellable_of_classRest h hopen ht).1
        exact absurd ⟨hwide, startsHyphen_of_classRange hnext⟩ hm.apart_of_push

theorem Cursor.length_after? {sign : String} (h : c.after? sign = some c') :
    c'.rest.length + sign.toList.length = c.rest.length := by
  unfold Cursor.after? at h
  split at h
  · next hprefix =>
    cases h
    obtain ⟨cs, hcs⟩ := List.isPrefixOf_iff_prefix.1 hprefix
    rw [Cursor.rest_bumps hcs.symm, ← hcs, List.length_append, Nat.add_comm]
  · cases h

theorem Cursor.length_asciiClass?_lt {a : AsciiClass × Cursor} (h : asciiClass? c = some a) :
    a.2.rest.length < c.rest.length := by
  simp only [asciiClass?, Option.bind_eq_bind, Option.bind_eq_some_iff] at h
  obtain ⟨c₁, hopen, c₂, hclose, kind, -, ha⟩ := h
  cases ha
  have hsign := length_after? hopen
  have hself : c₁.Along c₁.rest.length c₁ := ⟨rfl, rfl, rfl, rfl, Nat.le_refl _⟩
  have hname := hself.bump_le.choose (c₁.char? == some '^') hself
  generalize (if c₁.char? == some '^' then c₁.bump else c₁) = c₃ at hclose hname
  have hbehind := (hname.bumps (c₃.rest.takeWhile (· != ':'))).length
  have hend := length_after? hclose
  change c₁.rest.length + 2 = _ at hsign
  dsimp only
  omega

theorem Cursor.length_openBracket_lt {r : Bool × Members × Cursor} (hx : c.char? = some x)
    (h : openBracket c = .ok r) : r.2.2.rest.length < c.rest.length := by
  obtain ⟨_, _, _, _, hcursor⟩ := (along_self hx).openBracket _ h
  have hlength := hcursor.length
  have hbump := length_bump hx
  omega

/-- A class that can be spelled is read from the spelling too, at most a level deeper. -/
abbrev GivesClass (text : List Char) (r r' : Except SyntaxError (Tree × Cursor)) : Prop :=
  GivesIf (fun a => a.1.Spellable text)
    (Beside (fun t t' => Deepens Tree.tooDeep? 0 t t' ∧ t'.Repeats) text) r r'

/-- Two readers at the same place inside a class, of a pattern and of its spelling: as
much is read and as much is open in both, and the second has steps enough. -/
structure AlongsideInClass (text : List Char) (fuel' : Nat) (stack stack' : List OpenSet)
    (m m' : Members) (c d : Cursor) : Prop where
  spelled : c.Spelled text d
  items : Spreads ClassSet.tooDeep? m.items m'.items
  opens : stack ≠ []
  stack : List.Forall₂ (OpenSet.Rel (fun m m' => Spreads ClassSet.tooDeep? m.items m'.items)
    (Deepens ClassSet.tooDeep? 0)) stack stack'
  enough : d.rest.length < fuel'

/-- What is left of a class is read in the spelling too, where `fuel` steps read it. -/
def ReadClassAlongside (text : List Char) (fuel : Nat) : Prop :=
  ∀ ⦃fuel' stack stack' m m' c d⦄, AlongsideInClass text fuel' stack stack' m m' c d →
    GivesClass text (classRest fuel stack m c) (classRest fuel' stack' m' d)

namespace ReadClassAlongside

variable {fuel' : Nat}

/-- **A member** stands for the members that are put for it. -/
theorem member (hread : ReadClassAlongside text fuel)
    (h : AlongsideInClass text (fuel' + 1) stack stack' m m' c d) (hc : c.skip.AtMember x) :
    GivesClass text (classRest (fuel + 1) stack m c) (classRest (fuel' + 1) stack' m' d) := by
  rintro ⟨t, c'⟩ hclass ht
  rw [classRest_member hc] at hclass
  obtain ⟨⟨item, c₁⟩, hitem, hrest⟩ := bind_eq_ok.1 hclass
  have hgood := ((spellable_of_classRest hrest h.opens ht).1.of_push).2
  have hfuel' : d.skip.rest.length < fuel' + 1 :=
    Nat.lt_of_le_of_lt d.length_skip_le h.enough
  obtain ⟨fuel₁, e, m'', hput, hm, hspelled, hfuel₁⟩ :=
    h.spelled.skip.classMember d.skip_skip hc hitem hgood
      (endsMember_of_classRest hrest h.opens ht) hfuel' stack' h.items
  rw [← classRest_skip, hput]
  exact hread ⟨hspelled, hm, h.opens, h.stack, hfuel₁⟩ _ hrest ht

/-- A bracket opens a class inside in both, or begins the name of the same class. -/
theorem opening (hread : ReadClassAlongside text fuel)
    (h : AlongsideInClass text (fuel' + 1) stack stack' m m' c d) (hx : c.skip.char? = some '[') :
    GivesClass text (classRest (fuel + 1) stack m c) (classRest (fuel' + 1) stack' m' d) := by
  have hd := (h.spelled.skip.char?_eq_iff (by decide)).2 hx
  have hle := d.length_skip_le
  have henough := h.enough
  have hascii := h.spelled.skip.asciiClass?
  simp only [classRest, hx, hd]
  generalize hname : asciiClass? c.skip = a, hname' : asciiClass? d.skip = a' at hascii ⊢
  rcases hascii with @⟨⟨a, c₁⟩, ⟨a', d₁⟩, -, hbehind⟩ | _
  · have hlt := Cursor.length_asciiClass?_lt hname'
    dsimp only at hlt
    exact hread ⟨hbehind, h.items.push (.one fun _ _ _ _ _ _ => rfl), h.opens, h.stack, by omega⟩
  · refine (h.spelled.skip.openBracket hx).givesIf.bind_of_ok (fun _ _ _ _ _ => trivial) ?_
    rintro ⟨negated, inner, c₁⟩ ⟨_, inner', d₁⟩ - hbracket - ⟨rfl, hinner, hinside⟩
    have hlt : d₁.rest.length < d.skip.rest.length := Cursor.length_openBracket_lt hd hbracket
    have henough : d₁.rest.length < fuel' := by omega
    exact hread ⟨hinside, hinner, List.cons_ne_nil _ _,
      .cons (.bracket _ d.skip.offset _ h.items) h.stack, henough⟩

/-- A class that is closed is a member of the class around it in both, or the last. -/
theorem closing (hread : ReadClassAlongside text fuel)
    (h : AlongsideInClass text (fuel' + 1) stack stack' m m' c d) (hx : c.skip.char? = some ']') :
    GivesClass text (classRest (fuel + 1) stack m c) (classRest (fuel' + 1) stack' m' d) := by
  have hd := (h.spelled.skip.char?_eq_iff (by decide)).2 hx
  have hbehind := h.spelled.skip.bump hx (by decide)
  have henough : d.skip.bump.rest.length < fuel' := by
    have hlt := Cursor.length_bump hd
    have hle := d.length_skip_le
    have henough := h.enough
    omega
  obtain ⟨hset, hrest⟩ := closeOperation_rel h.items.toSet
    (fun s s' kind _ _ hlhs => deepens_op hlhs h.items.toSet s s' kind) h.stack
  have hinner := innermost_rel hrest
  simp only [classRest, hx, hd]
  generalize innermost? (closeOperation m.toSet stack).2 = o,
    innermost? (closeOperation m'.toSet stack').2 = o' at hinner ⊢
  rcases hinner with @⟨⟨_, _, outer, rest⟩, ⟨_, negated, outer', rest'⟩, hinner⟩ | _
  swap
  · exact .error
  obtain ⟨rfl, houter, houtside⟩ := hinner
  have hempty : rest'.isEmpty = rest.isEmpty := by cases houtside <;> rfl
  simp only [hempty]
  by_cases hlast : rest.isEmpty = true
  · rw [if_pos hlast, if_pos hlast]
    exact Gives.givesIf (.ok ⟨⟨deepens_class hset _ _ _, trivial⟩, hbehind⟩)
  · rw [if_neg hlast, if_neg hlast]
    exact hread ⟨hbehind, houter.push (.one (deepens_bracketed hset _ _ _)),
      fun hnil => hlast (List.isEmpty_iff.2 hnil), houtside, henough⟩

/-- The right side of an operation begins in both. -/
theorem operation {kind : SetOp} (hread : ReadClassAlongside text fuel)
    (h : AlongsideInClass text (fuel' + 1) stack stack' m m' c d) (hx : c.skip.char? = some x)
    (hkind : setOp? x = some kind) (hpeek : c.skip.peek? = some x) :
    GivesClass text (classRest (fuel + 1) stack m c) (classRest (fuel' + 1) stack' m' d) := by
  have hplain : isPlain x = true := isPlain_of_setOp? hkind
  have hd := (h.spelled.skip.char?_eq_iff hplain).2 hx
  have hpeek' : d.skip.peek? = some x := by
    rw [h.spelled.skip.peek? hx hplain, hpeek, Option.map_some,
      shown_of_ascii (isPlain_iff.1 hplain).1]
  have henough : d.skip.bump.bump.rest.length < fuel' := by
    have hlt := Cursor.length_bump hd
    have hlt' := Cursor.length_bump ((Cursor.char?_bump _).trans hpeek')
    have hle := d.length_skip_le
    have henough := h.enough
    omega
  obtain ⟨hset, hrest⟩ := closeOperation_rel h.items.toSet
    (fun s s' kind _ _ hlhs => deepens_op hlhs h.items.toSet s s' kind) h.stack
  have hbehind := (h.spelled.skip.bump hx hplain).bump ((Cursor.char?_bump _).trans hpeek) hplain
  rw [classRest_operation hx hkind hpeek, classRest_operation hd hkind hpeek']
  exact hread ⟨hbehind, .nil, List.cons_ne_nil _ _, .cons (.operation kind hset) hrest, henough⟩

end ReadClassAlongside

/-- **One step of the reader after the other**, a class is read in the spelling as it is
in the pattern. -/
theorem readClassAlongside (text : List Char) (fuel : Nat) : ReadClassAlongside text fuel := by
  induction fuel with
  | zero => exact fun _ _ _ _ _ _ _ _ => .error
  | succ fuel ih =>
    intro fuel' stack stack' m m' c d h
    cases fuel' with
    | zero => exact absurd h.enough (Nat.not_lt_zero _)
    | succ fuel' =>
    cases hx : c.skip.char? with
    | none =>
      simp only [classRest, hx]
      exact .error
    | some x =>
      by_cases hopens : x = '['
      · exact ih.opening h (hopens ▸ hx)
      by_cases hcloses : x = ']'
      · exact ih.closing h (hcloses ▸ hx)
      by_cases hop : ∃ kind, setOp? x = some kind ∧ c.skip.peek? = some x
      · obtain ⟨kind, hkind, hpeek⟩ := hop
        exact ih.operation h hx hkind hpeek
      · exact ih.member h ⟨hx, hopens, hcloses, fun kind hkind hpeek => hop ⟨kind, hkind, hpeek⟩⟩

/-- **The same classes are read** in the spelling of a pattern, up to a level deeper. -/
theorem Cursor.Spelled.bracketedClass (h : c.Spelled text d) (hc : c.char? = some '[') :
    GivesIf (fun a => a.1.Spellable text)
      (Beside (fun t t' => Deepens Tree.tooDeep? 0 t t' ∧ t'.Repeats) text) (bracketedClass c)
      (bracketedClass d) := by
  have hd := (h.char?_eq_iff (by decide)).2 hc
  refine (h.openBracket hc).givesIf.bind_of_ok (fun _ _ _ _ _ => trivial) ?_
  rintro ⟨negated, m, c₁⟩ ⟨_, m', d₁⟩ - hbracket - ⟨rfl, hm, hinside⟩
  have hlt := Cursor.length_openBracket_lt hd hbracket
  exact readClassAlongside text _ ⟨hinside, hm, List.cons_ne_nil _ _,
    .cons (.bracket _ d.offset _ .nil) .nil, Nat.lt_succ_of_lt hlt⟩

end

end Multiscan.Syntax
