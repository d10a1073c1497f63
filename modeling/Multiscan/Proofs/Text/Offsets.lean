import Multiscan.Proofs.Text.Utf8
import Multiscan.Text.Offsets
/-!
# Offset maps — what they say about their text

A map answers from a length if its text is ASCII and from two tables
otherwise. Either way it counts the characters of the text, knows the byte
at which each of them starts (`byteAt_ofText`), and cuts the text between
characters (`slice_ofText`). Whatever bytes a match is said to cover, its
span lies in the text (`span_fst_le`, `span_snd_le`).

`slice?` reads a slice with every check that reading could fail: that the
map is as long as the text, that it has an entry for either end, and that the
bytes it finds there are in order, within the text, and at boundaries. For a
span none of them fails.
-/

namespace Multiscan.Text

variable {c : Char} {cs : List Char}

/-! ## Cutting by bytes -/

theorem dropBytes_zero (cs : List Char) : dropBytes 0 cs = cs := by cases cs <;> rfl

theorem takeBytes_zero (cs : List Char) : takeBytes 0 cs = [] := by cases cs <;> rfl

/-- Dropping the bytes of the first character drops that character. -/
theorem dropBytes_width_add (n : Nat) (c : Char) (cs : List Char) :
    dropBytes (width c + n) (c :: cs) = dropBytes n cs := by
  obtain ⟨w, hw⟩ := Nat.exists_eq_add_of_lt (width_pos c)
  rw [show width c + n = (w + n) + 1 by omega, dropBytes]
  congr 1
  omega

theorem takeBytes_width_add (n : Nat) (c : Char) (cs : List Char) :
    takeBytes (width c + n) (c :: cs) = c :: takeBytes n cs := by
  obtain ⟨w, hw⟩ := Nat.exists_eq_add_of_lt (width_pos c)
  rw [show width c + n = (w + n) + 1 by omega, takeBytes]
  congr 2
  omega

/-- Dropping the bytes of the first characters drops those characters. -/
theorem dropBytes_byteLength_take (k : Nat) (cs : List Char) :
    dropBytes (byteLength (cs.take k)) cs = cs.drop k := by
  induction cs generalizing k with
  | nil => simp [dropBytes_zero]
  | cons c cs ih =>
    cases k with
    | zero => rw [List.take_zero, byteLength_nil, dropBytes_zero, List.drop_zero]
    | succ k => rw [List.take_succ_cons, byteLength_cons, dropBytes_width_add, ih, List.drop_succ_cons]

theorem takeBytes_byteLength_take (k : Nat) (cs : List Char) :
    takeBytes (byteLength (cs.take k)) cs = cs.take k := by
  induction cs generalizing k with
  | nil => simp [takeBytes_zero]
  | cons c cs ih =>
    cases k with
    | zero => rw [List.take_zero, byteLength_nil, takeBytes_zero]
    | succ k => rw [List.take_succ_cons, byteLength_cons, takeBytes_width_add, ih]

namespace OffsetMap

/-! ## The tables -/

@[simp] theorem length_starts (at_ : Nat) (cs : List Char) :
    (starts at_ cs).length = cs.length + 1 := by
  induction cs generalizing at_ with
  | nil => rfl
  | cons c cs ih => rw [starts, List.length_cons, ih, List.length_cons]

@[simp] theorem length_owners (k : Nat) (cs : List Char) :
    (owners k cs).length = byteLength cs := by
  induction cs generalizing k with
  | nil => rfl
  | cons c cs ih =>
    rw [owners, List.length_append, List.length_replicate, ih, byteLength_cons]

/-- The table of starts holds the bytes before each character. -/
theorem getElem?_starts {k : Nat} (at_ : Nat) (h : k ≤ cs.length) :
    (starts at_ cs)[k]? = some (at_ + byteLength (cs.take k)) := by
  induction cs generalizing at_ k with
  | nil =>
    obtain rfl : k = 0 := Nat.le_zero.1 h
    rfl
  | cons c cs ih =>
    cases k with
    | zero => rfl
    | succ k =>
      rw [starts, List.getElem?_cons_succ, ih (at_ + width c) (Nat.le_of_succ_le_succ h),
        List.take_succ_cons, byteLength_cons, Nat.add_assoc]

/-! ## The map of a text -/

/-- Where every character is one byte, characters and bytes are counted
alike. -/
theorem byteLength_of_ascii (h : cs.all (fun c => decide (c.toNat < 128)) = true) :
    byteLength cs = cs.length := by
  induction cs with
  | nil => rfl
  | cons c cs ih =>
    rw [List.all_cons, Bool.and_eq_true, decide_eq_true_eq] at h
    have hc : width c = 1 := by
      rw [width, if_pos (by omega)]
    rw [byteLength_cons, hc, ih h.2, List.length_cons, Nat.add_comm]

theorem byteLength_take_of_ascii {k : Nat} (h : k ≤ cs.length)
    (hcs : cs.all (fun c => decide (c.toNat < 128)) = true) : byteLength (cs.take k) = k := by
  have htake : (cs.take k).all (fun c => decide (c.toNat < 128)) = true :=
    List.all_eq_true.2 fun c hc => List.all_eq_true.1 hcs c (List.mem_of_mem_take hc)
  rw [byteLength_of_ascii htake, List.length_take, Nat.min_eq_left h]

@[simp] theorem length_ofText (cs : List Char) : (ofText cs).length = byteLength cs := by
  unfold ofText
  split
  · next h => exact (byteLength_of_ascii h).symm
  · rw [tabulate, length, List.size_toArray, length_owners]

@[simp] theorem charLength_ofText (cs : List Char) : (ofText cs).charLength = cs.length := by
  unfold ofText
  split
  · rfl
  · rw [tabulate, charLength, List.size_toArray, length_starts, Nat.add_sub_cancel]

/-- **The map knows where characters start**: behind the bytes of the
characters before them. -/
theorem byteAt_ofText {k : Nat} (h : k ≤ cs.length) :
    (ofText cs).byteAt k = byteLength (cs.take k) := by
  unfold ofText
  split
  · next hcs => exact (byteLength_take_of_ascii h hcs).symm
  · rw [tabulate, byteAt, List.getElem?_toArray, getElem?_starts 0 h, Option.getD_some,
      Nat.zero_add]

/-- **A slice is the characters between its ends.** -/
theorem slice_ofText {start stop : Nat} (h : start ≤ stop) (hstop : stop ≤ cs.length) :
    (ofText cs).slice cs start stop = (cs.drop start).take (stop - start) := by
  -- The bytes to take are counted from the start of the slice.
  have hsplit : byteLength (cs.take stop) - byteLength (cs.take start) =
      byteLength ((cs.drop start).take (stop - start)) := by
    have := byteLength_take_add_drop start (cs.take stop)
    rw [List.take_take, Nat.min_eq_left h, List.drop_take] at this
    omega
  rw [slice, byteAt_ofText hstop, byteAt_ofText (Nat.le_trans h hstop), dropBytes_byteLength_take,
    hsplit, takeBytes_byteLength_take]

/-! ## Spans -/

theorem span_fst_le (m : OffsetMap) (start stop : Nat) : (m.span start stop).1 ≤ (m.span start stop).2 :=
  Nat.min_le_right _ _

/-- **A span ends within the text**, whatever bytes it is asked for. -/
theorem span_snd_le (cs : List Char) (start stop : Nat) :
    ((ofText cs).span start stop).2 ≤ cs.length := by
  have h : ((ofText cs).span start stop).2 ≤ (ofText cs).charLength := Nat.min_le_right _ _
  rwa [charLength_ofText] at h

/-! ## Spans of whole characters -/

/-- The table of owners holds the index of a character at each of its bytes. -/
theorem getElem?_owners (k : Nat) (before : List Char) (c : Char) (after : List Char) {j : Nat}
    (hj : j < width c) :
    (owners k (before ++ c :: after))[byteLength before + j]? = some (k + before.length) := by
  induction before generalizing k with
  | nil =>
    rw [List.nil_append, owners, byteLength_nil, Nat.zero_add,
      List.getElem?_append_left (by rwa [List.length_replicate]), List.getElem?_replicate,
      if_pos hj]
    rfl
  | cons d before ih =>
    have hlength : (List.replicate (width d) k).length = width d := List.length_replicate
    rw [List.cons_append, owners, byteLength_cons, Nat.add_assoc,
      List.getElem?_append_right (by omega), hlength, Nat.add_sub_cancel_left, ih,
      List.length_cons]
    congr 1
    omega

/-- **A byte belongs to the character that holds it.** -/
theorem charAt_ofText (before : List Char) (c : Char) (after : List Char) {j : Nat}
    (hj : j < width c) :
    (ofText (before ++ c :: after)).charAt (byteLength before + j) = before.length := by
  unfold ofText
  split
  · next hcs =>
    rw [List.all_append, Bool.and_eq_true, List.all_cons, Bool.and_eq_true] at hcs
    have hc : width c = 1 := by
      rw [width, if_pos (Nat.le_of_lt_succ (of_decide_eq_true hcs.2.1))]
    rw [charAt, byteLength_of_ascii hcs.1, List.length_append, List.length_cons]
    omega
  · rw [tabulate, charAt, List.getElem?_toArray, getElem?_owners 0 before c after hj,
      Option.getD_some, Nat.zero_add]

/-- **The span of whole characters is these characters.** -/
theorem span_ofText (before : List Char) {middle : List Char} (hmiddle : middle ≠ [])
    (after : List Char) :
    (ofText (before ++ (middle ++ after))).span (byteLength before)
      (byteLength (before ++ middle)) = (before.length, before.length + middle.length) := by
  obtain ⟨first, rest, rfl⟩ := List.exists_cons_of_ne_nil hmiddle
  have hstart : (ofText (before ++ (first :: rest ++ after))).charAt (byteLength before) =
      before.length :=
    charAt_ofText before first (rest ++ after) (width_pos first)
  -- The last byte of the match is the last byte of its last character.
  obtain ⟨init, last, hlast⟩ : ∃ init last, first :: rest = init ++ [last] :=
    ⟨_, _, (List.dropLast_concat_getLast hmiddle).symm⟩
  have hpos := width_pos last
  have hlength : byteLength (before ++ (first :: rest)) =
      byteLength (before ++ init) + width last := by
    rw [hlast, ← List.append_assoc, byteLength_append (before ++ init), byteLength_cons,
      byteLength_nil, Nat.add_zero]
  have hstop : (ofText (before ++ (first :: rest ++ after))).charAt
      (byteLength (before ++ init) + (width last - 1)) = (before ++ init).length := by
    have hsplit : before ++ (first :: rest ++ after) = (before ++ init) ++ last :: after := by
      rw [hlast]
      simp
    rw [hsplit]
    exact charAt_ofText _ _ _ (by omega)
  have hcount : (first :: rest).length = init.length + 1 := by
    rw [hlast, List.length_append, List.length_singleton]
  have hmax : max (byteLength (before ++ (first :: rest))) 1 - 1 =
      byteLength (before ++ init) + (width last - 1) := by omega
  rw [span, hmax, hstart, hstop, charLength_ofText]
  simp only [List.length_append, hcount]
  congr 1 <;> omega

/-! ## Reading with every check -/

/-- The byte at which a character starts, if the map has it. -/
def byteAt? (m : OffsetMap) (k : Nat) : Option Nat :=
  match m with
  | .ascii n => if k ≤ n then some k else none
  | .mapped _ starts => starts[k]?

/-- The characters of a text between two character offsets, provided that
the map is as long as the text, that it has both offsets, and that the bytes
they stand for are in order, within the text, and at boundaries between
characters. -/
def slice? (m : OffsetMap) (cs : List Char) (start stop : Nat) : Option (List Char) := do
  let a ← m.byteAt? start
  let b ← m.byteAt? stop
  let bytes := (encode cs).toArray
  if m.length = bytes.size ∧ a ≤ b ∧ b ≤ bytes.size ∧
      isBoundary bytes a = true ∧ isBoundary bytes b = true then
    some (m.slice cs start stop)
  else none

/-- The map has every character of its text, and the end. -/
theorem byteAt?_ofText {k : Nat} (h : k ≤ cs.length) :
    (ofText cs).byteAt? k = some (byteLength (cs.take k)) := by
  unfold ofText
  split
  · next hcs => rw [byteAt?, if_pos h, byteLength_take_of_ascii h hcs]
  · rw [tabulate, byteAt?, List.getElem?_toArray, getElem?_starts 0 h, Nat.zero_add]

/-- **Nothing goes wrong in a slice of the text**: every check of `slice?`
passes. -/
theorem slice?_ofText {start stop : Nat} (h : start ≤ stop) (hstop : stop ≤ cs.length) :
    (ofText cs).slice? cs start stop = some ((cs.drop start).take (stop - start)) := by
  have hsize : (encode cs).toArray.size = byteLength cs := by
    rw [List.size_toArray, length_encode]
  have hle : byteLength (cs.take stop) ≤ byteLength cs := by
    have := byteLength_take_add_drop stop cs
    omega
  have hchecks : (ofText cs).length = (encode cs).toArray.size ∧
      byteLength (cs.take start) ≤ byteLength (cs.take stop) ∧
      byteLength (cs.take stop) ≤ (encode cs).toArray.size ∧
      isBoundary (encode cs).toArray (byteLength (cs.take start)) = true ∧
      isBoundary (encode cs).toArray (byteLength (cs.take stop)) = true :=
    ⟨(length_ofText cs).trans hsize.symm, byteLength_take_mono h cs, hsize.symm ▸ hle,
      isBoundary_byteLength_take start cs, isBoundary_byteLength_take stop cs⟩
  rw [slice?, byteAt?_ofText (Nat.le_trans h hstop), byteAt?_ofText hstop, Option.bind_eq_bind,
    Option.bind_some, Option.bind_some, slice_ofText h hstop]
  exact if_pos hchecks

end OffsetMap

end Multiscan.Text
