import Multiscan.Pattern
import Multiscan.Proofs.Syntax.Placed
import Multiscan.Proofs.Syntax.SpelledText
/-!
# Regex — where patterns without a meaning are at fault

Giving a meaning to a tree fails at a property class or at a character that has no
place under the flags, and the error points to where that is written. Replacing
shorthand classes leaves every node where it stands (`placed_toAscii`). So an error
points to the text of the pattern as it is read under a word of flags
(`reads_parse`), which begins as the pattern does, up to the first character outside
ASCII (`exists_spellInBytes_append`).
-/

namespace Multiscan

open Syntax Text

variable {text : List Char}

/-! ## Shorthand classes replaced -/

namespace Syntax

mutual

theorem ClassSet.placed_toAscii : (set : ClassSet) → set.Placed text → set.toAscii.Placed text
  | .empty _, h | .literal _, h | .range _ _ _, h => h
  | .ascii _, h | .property _, h | .shorthand _, h => h
  | .bracketed _ _ inner, h => ⟨h.1, ClassSet.placed_toAscii inner h.2⟩
  | .union _ items, h => ⟨h.1, ClassSet.allPlaced_toAscii items h.2⟩
  | .op _ _ lhs rhs, h =>
    ⟨h.1, ClassSet.placed_toAscii lhs h.2.1, ClassSet.placed_toAscii rhs h.2.2⟩

theorem ClassSet.allPlaced_toAscii : (sets : List ClassSet) → ClassSet.AllPlaced text sets →
    ClassSet.AllPlaced text (ClassSet.allToAscii sets)
  | [], _ => trivial
  | set :: sets, h => ⟨ClassSet.placed_toAscii set h.1, ClassSet.allPlaced_toAscii sets h.2⟩

end

mutual

/-- **What is replaced stands where it stood.** -/
theorem Tree.placed_toAscii : (t : Tree) → t.Placed text → t.toAscii.Placed text
  | .empty _, h | .flags _ _ _, h | .literal _, h | .dot _, h | .property _, h => h
  | .shorthand _, h => ⟨h, h⟩
  | .assertion _ kind, h => by
    cases kind with
    | wordBoundary => exact ⟨h, h⟩
    | notWordBoundary => exact ⟨h, h⟩
    | _ => exact h
  | .bracketed _ _ set, h => ⟨h.1, ClassSet.placed_toAscii set h.2⟩
  | .repetition _ _ _ _ sub, h => ⟨h.1, Tree.placed_toAscii sub h.2⟩
  | .group _ _ sub, h => ⟨h.1, Tree.placed_toAscii sub h.2⟩
  | .alternation _ ts, h => ⟨h.1, Tree.allPlaced_toAscii ts h.2⟩
  | .concat _ ts, h => ⟨h.1, Tree.allPlaced_toAscii ts h.2⟩

theorem Tree.allPlaced_toAscii : (ts : List Tree) → Tree.AllPlaced text ts →
    Tree.AllPlaced text (Tree.allToAscii ts)
  | [], _ => trivial
  | t :: ts, h => ⟨Tree.placed_toAscii t h.1, Tree.allPlaced_toAscii ts h.2⟩

end

end Syntax

/-! ## Meanings -/

namespace Regex

theorem reads_propertySet (f : Setting) {c : PropertyClass} (h : Stands text c.span.start '\\') :
    Reads text (fun _ => True) (propertySet f c) := by
  unfold propertySet
  split
  · split
    · trivial
    · next fault _ =>
      refine h.points fun _ => ?_
      cases fault <;> rfl
  · exact h.points fun _ => rfl

/-- A character that is refused is no character of ASCII, or is written behind a
backslash. -/
theorem reads_classSymbol (f : Setting) {l : Literal} (h : l.Placed text) :
    Reads text (fun _ => True) (classSymbol f l) := by
  unfold classSymbol
  split
  · trivial
  · split
    · trivial
    · split
      · trivial
      · next hwide =>
        refine Stands.points h fun _ => ?_
        split
        · simpa [Fault.fits] using .inr (Nat.not_lt.1 hwide)
        · rfl

mutual

theorem reads_classMembers (f : Setting) : (set : ClassSet) → set.Placed text →
    Reads text (fun _ => True) (classMembers f set)
  | .empty _, _ => trivial
  | .literal _, h => (reads_classSymbol f h).bind fun _ _ => trivial
  | .range _ _ _, h => (reads_classSymbol f h.2.1).bind fun _ _ =>
    (reads_classSymbol f h.2.2).bind fun _ _ => trivial
  | .ascii _, _ => trivial
  | .property _, h => reads_propertySet f h
  | .shorthand _, _ => trivial
  | .bracketed _ _ inner, h => (reads_classMembers f inner h.2).bind fun _ _ => trivial
  | .union _ items, h => (reads_unionMembers f items h.2).bind fun _ _ => trivial
  | .op _ _ lhs rhs, h => (reads_classMembers f lhs h.2.1).bind fun _ _ =>
    (reads_classMembers f rhs h.2.2).bind fun _ _ => trivial

theorem reads_unionMembers (f : Setting) : (sets : List ClassSet) →
    ClassSet.AllPlaced text sets → Reads text (fun _ => True) (unionMembers f sets)
  | [], _ => trivial
  | set :: sets, h => (reads_classMembers f set h.1).bind fun _ _ =>
    (reads_unionMembers f sets h.2).bind fun _ _ => trivial

end

mutual

/-- **A tree has a meaning**, or an error points to what has none. -/
theorem reads_ofTree (f : Setting) : (t : Tree) → t.Placed text →
    Reads text (fun _ => True) (ofTree f t)
  | .empty _, _ | .flags _ _ _, _ | .literal _, _ | .dot _, _ => trivial
  | .assertion _ _, _ | .shorthand _, _ => trivial
  | .property _, h => (reads_propertySet f h).bind fun _ _ => trivial
  | .bracketed _ _ set, h => (reads_classMembers f set h.2).bind fun _ _ => trivial
  | .repetition _ _ _ _ sub, h => (reads_ofTree f sub h.2).bind fun _ _ => trivial
  | .group _ _ sub, h => (reads_ofTree _ sub h.2).bind fun _ _ => trivial
  | .alternation _ ts, h => (reads_ofTrees f ts h.2).bind fun _ _ => trivial
  | .concat _ ts, h => (reads_ofTrees f ts h.2).bind fun _ _ => trivial

theorem reads_ofTrees (f : Setting) : (ts : List Tree) → Tree.AllPlaced text ts →
    Reads text (fun _ => True) (ofTrees f ts)
  | [], _ => trivial
  | t :: ts, h => (reads_ofTree f t h.1).bind fun r _ =>
    (reads_ofTrees r.2 ts h.2).bind fun _ _ => trivial

end

end Regex

/-! ## Patterns -/

namespace Syntax

/-- **A pattern spelled in bytes begins as the pattern does**, as far as that is in
ASCII. -/
theorem exists_spellInBytes_append : (front : List Char) → (∀ x ∈ front, x.toNat < 128) →
    (behind : List Char) → ∃ rest, spellInBytes (front ++ behind) = front ++ rest
  | [], _, behind => ⟨spellInBytes behind, rfl⟩
  | x :: front, h, behind => by
    obtain ⟨hx, hfront⟩ := List.forall_mem_cons.1 h
    by_cases hslash : x = '\\'
    · subst hslash
      -- The character behind a backslash is taken with it.
      rcases front with _ | ⟨y, front⟩
      · rcases behind with _ | ⟨y, behind⟩
        · exact ⟨[], rfl⟩
        · rw [List.cons_append, List.nil_append, spellInBytes]
          split
          · exact ⟨_, rfl⟩
          · obtain ⟨rest, hrest⟩ := exists_charInBytes y
            exact ⟨rest ++ spellInBytes behind, by rw [hrest]; rfl⟩
      · obtain ⟨hy, hfront⟩ := List.forall_mem_cons.1 hfront
        obtain ⟨rest, hrest⟩ := exists_spellInBytes_append front hfront behind
        refine ⟨rest, ?_⟩
        rw [List.cons_append, List.cons_append, spellInBytes, if_pos hy, hrest]
        rfl
    · obtain ⟨rest, hrest⟩ := exists_spellInBytes_append front hfront behind
      refine ⟨rest, ?_⟩
      rw [List.cons_append, spellInBytes_cons hslash, if_pos hx, hrest]
      rfl

section

variable {front rest rest' : List Char} {e : SyntaxError}

theorem SyntaxError.Points.between (h : e.Points text) : Between text e.offset := by
  obtain ⟨before, after, htext, hoffset, -⟩ := h
  exact ⟨before, after, htext, hoffset⟩

/-- A place between two characters of the front of a text is one of any that begins so. -/
theorem between_of_front {offset : Nat} (h : Between (front ++ rest) offset)
    (hle : offset ≤ byteLength front) : Between (front ++ rest') offset := by
  obtain ⟨before, after, htext, rfl⟩ := h
  rcases List.append_eq_append_iff.1 htext with ⟨more, rfl, rfl⟩ | ⟨more, rfl, -⟩
  · rw [byteLength_append] at hle
    exact ⟨front, rest', rfl, by rw [byteLength_append]; omega⟩
  · exact ⟨before, more ++ rest', List.append_assoc _ _ _, rfl⟩

/-- An error that points to the front of a text points to any that begins so. -/
theorem SyntaxError.Points.of_front (h : e.Points (front ++ rest))
    (hlt : e.offset < byteLength front) : e.Points (front ++ rest') := by
  obtain ⟨before, after, htext, hoffset, hfits⟩ := h
  rcases List.append_eq_append_iff.1 htext with ⟨more, rfl, -⟩ | ⟨more, rfl, rfl⟩
  · rw [byteLength_append] at hoffset
    omega
  · rcases more with _ | ⟨x, more⟩
    · rw [List.append_nil] at hlt
      omega
    · exact ⟨before, x :: more ++ rest', List.append_assoc _ _ _, hoffset, hfits⟩

end

end Syntax

namespace Pattern

variable {pattern : List Char} {word : UInt32} {err : SyntaxError}

/-- **An error points to the pattern as it is read** under a word of flags. -/
theorem reads_parse (pattern : List Char) (word : UInt32) :
    Reads (spelled pattern word) (fun _ => True) (parse pattern word) := by
  refine (reads_ofPattern? (spelled pattern word)).bind fun tree htree => ?_
  have hadapted : (adapted tree word).Placed (spelled pattern word) := by
    unfold adapted
    split
    · exact tree.placed_toAscii htree
    · exact htree
  exact (Regex.reads_ofTree _ _ hadapted).bind fun _ _ => trivial

theorem points_spelled (h : parse pattern word = .error err) :
    err.Points (spelled pattern word) := by
  have hreads := reads_parse pattern word
  rwa [h] at hreads

/-- **And to the pattern itself** if that is read as it is, or as far as it is in
ASCII. -/
theorem points_pattern {front behind : List Char}
    (h : parse (front ++ behind) word = .error err)
    (hfront : FlagWord.has word .utf8 = true ∨ ∀ x ∈ front, x.toNat < 128) :
    (err.offset ≤ byteLength front → Between (front ++ behind) err.offset) ∧
      (err.offset < byteLength front ∨ behind = [] → err.Points (front ++ behind)) := by
  have hpoints := points_spelled h
  unfold spelled at hpoints
  split at hpoints
  · exact ⟨fun _ => hpoints.between, fun _ => hpoints⟩
  · next hbytes =>
    have hfront := hfront.resolve_left hbytes
    obtain ⟨rest, hrest⟩ := exists_spellInBytes_append front hfront behind
    refine ⟨fun hle => ?_, ?_⟩
    · rw [hrest] at hpoints
      exact between_of_front hpoints.between hle
    · rintro (hlt | rfl)
      · rw [hrest] at hpoints
        exact hpoints.of_front hlt
      · rw [List.append_nil] at hpoints ⊢
        rwa [spellInBytes_of_ascii hfront] at hpoints

end Pattern

end Multiscan
