import Mathlib.Data.List.Chain
import Multiscan.Proofs.Syntax.Reader
import Multiscan.Proofs.Syntax.SpelledText
/-!
# Syntax — trees whose patterns can be spelled in bytes

Spelling a pattern in bytes looks at its characters alone, so it does not do
everywhere: a group name, a property of one letter or a blank outside ASCII is no
longer one when it is spelled, and neither is a range whose ends go apart. A tree
that is read has none of these (`Tree.Spellable`), and then nothing that was read on
the way has (`spellable_of_classRest`, `spellable_of_patternRest`): what stands on
the stack or among the items read so far ends up in the tree.
-/

namespace Multiscan.Syntax

open Text (encodeChar)

variable {text : List Char}

/-! ## Inside brackets -/

/-- A property class that asks for no letter outside ASCII without braces. -/
def PropertyClass.Spellable (c : PropertyClass) : Prop :=
  ∀ x, c.query = .letter x → x.toNat < 128

/-- A character outside ASCII that stands for itself. -/
def Literal.Wide (l : Literal) : Prop := l.form = .verbatim ∧ ¬ l.char.toNat < 128

/-- The ends of a range that stays one when the last is spelled: the first is not
above the byte that the last begins with. -/
def SpellableRange (lo hi : Literal) : Prop :=
  hi.Wide → lo.form = .verbatim ∨ ∀ b ∈ (encodeChar hi.char).head?, lo.char.toNat ≤ b.toNat

/-- A range up to a character outside ASCII. Its last bytes are spelled behind it. -/
def ClassSet.EndsWide : ClassSet → Prop
  | .range _ _ hi => hi.Wide
  | _ => False

/-- What begins with a hyphen that stands for itself. -/
def ClassSet.StartsHyphen : ClassSet → Prop
  | .literal l => l.form = .verbatim ∧ l.char = '-'
  | .range _ lo _ => lo.form = .verbatim ∧ lo.char = '-'
  | _ => False

/-- Neighbours in a class that are not read as a range when they are spelled. -/
def ClassSet.Apart (a b : ClassSet) : Prop := ¬ (a.EndsWide ∧ b.StartsHyphen)

mutual

/-- What stands between brackets can be spelled in bytes. -/
def ClassSet.Spellable : ClassSet → Prop
  | .range _ lo hi => SpellableRange lo hi
  | .property c => c.Spellable
  | .bracketed _ _ inner => inner.Spellable
  | .union _ items => ClassSet.AllSpellable items ∧ items.IsChain ClassSet.Apart
  | .op _ _ lhs rhs => lhs.Spellable ∧ rhs.Spellable
  | .empty _ => True
  | .literal _ => True
  | .ascii _ => True
  | .shorthand _ => True

/-- The same for several sets. -/
def ClassSet.AllSpellable : List ClassSet → Prop
  | [] => True
  | set :: sets => set.Spellable ∧ ClassSet.AllSpellable sets

end

theorem ClassSet.allSpellable_iff {sets : List ClassSet} :
    ClassSet.AllSpellable sets ↔ ∀ set ∈ sets, set.Spellable := by
  induction sets with
  | nil => exact ⟨fun _ set hset => (nomatch hset), fun _ => trivial⟩
  | cons set sets ih => rw [ClassSet.AllSpellable, ih, List.forall_mem_cons]

/-- Members of a class that can be spelled in bytes. -/
structure Members.Spellable (m : Members) : Prop where
  items : ∀ item ∈ m.items, item.Spellable
  apart : m.items.IsChain ClassSet.Apart

namespace Members.Spellable

variable {m : Members} {set next : ClassSet}

theorem of_toSet (h : m.toSet.Spellable) : m.Spellable := by
  rcases m with ⟨span, _ | ⟨a, _ | ⟨b, rest⟩⟩⟩
  · exact ⟨fun _ hitem => (nomatch hitem), .nil⟩
  · exact ⟨List.forall_mem_singleton.2 h, .singleton a⟩
  · exact ⟨ClassSet.allSpellable_iff.1 h.1, h.2⟩

theorem of_push (h : (m.push set).Spellable) : m.Spellable ∧ set.Spellable := by
  obtain ⟨hitems, hset⟩ := List.forall_mem_append.1 h.items
  exact ⟨⟨hitems, h.apart.left_of_append⟩, List.forall_mem_singleton.1 hset⟩

/-- What was read last and what is read next are apart. -/
theorem apart_of_push (h : ((m.push set).push next).Spellable) : set.Apart next := by
  have happart : (m.items ++ [set] ++ [next]).IsChain ClassSet.Apart := h.apart
  rw [List.append_assoc, List.singleton_append, List.isChain_append_cons_cons] at happart
  exact happart.2.1

end Members.Spellable

/-- What is open in a class can be spelled, as far as it is going to be closed. -/
def OpenSet.AllSpellable : List OpenSet → Prop
  | .bracket outer _ _ :: o :: rest => outer.Spellable ∧ OpenSet.AllSpellable (o :: rest)
  | .operation _ lhs :: .bracket outer start negated :: rest =>
    lhs.Spellable ∧ OpenSet.AllSpellable (.bracket outer start negated :: rest)
  | .operation _ lhs :: _ => lhs.Spellable
  | _ => True

/-- A stack with a bracket on top, whose level is to be closed. -/
def OpenSet.LevelSpellable (stack : List OpenSet) : Prop :=
  ∀ outer start negated rest, stack = .bracket outer start negated :: rest →
    OpenSet.AllSpellable stack

section

variable {m : Members} {stack rest : List OpenSet} {set lhs : ClassSet} {kind : SetOp}

theorem OpenSet.AllSpellable.of_operation (h : AllSpellable (.operation kind lhs :: stack)) :
    lhs.Spellable ∧ LevelSpellable stack := by
  cases stack with
  | nil => exact ⟨h, fun _ _ _ _ heq => (nomatch heq)⟩
  | cons o stack =>
    cases o with
    | bracket outer start negated => exact ⟨h.1, fun _ _ _ _ _ => h.2⟩
    | operation kind' lhs' => exact ⟨h, fun _ _ _ _ heq => (nomatch heq)⟩

/-- What is closed can be spelled with all that is on its level. -/
theorem OpenSet.spellable_of_closeOperation (h : (closeOperation set stack).1.Spellable)
    (hstack : LevelSpellable (closeOperation set stack).2) :
    set.Spellable ∧ AllSpellable stack := by
  cases stack with
  | nil => exact ⟨h, trivial⟩
  | cons o stack =>
    cases o with
    | bracket outer start negated => exact ⟨h, hstack _ _ _ _ rfl⟩
    | operation kind lhs =>
      refine ⟨h.2, ?_⟩
      cases stack with
      | nil => exact h.1
      | cons o stack =>
        cases o with
        | bracket outer start negated => exact ⟨h.1, hstack _ _ _ _ rfl⟩
        | operation kind' lhs' => exact h.1

/-- A bracket that is closed leaves what is open around it, if it is not the last. -/
theorem OpenSet.levelSpellable_of_innermost? {start : Nat} {negated : Bool} {outer : Members}
    (hinner : innermost? stack = some (start, negated, outer, rest))
    (h : rest ≠ [] → outer.Spellable ∧ AllSpellable rest) : LevelSpellable stack := by
  rintro outer' start' negated' rest' rfl
  cases hinner
  cases rest with
  | nil => trivial
  | cons o rest => exact h (List.cons_ne_nil _ _)

end

/-! ## Trees -/

/-- A flag list that does not turn verbose mode on where a blank outside ASCII may
be passed over. -/
def SpellableFlags (text : List Char) (items : List FlagItem) : Prop :=
  flagState items .verbose = some true → AsciiBlanks text

/-- What opens a group can be spelled: a name in ASCII, or flags that can. -/
def GroupKind.Spellable (text : List Char) : GroupKind → Prop
  | .numbered _ => True
  | .named _ _ name => ∀ x ∈ name.toList, x.toNat < 128
  | .plain _ items => SpellableFlags text items

/-- A repetition whose counts stand between braces, where blanks are passed over. -/
def RepetitionKind.Counted : RepetitionKind → Prop
  | .exactly _ => True
  | .atLeast _ => True
  | .bounded _ _ => True
  | _ => False

mutual

/-- A tree can be spelled in bytes, if it is that of a pattern with a given text. -/
def Tree.Spellable (text : List Char) : Tree → Prop
  | .property c => c.Spellable
  | .bracketed _ _ set => set.Spellable
  | .flags _ _ items => SpellableFlags text items
  | .group _ kind sub => kind.Spellable text ∧ sub.Spellable text
  | .repetition _ _ kind _ sub => (kind.Counted → AsciiBlanks text) ∧ sub.Spellable text
  | .alternation _ ts => Tree.AllSpellable text ts
  | .concat _ ts => Tree.AllSpellable text ts
  | .empty _ => True
  | .literal _ => True
  | .dot _ => True
  | .assertion _ _ => True
  | .shorthand _ => True

/-- The same for several trees. -/
def Tree.AllSpellable (text : List Char) : List Tree → Prop
  | [] => True
  | t :: ts => t.Spellable text ∧ Tree.AllSpellable text ts

end

theorem Tree.allSpellable_iff {ts : List Tree} :
    Tree.AllSpellable text ts ↔ ∀ t ∈ ts, t.Spellable text := by
  induction ts with
  | nil => exact ⟨fun _ t ht => (nomatch ht), fun _ => trivial⟩
  | cons t ts ih => rw [Tree.AllSpellable, ih, List.forall_mem_cons]

/-- Items that can be spelled in bytes. -/
def Items.Spellable (text : List Char) (i : Items) : Prop := ∀ t ∈ i.trees, t.Spellable text

namespace Items.Spellable

variable {i : Items} {t : Tree}

theorem of_toTree {stop : Nat} (h : (i.toTree stop).Spellable text) : i.Spellable text := by
  rcases i with ⟨start, _ | ⟨a, _ | ⟨b, rest⟩⟩⟩
  · exact fun _ ht => nomatch ht
  · exact List.forall_mem_singleton.2 h
  · exact Tree.allSpellable_iff.1 h

theorem of_concat {ts : List Tree} (h : ∀ u ∈ ts ++ [t], u.Spellable text) :
    (∀ u ∈ ts, u.Spellable text) ∧ t.Spellable text := by
  obtain ⟨hts, ht⟩ := List.forall_mem_append.1 h
  exact ⟨hts, List.forall_mem_singleton.1 ht⟩

theorem of_push {start : Nat} {ts : List Tree} (h : Items.Spellable text ⟨start, ts ++ [t]⟩) :
    (∀ u ∈ ts, u.Spellable text) ∧ t.Spellable text := of_concat h

end Items.Spellable

/-- What is open in a pattern can be spelled, as far as it is going to be closed. -/
def OpenItem.AllSpellable (text : List Char) : List OpenItem → Prop
  | .group outer _ kind _ :: rest =>
    outer.Spellable text ∧ kind.Spellable text ∧ OpenItem.AllSpellable text rest
  | .alternatives _ before :: .group outer start kind verbose :: rest =>
    (∀ t ∈ before, t.Spellable text) ∧
      OpenItem.AllSpellable text (.group outer start kind verbose :: rest)
  | .alternatives _ before :: _ => ∀ t ∈ before, t.Spellable text
  | [] => True

section

variable {items : Items} {stack : List OpenItem}

/-- A stack with a group on top, whose level is to be closed. -/
def OpenItem.LevelSpellable (text : List Char) (stack : List OpenItem) : Prop :=
  ∀ outer start kind verbose rest, stack = .group outer start kind verbose :: rest →
    OpenItem.AllSpellable text stack

/-- What is closed can be spelled with all that is on its level. -/
theorem OpenItem.spellable_of_closeAlternatives (stop : Nat)
    (h : (closeAlternatives items stop stack).1.Spellable text)
    (hstack : LevelSpellable text (closeAlternatives items stop stack).2) :
    items.Spellable text ∧ AllSpellable text stack := by
  cases stack with
  | nil => exact ⟨.of_toTree h, trivial⟩
  | cons o stack =>
    cases o with
    | group outer start kind verbose => exact ⟨.of_toTree h, hstack _ _ _ _ _ rfl⟩
    | alternatives start before =>
      obtain ⟨hbefore, hitems⟩ := Items.Spellable.of_concat (Tree.allSpellable_iff.1 h)
      refine ⟨.of_toTree hitems, ?_⟩
      cases stack with
      | nil => exact hbefore
      | cons o stack =>
        cases o with
        | group outer start kind verbose => exact ⟨hbefore, hstack _ _ _ _ _ rfl⟩
        | alternatives start' before' => exact hbefore

/-- So can the alternatives that a bar ends. -/
theorem OpenItem.spellable_of_pushAlternative {stop : Nat}
    (h : AllSpellable text (pushAlternative items stop stack)) :
    items.Spellable text ∧ AllSpellable text stack := by
  cases stack with
  | nil => exact ⟨.of_toTree (List.forall_mem_singleton.1 h), trivial⟩
  | cons o stack =>
    cases o with
    | group outer start kind verbose =>
      exact ⟨.of_toTree (List.forall_mem_singleton.1 h.1), h.2⟩
    | alternatives start before =>
      cases stack with
      | nil =>
        obtain ⟨hbefore, hitems⟩ := Items.Spellable.of_concat h
        exact ⟨.of_toTree hitems, hbefore⟩
      | cons o stack =>
        cases o with
        | group outer start' kind verbose =>
          obtain ⟨hbefore, hitems⟩ := Items.Spellable.of_concat h.1
          exact ⟨.of_toTree hitems, hbefore, h.2⟩
        | alternatives start' before' =>
          obtain ⟨hbefore, hitems⟩ := Items.Spellable.of_concat h
          exact ⟨.of_toTree hitems, hbefore⟩

end

/-! ## What was read on the way -/

/-- **One step of the reader after the other**, what has been read of a class can be
spelled if the class can. -/
theorem spellable_of_classRest {fuel : Nat} {stack : List OpenSet} {m : Members} {c c' : Cursor}
    {t : Tree} (h : classRest fuel stack m c = .ok (t, c')) (hopen : stack ≠ [])
    (ht : t.Spellable text) : m.Spellable ∧ OpenSet.AllSpellable stack := by
  induction fuel generalizing stack m c with
  | zero => cases h
  | succ fuel ih =>
    have hmember {x : Char} (h : (classRange stack c.skip x >>= fun r =>
        classRest fuel stack (m.push r.1) r.2) = .ok (t, c')) :
        m.Spellable ∧ OpenSet.AllSpellable stack := by
      obtain ⟨⟨item, c₁⟩, -, h⟩ := bind_eq_ok.1 h
      obtain ⟨hm, hstack⟩ := ih h hopen
      exact ⟨hm.of_push.1, hstack⟩
    simp only [classRest] at h
    split at h
    · cases h
    · split at h
      · obtain ⟨hm, hstack⟩ := ih h hopen
        exact ⟨hm.of_push.1, hstack⟩
      · obtain ⟨⟨negated, inner, c₁⟩, -, h⟩ := bind_eq_ok.1 h
        obtain ⟨-, hstack⟩ := ih h (List.cons_ne_nil _ _)
        obtain ⟨o, stack, rfl⟩ := List.exists_cons_of_ne_nil hopen
        exact hstack
    · split at h
      · cases h
      · next start negated outer rest hinner =>
        split at h
        · next hlast =>
          cases h
          have hlevel : OpenSet.LevelSpellable (closeOperation m.toSet stack).2 :=
            OpenSet.levelSpellable_of_innermost? hinner
              fun hne => absurd (List.isEmpty_iff.1 hlast) hne
          obtain ⟨hset, hstack⟩ := OpenSet.spellable_of_closeOperation ht hlevel
          exact ⟨.of_toSet hset, hstack⟩
        · next hlast =>
          obtain ⟨hm, hrest⟩ := ih h fun hnil => hlast (List.isEmpty_iff.2 hnil)
          obtain ⟨houter, hclass⟩ := hm.of_push
          have hlevel : OpenSet.LevelSpellable (closeOperation m.toSet stack).2 :=
            OpenSet.levelSpellable_of_innermost? hinner fun _ => ⟨houter, hrest⟩
          obtain ⟨hset, hstack⟩ := OpenSet.spellable_of_closeOperation hclass hlevel
          exact ⟨.of_toSet hset, hstack⟩
    · split at h
      · split at h
        · obtain ⟨-, hoperation⟩ := ih h (List.cons_ne_nil _ _)
          obtain ⟨hlhs, hlevel⟩ := hoperation.of_operation
          obtain ⟨hset, hstack⟩ := OpenSet.spellable_of_closeOperation hlhs hlevel
          exact ⟨.of_toSet hset, hstack⟩
        · exact hmember h
      · exact hmember h

/-- What is repeated can be spelled with what it is repeated from. -/
theorem Items.Spellable.of_repeated {sub : Tree} {items rest : Items} {offset opStart : Nat}
    {kind : RepetitionKind} {c : Cursor} (hsub : repeatable items offset = .ok (sub, rest))
    (h : (repeated sub rest opStart kind c).1.Spellable text) :
    items.Spellable text ∧ (kind.Counted → AsciiBlanks text) := by
  obtain ⟨-, rfl⟩ := repeatable_eq_ok.1 hsub
  unfold repeated at h
  obtain ⟨hrest, hcounted, hsub⟩ := Items.Spellable.of_push h
  exact ⟨List.forall_mem_append.2 ⟨hrest, List.forall_mem_singleton.2 hsub⟩, hcounted⟩

/-- Where a pattern ends, so does the level that is read. -/
theorem OpenItem.spellable_of_finish {stack : List OpenItem} {items : Items} {c : Cursor} {t : Tree}
    (h : finish stack items c = .ok t) (ht : t.Spellable text) :
    items.Spellable text ∧ OpenItem.AllSpellable text stack := by
  unfold finish at h
  split at h
  · next tree heq =>
    cases h
    refine OpenItem.spellable_of_closeAlternatives c.offset ?_ ?_ <;> rw [heq]
    · exact ht
    · exact fun _ _ _ _ _ h => nomatch h
  · cases h
  · next tree _ _ _ heq =>
    cases h
    refine OpenItem.spellable_of_closeAlternatives c.offset ?_ ?_ <;> rw [heq]
    · exact ht
    · exact fun _ _ _ _ _ h => nomatch h

/-- **One step of the reader after the other**, what has been read of a pattern can be
spelled if its tree can. -/
theorem spellable_of_patternRest {fuel : Nat} {stack : List OpenItem} {items : Items} {c : Cursor}
    {t : Tree} (h : patternRest fuel stack items c = .ok t) (ht : t.Spellable text) :
    items.Spellable text ∧ OpenItem.AllSpellable text stack := by
  induction fuel generalizing stack items c with
  | zero => exact OpenItem.spellable_of_finish h ht
  | succ fuel ih =>
    simp only [patternRest] at h
    split at h
    · exact OpenItem.spellable_of_finish h ht
    · obtain ⟨⟨opening, c₁⟩, -, h⟩ := bind_eq_ok.1 h
      rcases opening with ⟨span, flagSpan, flags⟩ | ⟨start, kind⟩
      · obtain ⟨hitems, hstack⟩ := ih h
        exact ⟨hitems.of_push.1, hstack⟩
      · obtain ⟨-, hitems, -, hstack⟩ := ih h
        exact ⟨hitems, hstack⟩
    · split at h
      · next sub outer start kind verbose rest heq =>
        obtain ⟨hitems, hrest⟩ := ih h
        obtain ⟨houter, hkind, hsub⟩ := hitems.of_push
        refine OpenItem.spellable_of_closeAlternatives c.skip.offset ?_ ?_ <;> rw [heq]
        · exact hsub
        · exact fun _ _ _ _ _ _ => ⟨houter, hkind, hrest⟩
      · cases h
    · exact OpenItem.spellable_of_pushAlternative (ih h).2
    · obtain ⟨⟨tree, c₁⟩, -, h⟩ := bind_eq_ok.1 h
      obtain ⟨hitems, hstack⟩ := ih h
      exact ⟨hitems.of_push.1, hstack⟩
    · obtain ⟨⟨sub, rest⟩, hsub, h⟩ := bind_eq_ok.1 h
      obtain ⟨⟨kind, c₁⟩, -, h⟩ := bind_eq_ok.1 h
      dsimp only at h
      split at h
      · obtain ⟨hitems, hstack⟩ := ih h
        exact ⟨(hitems.of_repeated hsub).1, hstack⟩
      · cases h
    · split at h
      · obtain ⟨⟨sub, rest⟩, hsub, h⟩ := bind_eq_ok.1 h
        obtain ⟨hitems, hstack⟩ := ih h
        exact ⟨(hitems.of_repeated hsub).1, hstack⟩
      · obtain ⟨⟨a, c₁⟩, -, h⟩ := bind_eq_ok.1 h
        obtain ⟨hitems, hstack⟩ := ih h
        exact ⟨hitems.of_push.1, hstack⟩

end Multiscan.Syntax
