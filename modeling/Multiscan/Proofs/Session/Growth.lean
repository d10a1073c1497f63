import Multiscan.Proofs.Custody.Frame
import Multiscan.Proofs.Session.LifeCycle
/-!
# Session — what scanners were given scratch space for

The operations of a run and their answers tell how many expressions the databases
have, and for which of them a scanner was given the scratch space that it has
(`Growth`). Until the scanner is closed or replaced, none of these is forgotten
(`served_foldl`).
-/

namespace Multiscan

open Session

/-! ## Scratch space -/

namespace Scanner

variable {sc : Scanner}

/-- The scratch space of a scanner. -/
def scratch? (sc : Scanner) : Option Handle :=
  match sc.stage with
  | .allocated k => some k
  | _ => none

theorem scratch?_of_toGrow {scratch : Option Handle} (h : sc.toGrow = .ok scratch) :
    sc.scratch? = scratch := by
  rcases sc with ⟨_ | k | _, events⟩
  · exact Except.ok.inj h
  · exact Except.ok.inj h
  · exact nomatch h

theorem scratch?_of_toScan {k : Handle} (h : sc.toScan = .ok k) : sc.scratch? = some k := by
  rcases sc with ⟨_ | k | _, events⟩
  · exact nomatch h
  · exact congrArg some (Except.ok.inj h)
  · exact nomatch h

theorem stage_of_scratch? {k : Handle} (h : sc.scratch? = some k) : sc.stage = .allocated k := by
  rcases sc with ⟨_ | k' | _, events⟩
  · exact nomatch h
  · exact congrArg Stage.allocated (Option.some.inj h)
  · exact nomatch h

end Scanner

namespace Session

/-- The scratch space of the scanner of a name. -/
def Workspace.scratch? (ws : Workspace) (s : String) : Option Handle :=
  (ws.scanners.find? s).bind Scanner.scratch?

theorem Workspace.scratch?_of_find? {ws : Workspace} {s : String} {sc : Scanner}
    (hs : ws.scanners.find? s = some sc) : ws.scratch? s = sc.scratch? := by
  rw [Workspace.scratch?, hs]
  rfl

theorem Workspace.scratch?_eq_some {ws : Workspace} {s : String} {k : Handle} :
    ws.scratch? s = some k ↔ (ws.scanners.find? s).map Scanner.stage = some (.allocated k) := by
  rw [Workspace.scratch?]
  rcases ws.scanners.find? s with _ | ⟨_ | k' | _, events⟩ <;> simp [Scanner.scratch?]

/-! ## What a run tells -/

/-- What a run tells about a scanner: how many expressions the database of each name
has, and how many those had for which the scanner was given its scratch space. -/
structure Growth where
  lengths : String → Option Nat
  served : List Nat

namespace Growth

/-- Before the run there is nothing. -/
def start : Growth := ⟨fun _ => none, []⟩

/-- What an operation and its answer tell. -/
def after (s : String) (g : Growth) : Operation × Answer → Growth
  | (.compile db _ _, .length n) =>
    { g with lengths := fun db' => if db' = db then some n else g.lengths db' }
  | (.dropDatabase db, .done) =>
    { g with lengths := fun db' => if db' = db then none else g.lengths db' }
  | (.alloc s' db, .done) =>
    if s' = s then { g with served := g.served ++ (g.lengths db).toList } else g
  | (.scannerFor s' db, .done) =>
    if s' = s then { g with served := (g.lengths db).toList } else g
  | (.scanner s', .done) | (.closeScanner s', .done) | (.dropScanner s', .done) =>
    if s' = s then { g with served := [] } else g
  | _ => g

end Growth

/-- The numbers of expressions of the databases for which a scanner was given the
scratch space that it has after a run. -/
def served (s : String) (history : List (Operation × Answer)) : List Nat :=
  (history.foldl (Growth.after s) .start).served

/-- The greatest of some numbers. -/
def greatest (ns : List Nat) : Nat := ns.foldl max 0

@[simp] theorem greatest_nil : greatest [] = 0 := rfl

@[simp] theorem greatest_concat (ns : List Nat) (n : Nat) :
    greatest (ns ++ [n]) = max (greatest ns) n := by
  rw [greatest, List.foldl_append]
  rfl

theorem le_greatest {ns : List Nat} {n : Nat} (h : n ∈ ns) : n ≤ greatest ns := by
  rw [greatest, List.foldl_max, Nat.zero_max]
  exact List.le_max?_getD_of_mem h

theorem greatest_mem {ns : List Nat} (h : ns ≠ []) : greatest ns ∈ ns := by
  obtain ⟨m, hm⟩ := Option.ne_none_iff_exists'.1 (mt List.max?_eq_none_iff.1 h)
  rw [greatest, List.foldl_max, Nat.zero_max, hm]
  exact List.max?_mem hm

theorem greatest_le_append (ns ms : List Nat) : greatest ns ≤ greatest (ns ++ ms) := by
  by_cases h : ns = []
  · rw [h]
    exact Nat.zero_le _
  · exact le_greatest (List.mem_append_left _ (greatest_mem h))

/-! ## What the run tells about databases -/

variable {ws ws' : Workspace} {s : String} {op : Operation} {a : Answer} {g : Growth}

theorem Growth.after_of_quiet (ha : a.Quiet) (op : Operation) : g.after s (op, a) = g := by
  cases op <;> cases a <;> first | rfl | exact ha.elim

/-- What is told about databases is so, and none has too many expressions. -/
structure Growth.Tracks (g : Growth) (ws : Workspace) : Prop where
  ordered : ws.Ordered
  lengths : ∀ db, g.lengths db = (ws.databases.find? db).map Database.length
  few : ∀ db n, g.lengths db = some n → n < UInt32.size

theorem Growth.tracks_start : Growth.start.Tracks .empty :=
  ⟨Workspace.ordered_empty, fun _ => rfl, nofun⟩

/-- **Every operation** tells what it does to databases. -/
theorem Workspace.Effect.tracks (h : ws.Effect op a ws') (hg : g.Tracks ws) (s : String) :
    (g.after s (op, a)).Tracks ws' := by
  have hsame : ∀ {g' : Growth} {ws' : Workspace}, g'.lengths = g.lengths →
      ws'.databases = ws.databases → ws'.Ordered → g'.Tracks ws' := fun hl hd ho =>
    ⟨ho, fun db => by rw [hl, hd, hg.lengths], fun db n => by rw [hl]; exact hg.few db n⟩
  have hlengths : ∀ {c : Prop} [Decidable c] (l : List Nat),
      (if c then { g with served := l } else g).lengths = g.lengths := fun l => by
    split <;> rfl
  have hordered := h.ordered hg.ordered
  rcases h with ha | ⟨db, groups, hcount, b⟩ | s' | ⟨_, _, s', k⟩ | _ |
    ⟨_, _, _, _, ha⟩ | hd | hd | _ | _
  case none => exact hsame (by rw [Growth.after_of_quiet ha]) rfl hordered
  case scan => exact hsame (by rw [Growth.after_of_quiet ha]) rfl hordered
  case compile es =>
    refine ⟨hordered, fun db' => ?_, fun db' n => ?_⟩
    · rw [Named.find?_put, Growth.after]
      dsimp only
      split
      · rfl
      · exact hg.lengths db'
    · rw [Growth.after]
      dsimp only
      split
      · rintro ⟨⟩
        exact hcount
      · exact hg.few db' n
  case closeDatabase db d =>
    refine ⟨hordered, fun db' => ?_, hg.few⟩
    rw [Named.find?_put]
    split
    · next heq =>
      rw [heq]
      exact (hg.lengths db).trans (by rw [hd]; rfl)
    · exact hg.lengths db'
  case dropDatabase db d =>
    refine ⟨hordered, fun db' => ?_, fun db' n => ?_⟩
    · rw [Named.find?_remove, Growth.after]
      dsimp only
      split
      · rfl
      · exact hg.lengths db'
    · rw [Growth.after]
      dsimp only
      split
      · exact nofun
      · exact hg.few db' n
  all_goals exact hsame (hlengths _) rfl hordered

/-- What a scanner is given scratch space for has few enough expressions. -/
theorem Growth.Tracks.served_lt (hg : g.Tracks ws) (hserved : ∀ n ∈ g.served, n < UInt32.size)
    (s : String) (x : Operation × Answer) : ∀ n ∈ (g.after s x).served, n < UInt32.size := by
  have hfew : ∀ db, ∀ n ∈ (g.lengths db).toList, n < UInt32.size := fun db n hn =>
    hg.few db n (Option.mem_toList.1 hn)
  obtain ⟨op, a⟩ := x
  by_cases ha : a.Quiet
  · rwa [Growth.after_of_quiet ha]
  rcases a with _ | n | _ | _ | _ | _ | _ | _ | _ | _ | _ | _ | _ <;>
    try exact absurd trivial ha
  case length => cases op <;> exact hserved
  case done =>
    cases op
    case alloc s' db =>
      rw [Growth.after]
      split
      · intro n hn
        exact (List.mem_append.1 hn).elim (hserved n) (hfew db n)
      · exact hserved
    case scannerFor s' db =>
      rw [Growth.after]
      split
      · exact hfew db
      · exact hserved
    case scanner | closeScanner | dropScanner =>
      rw [Growth.after]
      split
      · exact nofun
      · exact hserved
    all_goals exact hserved

/-- What does not name a scanner tells nothing about it. -/
theorem Growth.served_after (hop : ¬ op.NamesScanner s) (g : Growth) (a : Answer) :
    (g.after s (op, a)).served = g.served := by
  cases op <;> cases a <;> first | rfl | exact congrArg Growth.served (if_neg hop)

/-- As long as the scanner is not closed or replaced, nothing is forgotten. -/
theorem Growth.exists_served_after (hop : ¬ op.ReplacesScanner s) (hopen : op ≠ .closeScanner s)
    (g : Growth) (a : Answer) : ∃ ns, (g.after s (op, a)).served = g.served ++ ns := by
  have hsame : ∀ {g' : Growth}, g' = g → ∃ ns, g'.served = g.served ++ ns := by
    rintro g' rfl
    exact ⟨[], (List.append_nil _).symm⟩
  by_cases ha : a.Quiet
  · exact hsame (Growth.after_of_quiet ha op)
  rcases a with _ | n | _ | _ | _ | _ | _ | _ | _ | _ | _ | _ | _ <;>
    try exact absurd trivial ha
  case length => cases op <;> exact ⟨[], (List.append_nil _).symm⟩
  case done =>
    cases op
    case alloc s' db =>
      rw [Growth.after]
      split
      · exact ⟨_, rfl⟩
      · exact hsame rfl
    case scanner s' => exact hsame (if_neg hop)
    case scannerFor s' db => exact hsame (if_neg hop)
    case dropScanner s' => exact hsame (if_neg hop)
    case closeScanner s' => exact hsame (if_neg fun heq => hopen (by rw [heq]))
    all_goals exact ⟨[], (List.append_nil _).symm⟩

/-- As long as the scanner is not closed or replaced, nothing of what it was given
scratch space for is forgotten. -/
theorem served_foldl {history : List (Operation × Answer)}
    (h : ∀ x ∈ history, ¬ x.1.ReplacesScanner s ∧ x.1 ≠ .closeScanner s) (g : Growth) :
    ∃ ns, (history.foldl (Growth.after s) g).served = g.served ++ ns := by
  induction history generalizing g with
  | nil => exact ⟨[], (List.append_nil _).symm⟩
  | cons x history ih =>
    obtain ⟨⟨hreplaces, hopen⟩, hrest⟩ := List.forall_mem_cons.1 h
    obtain ⟨ns, hns⟩ := Growth.exists_served_after hreplaces hopen g x.2
    obtain ⟨ns', hns'⟩ := ih hrest (g.after s x)
    exact ⟨ns ++ ns', by rw [List.foldl_cons, hns', hns, List.append_assoc]⟩

end Session

end Multiscan
