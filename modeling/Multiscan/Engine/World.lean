import Multiscan.Engine.Basic
/-!
# Engine — what operations act on

Operations of this library act on an engine's state and leave notes about
what they did. An operation that fails keeps the state it has reached:
what an engine did cannot be undone.
-/

namespace Multiscan

/-- A note about something that was done. -/
inductive Note
  /-- So many expressions became a database. -/
  | compiled (count : Nat) (database : Handle)
  /-- One of so many expressions was refused. -/
  | refused (count : Nat) (index : Option Nat) (message : String)
  /-- Scratch space serves a database. -/
  | allocated (scratch database : Handle)
  /-- So many bytes were scanned and so many matches reported. -/
  | scanned (bytes : Nat) (database : Handle) (events : Nat)
  /-- A database was taken back. -/
  | releasedDatabase (database : Handle)
  /-- A database was not taken back as it should be. -/
  | keptDatabase (database : Handle) (e : Error)
  /-- Scratch space was taken back. -/
  | releasedScratch (scratch : Handle)
  /-- Scratch space was not taken back as it should be. -/
  | keptScratch (scratch : Handle) (e : Error)
  /-- An error record was not taken back as it should be. -/
  | keptRecord (code : Code)

/-- How an optional position is printed. -/
def printedIndex : Option Nat → String
  | none => "None"
  | some i => "Some(" ++ Nat.repr i ++ ")"

/-- The line of a note: its level, then its text. Handles are not told
apart. -/
def Note.line : Note → String
  | .compiled count _ => "DEBUG compiled " ++ Nat.repr count ++ " expression(s) into database PTR"
  | .refused count index message =>
    "DEBUG compile of " ++ Nat.repr count ++ " expression(s) failed at " ++ printedIndex index ++
      ": " ++ message
  | .allocated _ _ => "DEBUG allocated scratch space PTR for PTR"
  | .scanned bytes _ events =>
    "TRACE scanned " ++ Nat.repr bytes ++ " bytes with database PTR: " ++ Nat.repr events ++
      " event(s)"
  | .releasedDatabase _ => "DEBUG released database PTR"
  | .keptDatabase _ e => "WARN failed to free database PTR: " ++ e.message
  | .releasedScratch _ => "DEBUG released scratch space PTR"
  | .keptScratch _ e => "WARN failed to free scratch space PTR: " ++ e.message
  | .keptRecord code => "WARN failed to free compile error record: code " ++ toString code

/-- An engine's state and the notes so far. -/
structure World (σ : Type) where
  engine : σ
  notes : List Note

/-- An operation that always comes to an end with a value. -/
abbrev Step (σ α : Type) := StateM (World σ) α

/-- An operation that can fail. -/
abbrev Act (σ α : Type) := ExceptT Error (StateM (World σ)) α

namespace World

variable {σ : Type}

/-- The world in which nothing has been noted yet. -/
def start (s : σ) : World σ := ⟨s, []⟩

/-- Ask an engine. -/
def ask (E : Engine σ) (r : Engine.Request) : Step σ (Engine.Reply r) := fun w =>
  let (reply, s) := E.answer r w.engine
  (reply, { w with engine := s })

/-- Leave a note. -/
def note (n : Note) : Step σ Unit := fun w => ((), { w with notes := w.notes ++ [n] })

end World

namespace Act

variable {σ α : Type}

/-- A value or an error that no engine had a part in. -/
def ofExcept (x : Except Error α) : Act σ α := ExceptT.mk (pure x)

/-- Leave a note and go on. -/
def note (n : Note) : Act σ Unit := ExceptT.lift (World.note n)

/-- An operation that can fail, as one that comes to an end either way. -/
def attempt (a : Act σ α) : Step σ (Except Error α) := a.run

end Act

/-- The message and the index of an error record, which is given back to
the engine. A record without a message is one of an unknown error. -/
def takeRecord {σ : Type} (E : Engine σ) (v : Variant) (e : Engine.ErrorRecord) :
    Step σ (String × Int) := do
  let code ← World.ask E (.freeError v e.handle)
  if code ≠ Code.success then
    World.note (.keptRecord code)
  return (e.message.getD "unknown compile error", e.index)

end Multiscan
