import Multiscan.Session.Probe
import Multiscan.Session.Workspace
/-!
# Session — steps and reports

A session is a run of operations in one workspace with the probe engine,
whose script can be changed between them. Each step is reported with its
answer, the tallies after it and what was noted during it.
-/

namespace Multiscan

namespace Session

/-- One step of a session. -/
inductive SessionStep
  /-- Do something in the workspace. -/
  | operate (op : Operation)
  /-- Change entries of the script. -/
  | script (entries : List Entry)
  /-- Leave everything to the engine again. -/
  | reset

/-- What a step did. -/
structure Report where
  answer : Answer
  tallies : Tallies
  notes : List Note

end Session

/-- A session: how the engine behind the probe is set up, the world of the probe
and the workspace in it. -/
structure Session where
  setup : Builtin.Setup
  world : World Session.Probe
  workspace : Session.Workspace

namespace Session

/-- The session before its first step. -/
def start (setup : Builtin.Setup := .standard) : Session := ⟨setup, .start .start, .empty⟩

/-- The session with a changed script. -/
def mapScript (s : Session) (f : Script → Script) : Session :=
  let p := s.world.engine
  { s with world := { s.world with engine := { p with script := f p.script } } }

/-- The session with nothing noted. -/
def forgetNotes (s : Session) : Session := { s with world := { s.world with notes := [] } }

/-- A step taken. -/
def take (s : Session) : SessionStep → Answer × Session
  | .operate op =>
    let ((answer, workspace), world) := s.workspace.perform (probe s.setup) op s.world
    (answer, ⟨s.setup, world, workspace⟩)
  | .script entries => (.done, s.mapScript fun script => entries.foldl Script.set script)
  | .reset => (.done, s.mapScript fun _ => .empty)

/-- A step taken and reported. -/
def step (s : Session) (st : SessionStep) : Report × Session :=
  let (answer, s') := s.forgetNotes.take st
  (⟨answer, s'.world.engine.tallies, s'.world.notes⟩, s')

/-- The reports of several steps, and the session after them. -/
def steps (s : Session) : List SessionStep → List Report × Session
  | [] => ([], s)
  | st :: rest =>
    let (r, s') := s.step st
    let (rs, s'') := s'.steps rest
    (r :: rs, s'')

/-- The end of a session, where everything is closed, reported. -/
def finish (s : Session) : Report :=
  let (_, world) := s.workspace.closeAll (probe s.setup) s.forgetNotes.world
  ⟨.done, world.engine.tallies, world.notes⟩

/-- The reports of a whole session, the last one of its end. -/
def run (setup : Builtin.Setup) (sts : List SessionStep) : List Report :=
  let (rs, s) := (start setup).steps sts
  rs ++ [s.finish]

end Session

end Multiscan
