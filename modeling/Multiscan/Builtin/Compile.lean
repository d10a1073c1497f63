import Multiscan.Builtin.Builder
import Multiscan.Builtin.Heap
import Multiscan.FlagWord
import Multiscan.Pattern
/-!
# Built-in engine — reading expressions

Each pattern of a batch is compiled on its own; the first that is refused
refuses the batch. What is known about a single expression comes from the
same reading of its pattern.
-/

namespace Multiscan.Builtin

open Engine

/-- The text of a pattern. Engines read a pattern up to its first NUL. -/
def readPattern (pattern : Option Text.Bytes) : Except String (List Char) :=
  match pattern with
  | none => .error "Invalid parameter: expression is NULL."
  | some bytes =>
    match Text.decode? (bytes.takeWhile (· != 0)) with
    | none => .error "Expression is not valid UTF-8."
    | some cs => .ok cs

/-- A word of flags, provided that a variant knows all of its bits. -/
def readFlags (v : Variant) (flags : UInt32) : Except String Unit :=
  if flags &&& ~~~v.knownBits = 0 then .ok () else .error "Unrecognised flag."

/-- What a pattern means under flags. -/
def readRegex (pattern : List Char) (flags : UInt32) : Except String Regex :=
  (Pattern.parse pattern flags).mapError Syntax.SyntaxError.message

/-- What a pattern means under flags, provided that there is an automaton for
it. -/
def build (setup : Setup) (pattern : List Char) (flags : UInt32) : Except String Regex :=
  match readRegex pattern flags with
  | .error message => .error message
  | .ok r =>
    match setup.failure? (FlagWord.has flags .utf8) r with
    | none => .ok r
    | some failure => .error failure.message

/-- One pattern of a batch, compiled. -/
def compileOne (setup : Setup) (pattern : Option Text.Bytes) (flags id : UInt32) :
    Except String Compiled := do
  let text ← readPattern pattern
  readFlags .extended flags
  let r ← build setup text flags
  return ⟨id, FlagWord.has flags .singleMatch, FlagWord.has flags .utf8, r⟩

/-- A pattern of a batch with its flags and its id. -/
structure Source where
  pattern : Option Text.Bytes
  flags : UInt32
  id : UInt32

/-- The patterns of a batch from position `i` on, compiled, or the first
that is refused with the reason. -/
def compileAll (setup : Setup) (i : Nat) :
    List Source → Except (Nat × String) (List Compiled)
  | [] => .ok []
  | s :: rest =>
    match compileOne setup s.pattern s.flags s.id with
    | .error message => .error (i, message)
    | .ok c => (compileAll setup (i + 1) rest).map (c :: ·)

/-- Give out a record of an error. -/
def giveRecord (message : String) (index : Int) : Call ErrorRecord := do
  let h ← give (.record (some message) index)
  return ⟨h, some message, index⟩

/-- The reply to a batch that is refused. -/
def refuseBatch (message : String) (index : Int) : Call CompileReply := do
  let record ← giveRecord message index
  return ⟨Code.compilerError, none, some record⟩

/-- A position in a batch as a record has it, which is in 32 bits with a
sign. -/
def recordIndex (i : Nat) : Int := (Int32.ofNat i).toInt

/-- The mode of a batch, if it is one of those that there are. -/
def knownMode (mode : UInt32) : Bool := mode &&& ~~~groupsMode == 0

/-- A batch compiled into a database. -/
def compileBatch (setup : Setup) (batch : List Source) (mode : UInt32) :
    Call CompileReply :=
  if batch.isEmpty then
    refuseBatch "Invalid parameter: elements must be greater than zero." (-1)
  else if !knownMode mode then
    refuseBatch "Invalid parameter: unknown mode." (-1)
  else
    match compileAll setup 0 batch with
    | .error (i, message) => refuseBatch message (recordIndex i)
    | .ok patterns => do
      let h ← give (.database patterns)
      return ⟨Code.success, some h, none⟩

/-! ## Facts about one expression -/

/-- A number as far as 32 bits go. -/
def saturate (n : Nat) : UInt32 := if n < UInt32.size then UInt32.ofNat n else 0xFFFFFFFF

/-- The facts about an expression of a known extent. -/
def rawInfo (e : Pattern.Extent) : RawInfo where
  least := saturate e.least
  greatest := (e.greatest.map saturate).getD 0xFFFFFFFF
  unordered := false
  atEnd := e.atEnd
  onlyAtEnd := e.onlyAtEnd

/-- The facts about an expression, or the reason why there are none. -/
def analyze (pattern : Option Text.Bytes) (flags : UInt32) : Except String RawInfo := do
  let text ← readPattern pattern
  readFlags .base flags
  let r ← readRegex text flags
  match Pattern.extent? r with
  | none => .error "Pattern can never match."
  | some e =>
    if e.least = 0 && !FlagWord.has flags .allowEmpty then
      .error "Pattern matches empty buffer; use HS_FLAG_ALLOWEMPTY to enable support."
    else
      .ok (rawInfo e)

/-- The reply to a question about an expression. -/
def answerInfo (pattern : Option Text.Bytes) (flags : UInt32) : Call InfoReply :=
  match analyze pattern flags with
  | .error message => do
    let record ← giveRecord message 0
    return ⟨Code.compilerError, none, some record⟩
  | .ok raw => do
    let h ← give (.info raw)
    return ⟨Code.success, some (h, raw), none⟩

end Multiscan.Builtin
