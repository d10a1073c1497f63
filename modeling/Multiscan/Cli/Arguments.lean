import Multiscan.Text.Broken
/-!
# Command line — splitting arguments

A command line is a list of arguments, each a sequence of bytes. It is split
into options, their values and positional arguments. Short options can be
written together behind one dash; the last may have its value attached, with
or without an equals sign. A long option has its value behind an equals sign
or in the next argument. Behind two dashes everything is positional. Which
options take a value has to be known beforehand.
-/

namespace Multiscan.Cli

open Text (Bytes)

/-- The name of an option. -/
inductive Name
  | short (c : Char)
  | long (name : String)
  deriving DecidableEq, Repr

/-- An option as it is written. -/
def Name.written : Name → String
  | .short c => String.ofList ['-', c]
  | .long name => "--" ++ name

/-- A part of a command line. -/
inductive Token
  /-- An option that takes no value. -/
  | flag (name : Name)
  /-- An option and its value. -/
  | option (name : Name) (value : Bytes)
  /-- An option that takes a value, which is missing. -/
  | missing (name : Name)
  /-- A value attached to an option that takes none. -/
  | surplus (name : Name) (value : Bytes)
  /-- An argument that is no option. -/
  | positional (value : Bytes)
  deriving DecidableEq

/-- What a group of short options comes to: its parts and, if the last
takes a value that is not attached, that option. -/
structure ShortGroup where
  tokens : List Token
  open? : Option Name

/-- The first character of bytes, or a replacement for their first byte,
and the number of bytes it takes. -/
def firstChar (bytes : List UInt8) : Char × Nat :=
  match Text.decodeAt (bytes.take 4).toArray 0 with
  | some c => (c, Text.width c)
  | none => ('\uFFFD', 1)

theorem firstChar_pos (bytes : List UInt8) : 0 < (firstChar bytes).2 := by
  unfold firstChar
  split
  · exact Text.width_pos _
  · exact Nat.one_pos

/-- Short options written together; `before` is the one before them. -/
def shortGroup (takesValue : Name → Bool) (before : Option Name) (bytes : List UInt8) :
    ShortGroup :=
  match bytes with
  | [] => ⟨[], none⟩
  | b :: bs =>
    match before, b == '='.toUInt8 with
    | some name, true => ⟨[.surplus name bs.toArray], none⟩
    | _, _ =>
      let rest := (b :: bs).drop (firstChar (b :: bs)).2
      let name := Name.short (firstChar (b :: bs)).1
      if takesValue name then
        match rest with
        | [] => ⟨[], some name⟩
        | r :: rs => ⟨[.option name (if r == '='.toUInt8 then rs else rest).toArray], none⟩
      else
        let group := shortGroup takesValue (some name) rest
        { group with tokens := .flag name :: group.tokens }
termination_by bytes.length
decreasing_by
  have := firstChar_pos (b :: bs)
  simp only [List.length_drop, List.length_cons]
  omega

/-- A long option, its dashes taken off, with the value attached to it. -/
def longOption (bytes : List UInt8) : Name × Option Bytes :=
  let name := Name.long (Text.lossy (bytes.takeWhile (· != '='.toUInt8)).toArray)
  match bytes.dropWhile (· != '='.toUInt8) with
  | [] => (name, none)
  | _ :: value => (name, some value.toArray)

/-- An argument by its shape. -/
inductive Shape
  /-- The two dashes that end the options. -/
  | endOfOptions
  | long (name : Name) (value : Option Bytes)
  | shorts (bytes : List UInt8)
  | positional

/-- The shape of an argument. One dash alone is positional. -/
def shape (argument : Bytes) : Shape :=
  match argument.toList with
  | [45, 45] => .endOfOptions
  | 45 :: 45 :: rest => let (name, value) := longOption rest; .long name value
  | 45 :: b :: rest => .shorts (b :: rest)
  | _ => .positional

/-- The parts of a command line. -/
def tokens (takesValue : Name → Bool) : List Bytes → List Token
  | [] => []
  | argument :: rest =>
    match shape argument with
    | .endOfOptions => rest.map .positional
    | .positional => .positional argument :: tokens takesValue rest
    | .long name value =>
      if takesValue name then
        match value with
        | some v => .option name v :: tokens takesValue rest
        | none =>
          match rest with
          | [] => [.missing name]
          | v :: rest => .option name v :: tokens takesValue rest
      else
        match value with
        | some v => [.flag name, .surplus name v]
        | none => .flag name :: tokens takesValue rest
    | .shorts bytes =>
      let group := shortGroup takesValue none bytes
      match group.open? with
      | none => group.tokens ++ tokens takesValue rest
      | some name =>
        match rest with
        | [] => group.tokens ++ [.missing name]
        | v :: rest => group.tokens ++ .option name v :: tokens takesValue rest

/-- The first argument of a command line, which is to be a command. -/
inductive First
  | nothing
  | option (name : Name)
  /-- A command, the arguments behind it, and whether these are all
  positional. -/
  | command (name : Bytes) (rest : List Bytes) (allPositional : Bool)

/-- The first part of a command line. -/
def first : List Bytes → First
  | [] => .nothing
  | argument :: rest =>
    match shape argument with
    | .endOfOptions =>
      match rest with
      | [] => .nothing
      | name :: rest => .command name rest true
    | .long name _ => .option name
    | .shorts bytes => .option (.short (firstChar bytes).1)
    | .positional => .command argument rest false

end Multiscan.Cli
