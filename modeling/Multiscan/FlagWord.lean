import Multiscan.Error
/-!
# Sets of flags as words of bits

Engines see a set of flags as a word of bits. A set is packed for one
variant, which refuses what that variant does not know, and unpacked again,
which refuses unknown bits.
-/

namespace Multiscan

namespace FlagSet

/-- The word of a list of flags for a variant, or the first flag that the
variant does not know. -/
def packList (v : Variant) : List Flag → Except Flag UInt32
  | [] => .ok 0
  | f :: fs =>
    match f.bits? v with
    | none => .error f
    | some bits => (packList v fs).map (bits ||| ·)

/-- The word of a set for a variant. A flag that the variant does not know
is refused. -/
def encode (s : FlagSet) (v : Variant) : Except Error UInt32 :=
  match packList v s.toList with
  | .ok word => .ok word
  | .error f =>
    .error (.invalid ("flag '" ++ f.name ++ "' is not supported by the " ++ v.name ++ " engine"))

/-- Whether a flag is one that reaches a variant and its bit is in a word. -/
def isSet (v : Variant) (word : UInt32) (f : Flag) : Bool :=
  match f.bits? v with
  | some bits => bits != 0 && word &&& bits == bits
  | none => false

/-- The bits of a word that no flag of a variant accounts for. -/
def unknownBits (v : Variant) (word : UInt32) : UInt32 :=
  (Flag.all.filter (isSet v word)).foldl (fun rest f => rest &&& ~~~f.bit) word

/-- The set that a word of a variant stands for. Bits that the variant does
not know are refused. -/
def decode (v : Variant) (word : UInt32) : Except Error FlagSet :=
  if unknownBits v word = 0 then .ok ⟨isSet v word⟩
  else .error (.invalid ("unknown flag bits 0x" ++ Text.smallHex (unknownBits v word).toNat ++
    " for the " ++ v.name ++ " engine"))

end FlagSet

/-- The flag of a name. -/
def Flag.ofName? (name : String) : Except Error Flag :=
  match Flag.all.find? (·.name == name) with
  | some f => .ok f
  | none => .error (.invalid ("unrecognized flag '" ++ name ++ "'"))

end Multiscan
