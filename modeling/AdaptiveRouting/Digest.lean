import AdaptiveRouting.Ids

/-!
# Digests

The deterministic two-lane digest over a little-endian byte encoding. Every fingerprint of a request
and every semantic digest is written through it.
-/

namespace AdaptiveRouting

def fnvOffsetA : UInt64 := 14695981039346656037
def fnvOffsetB : UInt64 := 0x9E3779B97F4A7C15
def fnvPrime : UInt64 := 1099511628211

def mix (lane : UInt64) (byte : UInt8) : UInt64 := (lane ^^^ byte.toUInt64) * fnvPrime

structure Digest where
  low : UInt64 := fnvOffsetA
  high : UInt64 := fnvOffsetB
  deriving DecidableEq, Repr

namespace Digest

def writeU8 (g : Digest) (value : UInt8) : Digest := ⟨mix g.low value, mix g.high value⟩

def writeBytes (g : Digest) (bytes : Text) : Digest := bytes.foldl writeU8 g

def writeU16 (g : Digest) (value : UInt16) : Digest :=
  (g.writeU8 value.toUInt8).writeU8 (value >>> 8).toUInt8

def writeU32 (g : Digest) (value : UInt32) : Digest :=
  g.writeBytes ((List.range 4).map fun index => (value >>> (8 * index).toUInt32).toUInt8)

def writeU64 (g : Digest) (value : UInt64) : Digest :=
  g.writeBytes ((List.range 8).map fun index => (value >>> (8 * index).toUInt64).toUInt8)

/-- The two's complement of a signed number, as an unsigned one. -/
def writeI64 (g : Digest) (value : Int) : Digest := g.writeU64 (UInt64.ofInt value)

def writeBool (g : Digest) (value : Bool) : Digest := g.writeU8 (if value then 1 else 0)

/-- Length-prefixed, so that concatenation is unambiguous. -/
def writeString (g : Digest) (text : Text) : Digest :=
  (g.writeU64 text.length.toUInt64).writeBytes text

def writeTag (g : Digest) (tag : Text) : Digest := (g.writeU8 0x1F).writeString tag

def writeId {d : IdDomain} (g : Digest) (id : StrongId d) : Digest := g.writeString id.text

def writeGeneration {d : GenerationDomain} (g : Digest) (generation : Generation d) : Digest :=
  g.writeU64 generation.value

/-- A presence flag, and the value behind it. -/
def writeOption {α : Type} (write : Digest → α → Digest) (g : Digest) : Option α → Digest
  | none => g.writeBool false
  | some value => write (g.writeBool true) value

/-- The number of elements, and the elements. -/
def writeList {α : Type} (write : Digest → α → Digest) (g : Digest) (values : List α) : Digest :=
  values.foldl write (g.writeU64 values.length.toUInt64)

def hexDigit (n : Nat) : UInt8 := if n < 10 then (0x30 + n).toUInt8 else (0x57 + n).toUInt8

def hexLane (lane : UInt64) : Text :=
  (List.range 16).map fun index => hexDigit ((lane.toNat >>> (4 * (15 - index))) % 16)

/-- The 32 lowercase hex characters of the two lanes, the low one first. -/
def hex (g : Digest) : Text := hexLane g.low ++ hexLane g.high

end Digest

end AdaptiveRouting
