import Mathlib.Data.List.Basic

/-! # Capability flags and compression levels

`CapabilityFlags` is the `bitflags` set of `mysql_common` over `u32`, with the bit
values of the MySQL client/server protocol. Which bits the crate declares is not in
the sources: the set of declared flags (`CapabilityFlags::all()`) is a parameter
`all` wherever the model needs it, which is only in the complement that
`remove_capability` takes. `Compression` is the level of `flate2`. -/

namespace MysqlAsyncOpts.Lib.Protocol

structure CapabilityFlags where
  bits : BitVec 32
  deriving DecidableEq, Repr

namespace CapabilityFlags

instance : OrOp CapabilityFlags := ⟨fun a b => ⟨a.bits ||| b.bits⟩⟩

instance : AndOp CapabilityFlags := ⟨fun a b => ⟨a.bits &&& b.bits⟩⟩

/-- `!` of a `bitflags` set: the complement within the declared flags. -/
def complement (all f : CapabilityFlags) : CapabilityFlags := ⟨all.bits &&& ~~~f.bits⟩

def contains (s f : CapabilityFlags) : Bool := s.bits &&& f.bits == f.bits

/-- The flag of bit `i`. -/
def bit (i : Nat) : CapabilityFlags := ⟨BitVec.twoPow 32 i⟩

def clientLongPassword : CapabilityFlags := bit 0
def clientConnectWithDb : CapabilityFlags := bit 3
def clientCompress : CapabilityFlags := bit 5
def clientLocalFiles : CapabilityFlags := bit 7
def clientProtocol41 : CapabilityFlags := bit 9
def clientSsl : CapabilityFlags := bit 11
def clientTransactions : CapabilityFlags := bit 13
def clientSecureConnection : CapabilityFlags := bit 15
def clientMultiStatements : CapabilityFlags := bit 16
def clientMultiResults : CapabilityFlags := bit 17
def clientPsMultiResults : CapabilityFlags := bit 18
def clientPluginAuth : CapabilityFlags := bit 19
def clientDeprecateEof : CapabilityFlags := bit 24

@[simp] theorem or_bits (a b : CapabilityFlags) : (a ||| b).bits = a.bits ||| b.bits := rfl

@[simp] theorem and_bits (a b : CapabilityFlags) : (a &&& b).bits = a.bits &&& b.bits := rfl

@[simp] theorem complement_bits (all f : CapabilityFlags) :
    (complement all f).bits = all.bits &&& ~~~f.bits := rfl

/-- A set holds the flag of bit `i` exactly when that bit is set. -/
theorem contains_bit {s : CapabilityFlags} {i : Nat} (hi : i < 32) :
    s.contains (bit i) = s.bits.getLsbD i := by
  have hne : BitVec.twoPow 32 i ≠ 0#32 := fun h => by
    simpa [hi] using congrArg (·.getLsbD i) h
  simp only [contains, bit, BitVec.and_twoPow]
  by_cases h : s.bits.getLsbD i <;> simp [h, Ne.symm hne]

theorem getLsbD_bit {i j : Nat} (hi : i < 32) : (bit i).bits.getLsbD j = decide (i = j) := by
  simp [bit, BitVec.getLsbD_twoPow, hi]

/-- A bit or'ed in under a condition, read back bit by bit. -/
theorem getLsbD_orIf (s : CapabilityFlags) (c : Bool) {k : Nat} (hk : k < 32) (i : Nat) :
    (if c then s ||| bit k else s).bits.getLsbD i =
      (s.bits.getLsbD i || (decide (i = k) && c)) := by
  cases c <;> simp [getLsbD_bit hk, eq_comm]

end CapabilityFlags

/-- `flate2::Compression`. -/
structure Compression where
  level : Nat
  deriving DecidableEq, Repr

namespace Compression

def new (level : Nat) : Compression := ⟨level⟩

def fast : Compression := ⟨1⟩

def best : Compression := ⟨9⟩

def default : Compression := ⟨6⟩

end Compression

end MysqlAsyncOpts.Lib.Protocol
