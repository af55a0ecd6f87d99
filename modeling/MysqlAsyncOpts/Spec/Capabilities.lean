import MysqlAsyncOpts.Opts.Builder

/-! # The capabilities offered after a run of builder calls

Bit by bit, the stored capabilities of a builder are decided by the last
`add_capability` or `remove_capability` call whose mask holds the bit, and
`get_capabilities` then puts back the database, TLS and compression bits whose field
is set. The law is for the declared flags, the bits of `all`: `remove_capability`
complements within them, so it clears every undeclared bit. -/

namespace MysqlAsyncOpts.Spec.Capabilities
open MysqlAsyncOpts.Lib.Protocol MysqlAsyncOpts.Opts.Options MysqlAsyncOpts.Opts.Builder
open CapabilityFlags

/-- What a call says about flag `f`: `some true` for an `add_capability` whose mask
holds it, `some false` for such a `remove_capability`, and nothing otherwise. -/
def maskCall (f : CapabilityFlags) : OptsBuilderCall → Option Bool
  | .addCapability m => if m.contains f then some true else none
  | .removeCapability m => if m.contains f then some false else none
  | _ => none

/-- The last capability call of a sequence whose mask holds `f`, by its kind. -/
def lastMaskCall (f : CapabilityFlags) (calls : List OptsBuilderCall) : Option Bool :=
  lastCall (maskCall f) calls

theorem bit_eq_bit {i j : Nat} (hi : i < 32) (hj : j < 32) : bit i = bit j ↔ i = j := by
  refine ⟨fun h => ?_, fun h => h ▸ rfl⟩
  simpa [getLsbD_bit hi, getLsbD_bit hj] using congrArg (·.bits.getLsbD j) h

section
variable (all : CapabilityFlags)

/-- No call other than the two capability calls changes a stored bit. -/
theorem call_capabilities (b : OptsBuilder) (c : OptsBuilderCall)
    (hadd : ∀ m, c ≠ .addCapability m) (hremove : ∀ m, c ≠ .removeCapability m) :
    (b.call all c).opts.capabilities = b.opts.capabilities := by
  cases c <;> first | rfl | exact absurd rfl (hadd _) | exact absurd rfl (hremove _)

variable {i : Nat} (hi : i < 32) (hdef : all.bits.getLsbD i = true)
include hi hdef

/-- One call on a declared bit: a capability call whose mask holds it decides it. -/
theorem call_getLsbD (b : OptsBuilder) (c : OptsBuilderCall) :
    (b.call all c).opts.capabilities.bits.getLsbD i =
      (maskCall (bit i) c).getD (b.opts.capabilities.bits.getLsbD i) := by
  cases c with
  | addCapability m =>
    simp only [OptsBuilder.call, maskCall, contains_bit hi, or_bits, BitVec.getLsbD_or]
    cases m.bits.getLsbD i <;> simp
  | removeCapability m =>
    simp only [OptsBuilder.call, maskCall, contains_bit hi, and_bits, complement_bits,
      BitVec.getLsbD_and, BitVec.getLsbD_not, hdef, hi]
    cases m.bits.getLsbD i <;> simp
  | _ => rfl

/-- A run on a declared bit: the last capability call whose mask holds it, else the
bit the run started with. -/
theorem run_getLsbD (b : OptsBuilder) (calls : List OptsBuilderCall) :
    (b.run all calls).opts.capabilities.bits.getLsbD i =
      (lastMaskCall (bit i) calls).getD (b.opts.capabilities.bits.getLsbD i) :=
  OptsBuilder.run_lastCall all (·.opts.capabilities.bits.getLsbD i) (maskCall (bit i))
    (call_getLsbD all hi hdef) b calls

end

/-- **The capabilities of a built `Opts`.** For every declared flag `f`, the options
built after any calls offer `f` exactly when it is one of the three flags whose field
is set, or the last capability call whose mask holds `f` added it, or no such call was
made and the builder started with it. No other call changes a stored bit. -/
theorem getCapabilities_run (all : CapabilityFlags) :
    (∀ (b0 : OptsBuilder) (calls : List OptsBuilderCall) (i : Nat), i < 32 →
      all.contains (bit i) = true →
      let b := b0.run all calls
      (Opts.ofBuilder b).getCapabilities.contains (bit i) =
        ((bit i == clientConnectWithDb && b.opts.dbName.isSome) ||
          (bit i == clientSsl && b.opts.sslOpts.isSome) ||
          (bit i == clientCompress && b.opts.compression.isSome) ||
          (lastMaskCall (bit i) calls).getD (b0.opts.capabilities.contains (bit i)))) ∧
    ∀ (b : OptsBuilder) (c : OptsBuilderCall), (∀ m, c ≠ .addCapability m) →
      (∀ m, c ≠ .removeCapability m) →
        (b.call all c).opts.capabilities = b.opts.capabilities := by
  refine ⟨fun b0 calls i hi hdef => ?_, call_capabilities all⟩
  rw [contains_bit hi] at hdef
  simp only [contains_bit hi, Opts.getCapabilities_getLsbD, Opts.ofBuilder,
    run_getLsbD all hi hdef, beq_eq_decide, clientConnectWithDb, clientSsl, clientCompress,
    bit_eq_bit hi (by decide : 3 < 32), bit_eq_bit hi (by decide : 11 < 32),
    bit_eq_bit hi (by decide : 5 < 32)]
  cases (lastMaskCall (bit i) calls).getD (b0.opts.capabilities.bits.getLsbD i) <;>
    simp [Bool.or_comm]

/-- `db_name(Some("x"))`, then `remove_capability(CLIENT_CONNECT_WITH_DB)`. -/
def dbNameRemoveCalls : List OptsBuilderCall :=
  [.dbName (some "x"), .removeCapability clientConnectWithDb]

/-- The removed flag is no longer stored, yet it is offered, since the database name
is set. -/
theorem getCapabilities_run_dbNameRemove :
    3 < 32 ∧ CapabilityFlags.contains ⟨BitVec.allOnes 32⟩ (bit 3) = true ∧
      (OptsBuilder.default.run ⟨BitVec.allOnes 32⟩ dbNameRemoveCalls
        ).opts.capabilities.contains (bit 3) = false ∧
      (Opts.ofBuilder (OptsBuilder.default.run ⟨BitVec.allOnes 32⟩ dbNameRemoveCalls)
        ).getCapabilities.contains (bit 3) = true :=
  ⟨by decide, by decide, by decide,
    ((getCapabilities_run ⟨BitVec.allOnes 32⟩).1 OptsBuilder.default dbNameRemoveCalls 3
      (by decide) (by decide)).trans (by decide)⟩

end MysqlAsyncOpts.Spec.Capabilities
