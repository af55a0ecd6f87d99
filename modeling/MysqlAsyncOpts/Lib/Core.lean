import Mathlib.Algebra.Group.Nat.Basic
import Mathlib.Data.List.Basic

/-! # Standard-library values the options read

`Duration` by its nanoseconds, and the `FromStr` parsers that `mysqlopts_from_url`
applies to query values: unsigned integers of a fixed width, and `bool`. The
target is a 64-bit one, so `usize` parses as `u64` does. -/

namespace MysqlAsyncOpts.Lib.Core

/-- Results compare by value, so that a run on a fixed input can be checked by `decide`. -/
instance exceptDecidableEq {ε α : Type} [DecidableEq ε] [DecidableEq α] :
    DecidableEq (Except ε α)
  | .error a, .error b =>
    if h : a = b then isTrue (h ▸ rfl) else isFalse fun h' => h (Except.error.inj h')
  | .ok a, .ok b => if h : a = b then isTrue (h ▸ rfl) else isFalse fun h' => h (Except.ok.inj h')
  | .error _, .ok _ => isFalse nofun
  | .ok _, .error _ => isFalse nofun

/-- A bound computation succeeds when both parts do. -/
theorem bind_eq_ok {ε α β : Type} {x : Except ε α} {f : α → Except ε β} {b : β} :
    x.bind f = .ok b ↔ ∃ a, x = .ok a ∧ f a = .ok b := by
  cases x <;> simp [Except.bind]

/-- A bound computation fails when its first part does, or its second part does. -/
theorem bind_eq_error {ε α β : Type} {x : Except ε α} {f : α → Except ε β} {e : ε} :
    x.bind f = .error e ↔ x = .error e ∨ ∃ a, x = .ok a ∧ f a = .error e := by
  cases x <;> simp [Except.bind]

/-- `std::time::Duration`, by its whole number of nanoseconds; equality and the
order are those of the seconds-and-nanoseconds pair. -/
structure Duration where
  nanos : Nat
  deriving DecidableEq, Repr

namespace Duration

def fromSecs (secs : Nat) : Duration := ⟨secs * 1000000000⟩

instance : LT Duration := ⟨fun a b => a.nanos < b.nanos⟩

instance : LE Duration := ⟨fun a b => a.nanos ≤ b.nanos⟩

instance (a b : Duration) : Decidable (a < b) := inferInstanceAs (Decidable (a.nanos < b.nanos))

instance (a b : Duration) : Decidable (a ≤ b) := inferInstanceAs (Decidable (a.nanos ≤ b.nanos))

@[simp] theorem lt_iff (a b : Duration) : a < b ↔ a.nanos < b.nanos := Iff.rfl

@[simp] theorem le_iff (a b : Duration) : a ≤ b ↔ a.nanos ≤ b.nanos := Iff.rfl

@[simp] theorem fromSecs_nanos (secs : Nat) : (fromSecs secs).nanos = secs * 1000000000 := rfl

end Duration

/-- `str::as_bytes`: the UTF-8 bytes of a string. -/
def asBytes (s : String) : List UInt8 := s.toList.flatMap String.utf8EncodeChar

theorem utf8EncodeChar_ne_nil (c : Char) : String.utf8EncodeChar c ≠ [] := fun h => by
  have hl := congrArg List.length h
  rw [String.length_utf8EncodeChar] at hl
  exact absurd hl (Char.utf8Size_pos c).ne'

theorem utf8EncodeChar_eq_singleton {c : Char} {b : UInt8} :
    String.utf8EncodeChar c = [b] ↔ c.toNat < 128 ∧ b.toNat = c.toNat := by
  have hv : c.val ≤ 0x7f ↔ c.toNat < 128 := by
    simp only [UInt32.le_def, BitVec.le_def, Char.toNat, UInt32.toNat]; simp; omega
  by_cases h : c.toNat < 128
  · have hb : c.val.toUInt8.toNat = c.toNat := by
      have hlt : c.val.toNat < UInt8.size := by simpa [Char.toNat] using Nat.lt_trans h (by decide)
      simp only [UInt32.toUInt8, Char.toNat, Nat.toUInt8, UInt8.toNat_ofNat_of_lt hlt]
    simp only [String.utf8EncodeChar, hv.mpr h, if_true, List.cons.injEq, and_true, h, true_and]
    exact ⟨fun e => e ▸ hb, fun e => UInt8.toNat.inj (e.trans hb.symm) |>.symm⟩
  · simp only [h, false_and, iff_false]
    intro e
    have hl := congrArg List.length e
    rw [String.length_utf8EncodeChar] at hl
    simp only [Char.utf8Size, List.length_singleton] at hl
    split_ifs at hl with h1
    · exact h (hv.mp h1)
    all_goals simp at hl

/-- A string is one byte long exactly when it is one ASCII character. -/
theorem asBytes_eq_singleton {s : String} {b : UInt8} :
    asBytes s = [b] ↔ ∃ c, s.toList = [c] ∧ c.toNat < 128 ∧ b.toNat = c.toNat := by
  rw [asBytes]
  constructor
  · intro h
    match hs : s.toList, h with
    | [], h => simp at h
    | c :: cs, h =>
      rw [List.flatMap_cons, List.append_eq_cons_iff] at h
      rcases h with ⟨h, -⟩ | ⟨a', h1, h2⟩
      · exact absurd h (utf8EncodeChar_ne_nil c)
      · obtain ⟨rfl, h3⟩ := List.append_eq_nil.mp h2.symm
        obtain ⟨hc, hb⟩ := utf8EncodeChar_eq_singleton.mp h1
        have hcs : cs = [] := List.eq_nil_iff_forall_not_mem.mpr fun x hx =>
          utf8EncodeChar_ne_nil x (List.flatMap_eq_nil_iff.mp h3 x hx)
        exact ⟨c, by rw [hcs], hc, hb⟩
  · rintro ⟨c, hs, hc, hb⟩
    rw [hs, List.flatMap_cons, List.flatMap_nil, List.append_nil, utf8EncodeChar_eq_singleton]
    exact ⟨hc, hb⟩

theorem asBytes_eq_nil {s : String} : asBytes s = [] ↔ s = "" := by
  rw [asBytes, List.flatMap_eq_nil_iff, String.ext_iff]
  exact ⟨fun h => List.eq_nil_iff_forall_not_mem.mpr fun c hc => utf8EncodeChar_ne_nil c (h c hc),
    fun h c hc => by rw [show s.toList = [] from h] at hc; exact absurd hc (List.not_mem_nil c)⟩

/-! ## `FromStr` -/

/-- The value of a run of decimal digits read after `acc`, or `none` at the
first character that is not a digit. -/
def digitsValue : List Char → Nat → Option Nat
  | [], acc => some acc
  | c :: cs, acc => if c.isDigit then digitsValue cs (acc * 10 + (c.toNat - 48)) else none

/-- `from_str_radix(s, 10)` of an unsigned type of `bits` bits: an optional `+`, at
least one digit, and no overflow. A value that overflows at some digit is exactly
one that does not fit at the end, since the partial values only grow. -/
def unsignedFromStr (bits : Nat) (s : String) : Option Nat :=
  let digits := match s.toList with
    | '+' :: rest => rest
    | cs => cs
  if digits = [] then none else (digitsValue digits 0).filter (· < 2 ^ bits)

def usizeFromStr (s : String) : Option Nat := unsignedFromStr 64 s

def u64FromStr (s : String) : Option Nat := unsignedFromStr 64 s

def u32FromStr (s : String) : Option Nat := unsignedFromStr 32 s

def boolFromStr (s : String) : Option Bool :=
  if s = "true" then some true else if s = "false" then some false else none

example : u32FromStr "+10000" = some 10000 ∧ u32FromStr "4294967296" = none ∧
    usizeFromStr "" = none ∧ usizeFromStr "-0" = none ∧ boolFromStr "True" = none := by
  decide

end MysqlAsyncOpts.Lib.Core
