import MysqlAsyncOpts.Lib.Core

/-! # IP addresses and their `FromStr`

`HostPortOrUrl::is_loopback` reads a host string through `Ipv4Addr::from_str` and
`Ipv6Addr::from_str`. These follow the standard library's parser: an IPv4 address is
four dotted decimal octets without leading zeros, an IPv6 address is up to eight
colon-separated hex groups with at most one `::` and an optional trailing IPv4
address, and the whole string must be read. Neither accepts brackets. -/

namespace MysqlAsyncOpts.Lib.Net

structure Ipv4Addr where
  a : Nat
  b : Nat
  c : Nat
  d : Nat
  deriving DecidableEq, Repr

/-- An IPv6 address by its 128-bit value, as `is_loopback` compares it. -/
structure Ipv6Addr where
  bits : Nat
  deriving DecidableEq, Repr

def Ipv4Addr.isLoopback (ip : Ipv4Addr) : Bool := ip.a == 127

def Ipv6Addr.isLoopback (ip : Ipv6Addr) : Bool := ip.bits == 1

/-- `Ipv6Addr::from([u16; 8])`. -/
def Ipv6Addr.ofSegments (segments : List Nat) : Ipv6Addr :=
  ⟨segments.foldl (fun acc g => acc * 65536 + g) 0⟩

/-! ## The parser -/

/-- `char::to_digit(radix)`. -/
def digitValue (radix : Nat) (c : Char) : Option Nat :=
  let d := if c.isDigit then some (c.toNat - 48)
    else if 'a' ≤ c ∧ c ≤ 'z' then some (c.toNat - 87)
    else if 'A' ≤ c ∧ c ≤ 'Z' then some (c.toNat - 55) else none
  d.filter (· < radix)

/-- The longest run of `radix` digits at the front, and what follows it. -/
def digitRun (radix : Nat) : List Char → List Nat × List Char
  | [] => ([], [])
  | c :: cs => match digitValue radix c with
    | some d => ((d :: (digitRun radix cs).1), (digitRun radix cs).2)
    | none => ([], c :: cs)

/-- `read_number`: the digit run, read whole, fails when it is empty, longer than
`maxDigits`, not below `bound`, or has a leading zero that is not allowed. -/
def readNumber (radix maxDigits bound : Nat) (allowZeroPrefix : Bool) (cs : List Char) :
    Option (Nat × List Char) :=
  let run := digitRun radix cs
  let value := run.1.foldl (fun acc d => acc * radix + d) 0
  if run.1 = [] ∨ maxDigits < run.1.length ∨ bound ≤ value ∨
      (allowZeroPrefix = false ∧ run.1.head? = some 0 ∧ 1 < run.1.length) then none
  else some (value, run.2)

/-- `read_separator`: the separator before every group but the first. -/
def readSeparator {α : Type} (sep : Char) (index : Nat)
    (inner : List Char → Option (α × List Char)) (cs : List Char) : Option (α × List Char) :=
  if index = 0 then inner cs
  else match cs with
    | c :: rest => if c = sep then inner rest else none
    | [] => none

def readOctet : List Char → Option (Nat × List Char) := readNumber 10 3 256 false

def readIpv4Addr (cs : List Char) : Option (Ipv4Addr × List Char) := do
  let (a, cs) ← readOctet cs
  let (b, cs) ← readSeparator '.' 1 readOctet cs
  let (c, cs) ← readSeparator '.' 2 readOctet cs
  let (d, cs) ← readSeparator '.' 3 readOctet cs
  pure (⟨a, b, c, d⟩, cs)

/-- `read_groups`: the groups from index `i` on, `n` of them at most, below `limit`.
Where two groups are left, a dotted IPv4 address may stand for them and ends the run.
Returns the groups, whether an IPv4 address ended them, and the rest. -/
def readGroups (limit : Nat) : Nat → Nat → List Char → List Nat × Bool × List Char
  | 0, _, cs => ([], false, cs)
  | n + 1, i, cs =>
    match (if i + 1 < limit then readSeparator ':' i readIpv4Addr cs else none) with
    | some (v4, rest) => ([v4.a * 256 + v4.b, v4.c * 256 + v4.d], true, rest)
    | none =>
      match readSeparator ':' i (readNumber 16 4 65536 true) cs with
      | some (g, rest) =>
        let tail := readGroups limit n (i + 1) rest
        (g :: tail.1, tail.2.1, tail.2.2)
      | none => ([], false, cs)

/-- `read_ipv6_addr`: the groups before a `::`, then those after it, with the zero
groups the `::` stands for between them. -/
def readIpv6Addr (cs : List Char) : Option (Ipv6Addr × List Char) :=
  let head := readGroups 8 8 0 cs
  if head.1.length = 8 then some (Ipv6Addr.ofSegments head.1, head.2.2)
  else if head.2.1 then none
  else match head.2.2 with
    | ':' :: ':' :: rest =>
      let limit := 8 - (head.1.length + 1)
      let tail := readGroups limit limit 0 rest
      some (Ipv6Addr.ofSegments
        (head.1 ++ List.replicate (8 - head.1.length - tail.1.length) 0 ++ tail.1), tail.2.2)
    | _ => none

/-- `Ipv4Addr::from_str`: the address must take the whole string. -/
def Ipv4Addr.fromStr (s : String) : Option Ipv4Addr :=
  match readIpv4Addr s.toList with
  | some (ip, []) => some ip
  | _ => none

def Ipv6Addr.fromStr (s : String) : Option Ipv6Addr :=
  match readIpv6Addr s.toList with
  | some (ip, []) => some ip
  | _ => none

example : Ipv4Addr.fromStr "127.0.0.1" = some ⟨127, 0, 0, 1⟩ ∧
    Ipv4Addr.fromStr "127.0.0.01" = none ∧ Ipv6Addr.fromStr "::1" = some ⟨1⟩ ∧
    Ipv6Addr.fromStr "::ffff:127.0.0.1" = some ⟨0xffff7f000001⟩ := by
  decide

end MysqlAsyncOpts.Lib.Net
