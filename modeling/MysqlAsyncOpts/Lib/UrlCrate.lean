import MysqlAsyncOpts.Lib.Net

/-! # The `url` crate's `Url`, as the options read it

A parsed URL is kept the way the crate keeps it: its scheme, whether it cannot be a
base, the user name and password slices, the host (`HostInternal`, beside the host's
slice of the serialization), the port, the path, and the pairs its query decodes to.
`Url::parse` itself is not modelled: a theorem about every URL string is a theorem
about every value of this record. For the non-special scheme `mysql` the crate keeps
every host that is not a bracketed IPv6 literal as an opaque domain, so that
`mysql://127.0.0.1` has the domain host `127.0.0.1`.

Below are the two decoders `get_opts_*_from_url` apply to URL slices:
`percent_decode` and `String::from_utf8_lossy`. -/

namespace MysqlAsyncOpts.Lib.UrlCrate
open MysqlAsyncOpts.Lib.Core MysqlAsyncOpts.Lib.Net

inductive Host where
  | domain (s : String)
  | ipv4 (ip : Ipv4Addr)
  | ipv6 (ip : Ipv6Addr)
  deriving DecidableEq, Repr

/-- `HostInternal`: what the host slice of the serialization holds. -/
inductive HostInternal where
  | none
  | domain
  | ipv4 (ip : Ipv4Addr)
  | ipv6 (ip : Ipv6Addr)
  deriving DecidableEq, Repr

structure Url where
  scheme : String
  cannotBeABase : Bool
  username : String
  password : Option String
  hostInternal : HostInternal
  hostSlice : String
  port : Option Nat
  path : String
  queryPairs : List (String × String)
  deriving DecidableEq, Repr

namespace Url

def hasHost (url : Url) : Bool := url.hostInternal != .none

def host (url : Url) : Option Host :=
  match url.hostInternal with
  | .none => none
  | .domain => some (.domain url.hostSlice)
  | .ipv4 ip => some (.ipv4 ip)
  | .ipv6 ip => some (.ipv6 ip)

def hostStr (url : Url) : Option String := if url.hasHost then some url.hostSlice else none

/-- `path_segments`: the path after its leading slash, split at every slash; a path
without a leading slash has no segments. -/
def pathSegments (url : Url) : Option (List String) :=
  match url.path.toList with
  | '/' :: rest => some ((rest.splitOn '/').map String.mk)
  | _ => none

/-- `parser::default_port`. -/
def defaultPort (scheme : String) : Option Nat :=
  if scheme = "http" ∨ scheme = "ws" then some 80
  else if scheme = "https" ∨ scheme = "wss" then some 443
  else if scheme = "ftp" then some 21 else none

/-- `set_port`: refused without a host, with an empty host, and for `file` URLs; the
scheme's default port is stored as no port. -/
def setPort (url : Url) (port : Option Nat) : Option Url :=
  if !url.hasHost || url.host == some (.domain "") || url.scheme == "file" then none
  else
    some { url with port := if port.isSome && port == defaultPort url.scheme then none else port }

/-- `set_port` refuses exactly a URL without a host, with an empty host, or of scheme `file`. -/
theorem setPort_eq_none {url : Url} {p : Option Nat} :
    url.setPort p = none ↔
      url.hasHost = false ∨ url.host = some (.domain "") ∨ url.scheme = "file" := by
  unfold setPort
  split <;> simp_all [or_assoc]

/-- What `set_port` changes is the port alone: the new one, or none for the scheme's
default. -/
theorem setPort_eq_some {url url' : Url} {p : Option Nat} (h : url.setPort p = some url') :
    url' = { url with port := if p.isSome && p == defaultPort url.scheme then none else p } := by
  unfold setPort at h
  split at h
  · cases h
  · exact (Option.some.inj h).symm

end Url

/-! ## Decoding -/

def hexDigit (b : UInt8) : Option Nat := digitValue 16 (Char.ofNat b.toNat)

/-- The rounds of a decoder that reads at least one byte a round: the length of the
input is enough of them. -/
def decodeLoop {α : Type} (step : List UInt8 → α × List UInt8) : Nat → List UInt8 → List α
  | 0, _ => []
  | _ + 1, [] => []
  | n + 1, b :: rest => (step (b :: rest)).1 :: decodeLoop step n (step (b :: rest)).2

theorem decodeLoop_eq_nil {α : Type} {step : List UInt8 → α × List UInt8} {bs : List UInt8} :
    decodeLoop step bs.length bs = [] ↔ bs = [] := by
  cases bs <;> simp [decodeLoop]

/-- One byte of `PercentDecode`: `%` and two hex digits stand for one byte; any
other `%` is kept. -/
def percentStep : List UInt8 → UInt8 × List UInt8
  | [] => (0, [])
  | b :: rest =>
    if b = 0x25 then
      match rest with
      | h :: l :: rest' =>
        match hexDigit h, hexDigit l with
        | some h, some l => ((h * 16 + l).toUInt8, rest')
        | _, _ => (b, rest)
      | _ => (b, rest)
    else (b, rest)

def percentDecode (bytes : List UInt8) : List UInt8 := decodeLoop percentStep bytes.length bytes

def isCont (b : UInt8) : Bool := 0x80 ≤ b && b ≤ 0xBF

/-- The second byte a three-byte lead admits. -/
def secondOf3 (b0 b1 : UInt8) : Bool :=
  if b0 = 0xE0 then 0xA0 ≤ b1 && b1 ≤ 0xBF
  else if b0 = 0xED then 0x80 ≤ b1 && b1 ≤ 0x9F
  else isCont b1

/-- The second byte a four-byte lead admits. -/
def secondOf4 (b0 b1 : UInt8) : Bool :=
  if b0 = 0xF0 then 0x90 ≤ b1 && b1 ≤ 0xBF
  else if b0 = 0xF4 then 0x80 ≤ b1 && b1 ≤ 0x8F
  else isCont b1

/-- The character of a lead's payload bits followed by continuation bytes. -/
def codePoint (lead : UInt8) (conts : List UInt8) : Char :=
  Char.ofNat (conts.foldl (fun acc b => acc * 64 + (b &&& 0x3F).toNat) lead.toNat)

/-- One step of `Utf8Chunks`: the next character and the bytes after it, or `U+FFFD`
and the bytes after the longest prefix of a sequence that breaks off. -/
def utf8Step : List UInt8 → Char × List UInt8
  | [] => ('�', [])
  | b0 :: rest =>
    if b0 < 0x80 then (Char.ofNat b0.toNat, rest)
    else if 0xC2 ≤ b0 && b0 ≤ 0xDF then
      match rest with
      | b1 :: rest1 => if isCont b1 then (codePoint (b0 &&& 0x1F) [b1], rest1) else ('�', rest)
      | [] => ('�', [])
    else if 0xE0 ≤ b0 && b0 ≤ 0xEF then
      match rest with
      | b1 :: rest1 =>
        if secondOf3 b0 b1 then
          match rest1 with
          | b2 :: rest2 =>
            if isCont b2 then (codePoint (b0 &&& 0x0F) [b1, b2], rest2) else ('�', rest1)
          | [] => ('�', [])
        else ('�', rest)
      | [] => ('�', [])
    else if 0xF0 ≤ b0 && b0 ≤ 0xF4 then
      match rest with
      | b1 :: rest1 =>
        if secondOf4 b0 b1 then
          match rest1 with
          | b2 :: rest2 =>
            if isCont b2 then
              match rest2 with
              | b3 :: rest3 =>
                if isCont b3 then (codePoint (b0 &&& 0x07) [b1, b2, b3], rest3) else ('�', rest2)
              | [] => ('�', [])
            else ('�', rest1)
          | [] => ('�', [])
        else ('�', rest)
      | [] => ('�', [])
    else ('�', rest)

/-- `String::from_utf8_lossy`. -/
def fromUtf8Lossy (bytes : List UInt8) : List Char := decodeLoop utf8Step bytes.length bytes

/-- `percent_decode(s.as_bytes()).decode_utf8_lossy().into_owned()`. -/
def decode (s : String) : String :=
  String.mk (fromUtf8Lossy (percentDecode (asBytes s)))

/-- Decoding keeps a slice empty exactly when it is empty. -/
theorem decode_eq_empty {s : String} : decode s = "" ↔ s = "" := by
  rw [String.ext_iff, decode]
  simp only [fromUtf8Lossy, percentDecode, decodeLoop_eq_nil, asBytes_eq_nil]

example : decode "pass%20word" = "pass word" ∧ decode "%E2%82%AC%zz" = "€%zz" ∧
    decode "%C3" = "�" := by
  decide

end MysqlAsyncOpts.Lib.UrlCrate
