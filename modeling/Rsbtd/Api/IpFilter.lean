import Rsbtd.Checks.Basic
import Rsbtd.Sequence.Ranges
import Rsbtd.Text.Address

/-!
# The IP filter

The `setIpFilter` mutation builds a filter from rules as text, and the `ipFilter`
query shows the filter of the session as ranges.  Below them are the wrapper of
`ip_filter` and the addresses that cross the C interface.  The filter itself is
libtorrent's, a parameter.
-/

namespace Rsbtd.IpFilter

open Checks (require)
open Sequence (Range)
open Text (IpAddr)
open Bits (digitsOf ofDigits)

inductive EngineError where
  | invalid (message : Text)
  | binding (message : String)
deriving DecidableEq, Repr

/-! ## The C interface -/

structure CtAddress where
  bytes : List Nat
  isV6 : Bool
deriving DecidableEq, Repr

structure CtIpRange where
  first : CtAddress
  last : CtAddress
  flags : Nat
deriving DecidableEq, Repr

def CT_IP_FILTER_BLOCKED : Nat := 1

def ipToCtAddress : IpAddr → CtAddress
  | .v4 addr => ⟨digitsOf 256 4 addr ++ List.replicate 12 0, false⟩
  | .v6 addr => ⟨digitsOf 256 16 addr, true⟩

def ctAddressToIp (addr : CtAddress) : IpAddr :=
  if addr.isV6 then .ofV6 (ofDigits 256 addr.bytes)
  else .ofV4 (ofDigits 256 (addr.bytes.take 4))

/-- `address_v4` and `address_v6` of libtorrent. -/
abbrev LtAddress := IpAddr

def toLtAddress (addr : CtAddress) : LtAddress :=
  if addr.isV6 then .ofV6 (ofDigits 256 addr.bytes)
  else .ofV4 (ofDigits 256 (addr.bytes.take 4))

def fromLtAddress : LtAddress → CtAddress
  | .v4 addr => ⟨digitsOf 256 4 addr ++ List.replicate 12 0, false⟩
  | .v6 addr => ⟨digitsOf 256 16 addr, true⟩

/-- `ip_filter` of libtorrent.  An exported range has the numbers of its addresses. -/
structure Libtorrent where
  Filter : Type
  new : Filter
  addRule : Filter → LtAddress → LtAddress → Nat → Filter
  access : Filter → LtAddress → Nat
  exportFilter : Filter → List (Range Nat) × List (Range Nat)

variable (lt : Libtorrent)

def ctIpFilterAddRule (filter : lt.Filter) (first last : CtAddress) (flags : Nat) : lt.Filter :=
  lt.addRule filter (toLtAddress first) (toLtAddress last) flags

def ctIpFilterAccess (filter : lt.Filter) (addr : CtAddress) : Nat :=
  lt.access filter (toLtAddress addr)

def ctIpRange (of : Nat → LtAddress) (r : Range Nat) : CtIpRange :=
  ⟨fromLtAddress (of r.first), fromLtAddress (of r.last), r.value⟩

/-- The ranges of both families. -/
def ctIpFilterExport (filter : lt.Filter) : List CtIpRange :=
  (lt.exportFilter filter).1.map (ctIpRange .ofV4) ++
    (lt.exportFilter filter).2.map (ctIpRange .ofV6)

/-! ## The wrapper -/

/-- `IpFilter::add_rule`. -/
def addRule (filter : lt.Filter) (first last : IpAddr) (blocked : Bool) :
    Except EngineError lt.Filter := do
  match first, last with
  | .v4 f, .v4 l => require (f ≤ l) (.binding "IP filter range is descending")
  | .v6 f, .v6 l => require (f ≤ l) (.binding "IP filter range is descending")
  | _, _ => .error (.binding "IP filter range endpoints must be the same IP version")
  let flags := if blocked then CT_IP_FILTER_BLOCKED else 0
  return ctIpFilterAddRule lt filter (ipToCtAddress first) (ipToCtAddress last) flags

/-- `IpFilter::access`. -/
def access (filter : lt.Filter) (addr : IpAddr) : Bool :=
  (ctIpFilterAccess lt filter (ipToCtAddress addr)) &&& CT_IP_FILTER_BLOCKED != 0

/-- `IpFilter::export`. -/
def exportRanges (filter : lt.Filter) : List (IpAddr × IpAddr × Bool) :=
  (ctIpFilterExport lt filter).map fun r =>
    (ctAddressToIp r.first, ctAddressToIp r.last, r.flags &&& CT_IP_FILTER_BLOCKED != 0)

/-! ## The API -/

structure IpFilterRuleInput where
  first : Text
  last : Text
  blocked : Bool
deriving DecidableEq, Repr

structure IpFilterRule where
  first : Text
  last : Text
  blocked : Bool
deriving DecidableEq, Repr

/-- The rule as a client sends it back. -/
def IpFilterRule.input (rule : IpFilterRule) : IpFilterRuleInput :=
  ⟨rule.first, rule.last, rule.blocked⟩

def parseAddress (text : Text) : Except EngineError IpAddr :=
  match IpAddr.parse text with
  | some addr => .ok addr
  | none => .error (.invalid ("cannot parse address ".toList ++ text))

/-- One round of the loop over the rules. -/
def applyRule (filter : lt.Filter) (rule : IpFilterRuleInput) : Except EngineError lt.Filter := do
  let first ← parseAddress rule.first
  let last ← parseAddress rule.last
  addRule lt filter first last rule.blocked

/-- The filter that the mutation hands to the engine. -/
def setIpFilter (rules : List IpFilterRuleInput) : Except EngineError lt.Filter :=
  rules.foldlM (applyRule lt) lt.new

/-- The query, on the filter of the session. -/
def ipFilter (filter : lt.Filter) : List IpFilterRule :=
  (exportRanges lt filter).map fun (first, last, blocked) => ⟨first.text, last.text, blocked⟩

end Rsbtd.IpFilter
