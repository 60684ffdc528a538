import Rsbtd.WebUi.TorrentFields

/-!
# The search query

`query.ts` splits the text of the search box into terms, and compiles these into what a row
must satisfy.
-/

namespace Rsbtd.WebUi

structure RawToken where
  text : JsString
  negated : Bool
deriving DecidableEq, Repr

/-- The variables of the loop in `tokenize`. -/
structure Scan where
  tokens : List RawToken
  current : JsString
  negated : Bool
  started : Bool
  inQuote : Bool
deriving DecidableEq, Repr

namespace Scan

def init : Scan := ⟨[], [], false, false, false⟩

def push (s : Scan) : Scan where
  tokens :=
    if s.started = true ∧ s.current ≠ [] then s.tokens ++ [⟨s.current, s.negated⟩] else s.tokens
  current := []
  negated := false
  started := false
  inQuote := s.inQuote

/-- The body of the loop, for one code point. -/
def step (s : Scan) (ch : JsString) : Scan :=
  if ch = js "\"" then { s with inQuote := !s.inQuote, started := true }
  else if s.inQuote = false ∧ ch.any JsString.isSpace = true then s.push
  else if s.started = false ∧ ch = js "-" ∧ s.current = [] then
    { s with negated := true, started := true }
  else { s with started := true, current := s.current ++ ch }

end Scan

structure Tokens where
  tokens : List RawToken
  unterminated : Bool
deriving DecidableEq, Repr

def tokenize (input : JsString) : Tokens :=
  let scanned := input.codePoints.foldl Scan.step .init
  ⟨scanned.push.tokens, scanned.inQuote⟩

example : tokenize (js "-\"a b\" c") = ⟨[⟨js "a b", true⟩, ⟨js "c", false⟩], false⟩ := by
  decide +kernel

example : tokenize (js "\"unclosed rest") = ⟨[⟨js "unclosed rest", false⟩], true⟩ := by
  decide +kernel

/-! ### Terms -/

inductive Comparator where
  | gt
  | ge
  | lt
  | le
  | eq
deriving DecidableEq, Repr

inductive CompiledValue where
  | string (text : JsString) (leading trailing : Bool)
  | number (value : Number)
  | date (value : DateValue)
  | bool (value : Bool)
  | enum (value : JsString)
  | flag (value : JsString)
deriving DecidableEq

inductive QueryNode where
  | text (needle : JsString) (negated : Bool)
  | filter (field : TorrentFieldDef) (op : Comparator) (value : CompiledValue) (negated : Bool)
deriving DecidableEq

def QueryNode.negated : QueryNode → Bool
  | text _ negated => negated
  | filter _ _ _ negated => negated

structure ParsedQuery where
  nodes : List QueryNode
  diagnostics : List JsString
deriving DecidableEq

namespace ParsedQuery

def node (q : ParsedQuery) (n : QueryNode) : ParsedQuery := { q with nodes := q.nodes ++ [n] }

def diagnose (q : ParsedQuery) (text : JsString) : ParsedQuery :=
  { q with diagnostics := q.diagnostics ++ [text] }

end ParsedQuery

def isNumericType : FieldType → Bool
  | .bytes | .rate | .number | .float | .percentPpm | .date | .durationSecs | .etaSecs => true
  | _ => false

/-- The comparator at the start of a value, and the rest. -/
def splitOp (rhs : JsString) : Comparator × JsString :=
  if (js ">=").isPrefixOf rhs then (.ge, rhs.drop 2)
  else if (js "<=").isPrefixOf rhs then (.le, rhs.drop 2)
  else if (js ">").isPrefixOf rhs then (.gt, rhs.drop 1)
  else if (js "<").isPrefixOf rhs then (.lt, rhs.drop 1)
  else (.eq, rhs)

inductive TypedValue where
  | number (value : Number)
  | date (value : DateValue)

/-- Parse a rhs value for a field type. -/
def parseTypedValue (calendar : Calendar) (type : FieldType) (text : JsString) :
    Option TypedValue :=
  match type with
  | .bytes => (parseSize text).map .number
  | .rate => (parseRate text).map .number
  | .percentPpm => (parsePercentPpm text).map .number
  | .durationSecs | .etaSecs => (parseDurationSeconds text).map .number
  | .date => (parseDate calendar text).map .date
  | .number | .float => (parsePlainNumber text).map .number
  | _ => none

section Parse

variable (runtime : Runtime)

def parseValue (field : TorrentFieldDef) (rhs : JsString) : Option CompiledValue :=
  match field.type with
  | .string =>
    let leading := (js "*").isPrefixOf rhs
    let trailing := (js "*").isSuffixOf rhs && (if leading then 1 else 0) < rhs.length
    let text := (if trailing then rhs.dropLast else rhs).drop (if leading then 1 else 0)
    some (.string (runtime.toLowerCase text) leading trailing)
  | .bool =>
    let lower := runtime.toLowerCase rhs
    if lower = js "true" ∨ lower = js "yes" then some (.bool true)
    else if lower = js "false" ∨ lower = js "no" then some (.bool false)
    else none
  | .enum =>
    (field.enumValues.find? fun v => runtime.toLowerCase v = runtime.toLowerCase rhs).map .enum
  | .flags => some (.flag (runtime.toLowerCase rhs))
  | .date =>
    match parseTypedValue runtime.calendar .date rhs with
    | some (.date value) => some (.date value)
    | _ => none
  | type =>
    if field.unlimitedSentinel ∧ trim rhs = js "-1" then some (.number (.finite (-1)))
    else
      match parseTypedValue runtime.calendar type rhs with
      | some (.number value) => some (.number value)
      | _ => none

/-- `/^[a-zA-Z][a-zA-Z0-9]*$/`. -/
def isPropertyName (key : JsString) : Bool :=
  (key.head?.any isLetter) && key.tail.all fun u => isLetter u || isDigit u

/-- The comparator and the value of a term; only numbers and dates are compared. -/
def splitValue (field : TorrentFieldDef) (rhs : JsString) : Comparator × JsString :=
  if isNumericType field.type then splitOp rhs else (.eq, rhs)

/-- The part of the loop's body after the property was found. -/
def parseFilter (q : ParsedQuery) (field : TorrentFieldDef) (rhs : JsString) (negated : Bool) :
    ParsedQuery :=
  if (splitValue field rhs).2 = [] then q -- still typing: no constraint yet
  else
    match parseValue runtime field (splitValue field rhs).2 with
    | none =>
      q.diagnose
        (js "cannot parse \"" ++ (splitValue field rhs).2 ++ js "\" for " ++ field.key)
    | some value => q.node (.filter field (splitValue field rhs).1 value negated)

/-- The body of the loop of `parseQuery`. -/
def parseToken (q : ParsedQuery) (token : RawToken) : ParsedQuery :=
  let textNode := QueryNode.text (runtime.toLowerCase token.text) token.negated
  match token.text.idxOf? (unit ':') with
  | none | some 0 => q.node textNode
  | some colon =>
    let key := token.text.take colon
    match (lookupTorrentField runtime key).filter (·.filterable) with
    | none =>
      -- Unknown property: treat the whole token as text (magnet:?..., URLs).
      (if isPropertyName key then q.diagnose (js "unknown property: " ++ key) else q).node textNode
    | some field => parseFilter runtime q field (token.text.drop (colon + 1)) token.negated

def parseQuery (input : JsString) : ParsedQuery :=
  (tokenize input).tokens.foldl (parseToken runtime)
    ⟨[], if (tokenize input).unterminated then [js "unterminated quote"] else []⟩

/-! ### Rows -/

/-- `s.includes(needle)`. -/
def includes (s needle : JsString) : Bool := s.tails.any fun t => needle.isPrefixOf t

/-- `String(raw)`. -/
def Raw.text : Raw → JsString
  | .missing => js "null"
  | .bool value => if value then js "true" else js "false"
  | .number value => runtime.numberText value
  | .string value => value
  | .strings values => [unit ','].intercalate values

def Comparator.ofNumbers : Comparator → Number → Number → Bool
  | eq, n, value => n.same value
  | gt, n, value => value.lt n
  | ge, n, value => value.le n
  | lt, n, value => n.lt value
  | le, n, value => n.le value

def Comparator.ofDates : Comparator → Number → DateValue → Bool
  | eq, raw, value => (Number.finite value.startSec).le raw && raw.lt (.finite value.endSec)
  | gt, raw, value => (Number.finite value.endSec).le raw
  | ge, raw, value => (Number.finite value.startSec).le raw
  | lt, raw, value => raw.lt (.finite value.startSec)
  | le, raw, value => raw.lt (.finite value.endSec)

def matchValue (field : TorrentFieldDef) (op : Comparator) (raw : Raw) : CompiledValue → Bool
  | .string text leading trailing =>
    if raw = .missing then false
    else
      let s := runtime.toLowerCase (raw.text runtime)
      if leading && trailing then includes s text
      else if leading then text.isSuffixOf s
      else if trailing then text.isPrefixOf s
      else s = text
  | .bool value => raw = .bool value
  | .enum value => raw = .string value
  | .flag value =>
    match raw with
    | .strings values => values.any fun f => runtime.toLowerCase f = value
    | _ => false
  | .date value =>
    match raw with
    | .number n => if n.le (.finite 0) then false else op.ofDates n value
    | _ => false
  | .number value =>
    -- A missing value means "not applicable" and matches no comparison, but for the ETA,
    -- whose null genuinely means "infinite".
    let n : Number :=
      match raw with
      | .missing => if field.type = .etaSecs then .infinite else .nan
      | .number n => n
      | _ => .nan
    if n = .nan then false else op.ofNumbers n value

def matchNode (node : QueryNode) (row : SearchRow) : Bool :=
  match node with
  | .text needle _ => includes (runtime.toLowerCase row.name) needle
  | .filter field op value _ => matchValue runtime field op (row.get field.key) value

/-- AND of all terms; `none` when the query has no effective constraints. -/
def compileQuery (parsed : ParsedQuery) : Option (SearchRow → Bool) :=
  if parsed.nodes = [] then none
  else some fun row => parsed.nodes.all fun node => matchNode runtime node row != node.negated

end Parse

end Rsbtd.WebUi
