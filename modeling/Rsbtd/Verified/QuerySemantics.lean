import Mathlib.Data.Prod.Lex
import Mathlib.Algebra.Order.Ring.Int
import Rsbtd.Verified.Tokens

/-!
# What a search query means

Every term has a meaning of its own or none, and the query is the conjunction of these.  A
minus sign complements the meaning of a term.  Of the comparisons of a field with one value,
`<`, `=` and `>` exclude each other and one of them holds, unless the value is no number.
-/

namespace Rsbtd.WebUi

open JsString

variable {runtime : Runtime} {input text key rhs : JsString} {t : RawToken} {row : SearchRow}

/-! ### Terms -/

/-- The nodes of a term, one or none. -/
def termNodes (runtime : Runtime) (t : RawToken) : List QueryNode :=
  (parseToken runtime ⟨[], []⟩ t).nodes

/-- What a row must satisfy for a term; `none` when it has no effect. -/
def meaning (runtime : Runtime) (t : RawToken) : Option (SearchRow → Bool) :=
  compileQuery runtime (parseToken runtime ⟨[], []⟩ t)

theorem parseFilter_nodes (q : ParsedQuery) (field : TorrentFieldDef) (negated : Bool) :
    (parseFilter runtime q field rhs negated).nodes =
      q.nodes ++ (parseFilter runtime ⟨[], []⟩ field rhs negated).nodes := by
  unfold parseFilter
  split
  · simp
  · cases parseValue runtime field (splitValue field rhs).2 with
    | none => simp [ParsedQuery.diagnose]
    | some value => simp [ParsedQuery.node]

theorem parseToken_nodes (q : ParsedQuery) :
    (parseToken runtime q t).nodes = q.nodes ++ termNodes runtime t := by
  unfold termNodes parseToken
  dsimp only
  split
  · simp [ParsedQuery.node]
  · simp [ParsedQuery.node]
  · split
    · split <;> simp [ParsedQuery.diagnose, ParsedQuery.node]
    · exact parseFilter_nodes q _ _

theorem parseQuery_nodes :
    (parseQuery runtime input).nodes = (tokenize input).tokens.flatMap (termNodes runtime) := by
  have loop : ∀ (ts : List RawToken) (q : ParsedQuery),
      (ts.foldl (parseToken runtime) q).nodes = q.nodes ++ ts.flatMap (termNodes runtime) := by
    intro ts
    induction ts with
    | nil => simp
    | cons t ts ih =>
      intro q
      rw [List.foldl_cons, ih, parseToken_nodes, List.flatMap_cons, List.append_assoc]
  rw [parseQuery, loop]
  rfl

theorem compileQuery_eq_none {q : ParsedQuery} : compileQuery runtime q = none ↔ q.nodes = [] := by
  simp [compileQuery]

theorem compileQuery_eq_some {q : ParsedQuery} {p : SearchRow → Bool}
    (compiled : compileQuery runtime q = some p) (row : SearchRow) :
    p row = q.nodes.all fun node => matchNode runtime node row != node.negated := by
  unfold compileQuery at compiled
  split at compiled
  · cases compiled
  · rw [← Option.some.inj compiled]

theorem meaning_eq_none : meaning runtime t = none ↔ termNodes runtime t = [] :=
  compileQuery_eq_none

/-- What a term without effect asks for is nothing. -/
theorem all_termNodes : ((termNodes runtime t).all fun node =>
    matchNode runtime node row != node.negated) = true ↔
      ∀ p, meaning runtime t = some p → p row = true := by
  constructor
  · intro all p compiled
    rw [compileQuery_eq_some compiled]
    exact all
  · intro holds
    cases compiled : meaning runtime t with
    | none => simp [meaning_eq_none.mp compiled]
    | some p =>
      have own := compileQuery_eq_some compiled row
      rw [holds p compiled] at own
      exact own.symm

/-- The query is the conjunction of its terms. -/
theorem compileQuery_conjunction :
    (compileQuery runtime (parseQuery runtime input) = none ↔
      ∀ t ∈ (tokenize input).tokens, meaning runtime t = none) ∧
    ∀ p, compileQuery runtime (parseQuery runtime input) = some p → ∀ row,
      (p row = true ↔
        ∀ t ∈ (tokenize input).tokens, ∀ q, meaning runtime t = some q → q row = true) := by
  constructor
  · simp only [compileQuery_eq_none, parseQuery_nodes, List.flatMap_eq_nil_iff, meaning_eq_none]
  · intro p compiled row
    rw [compileQuery_eq_some compiled, parseQuery_nodes, List.all_flatMap, List.all_eq_true]
    constructor
    · intro all t listed
      exact all_termNodes.mp (all t listed)
    · intro holds t listed
      exact all_termNodes.mpr (holds t listed)

/-! ### Negation -/

/-- A term has no node however it is signed, or one that differs by the sign. -/
inductive Signed (runtime : Runtime) (text : JsString) : Prop where
  | without (none : ∀ negated, termNodes runtime ⟨text, negated⟩ = [])
  | one (node : Bool → QueryNode)
    (own : ∀ negated, termNodes runtime ⟨text, negated⟩ = [node negated])
    (sign : ∀ negated, (node negated).negated = negated)
    (same : ∀ row, matchNode runtime (node true) row = matchNode runtime (node false) row)

theorem Signed.ofText (own : ∀ negated, termNodes runtime ⟨text, negated⟩ =
    [.text (runtime.toLowerCase text) negated]) : Signed runtime text :=
  .one (.text (runtime.toLowerCase text)) own (fun _ => rfl) (fun _ => rfl)

theorem signed (runtime : Runtime) (text : JsString) : Signed runtime text := by
  cases found : text.idxOf? (unit ':') with
  | none =>
    apply Signed.ofText
    intro negated
    simp [termNodes, parseToken, found, ParsedQuery.node]
  | some colon =>
    cases colon with
    | zero =>
      apply Signed.ofText
      intro negated
      simp [termNodes, parseToken, found, ParsedQuery.node]
    | succ colon =>
      cases known : (lookupTorrentField runtime (text.take (colon + 1))).filter (·.filterable) with
      | none =>
        apply Signed.ofText
        intro negated
        by_cases name : isPropertyName (text.take (colon + 1)) = true <;>
          simp [termNodes, parseToken, found, known, name, ParsedQuery.node, ParsedQuery.diagnose]
      | some field =>
        have own : ∀ negated, termNodes runtime ⟨text, negated⟩ =
            (parseFilter runtime ⟨[], []⟩ field (text.drop (colon + 2)) negated).nodes := by
          intro negated
          simp [termNodes, parseToken, found, known]
        by_cases still : (splitValue field (text.drop (colon + 2))).2 = []
        · apply Signed.without
          intro negated
          rw [own, parseFilter, if_pos still]
        · cases parsed : parseValue runtime field (splitValue field (text.drop (colon + 2))).2 with
          | none =>
            apply Signed.without
            intro negated
            simp [own, parseFilter, still, parsed, ParsedQuery.diagnose]
          | some value =>
            apply Signed.one (.filter field (splitValue field (text.drop (colon + 2))).1 value)
            · intro negated
              simp [own, parseFilter, still, parsed, ParsedQuery.node]
            · exact fun _ => rfl
            · exact fun _ => rfl

/-- A minus sign complements what a term means. -/
theorem meaning_negated {p : SearchRow → Bool}
    (effective : meaning runtime ⟨text, false⟩ = some p) :
    ∃ q, meaning runtime ⟨text, true⟩ = some q ∧ ∀ row, q row = !p row := by
  cases signed runtime text with
  | without none =>
    rw [meaning_eq_none.mpr (none false)] at effective
    cases effective
  | one node own sign same =>
    have compiled : ∀ negated, ∃ q, meaning runtime ⟨text, negated⟩ = some q ∧
        ∀ row, q row = (matchNode runtime (node negated) row != negated) := by
      intro negated
      cases found : meaning runtime ⟨text, negated⟩ with
      | none =>
        have nothing := meaning_eq_none.mp found
        rw [own negated] at nothing
        cases nothing
      | some q =>
        refine ⟨q, rfl, ?_⟩
        intro row
        have all : q row = (termNodes runtime ⟨text, negated⟩).all fun node =>
            matchNode runtime node row != node.negated := compileQuery_eq_some found row
        rw [all, own negated]
        simp [sign]
    obtain ⟨q, negative, complement⟩ := compiled true
    obtain ⟨p', positive, plain⟩ := compiled false
    obtain rfl := Option.some.inj (effective.symm.trans positive)
    refine ⟨q, negative, ?_⟩
    intro row
    rw [complement, plain, same]
    simp

/-- The term in its place, and with a minus sign before it. -/
theorem tokens_minus {before term after : JsString} (ends : EndsBefore before)
    (starts : StartsAfter term after) (whole : unbroken false term = true)
    (plain : term.head? ≠ some (unit '-')) (text : unquoted term ≠ []) :
    (tokenize (before ++ (term ++ after))).tokens =
        (tokenize before).tokens ++ ⟨unquoted term, false⟩ :: (tokenize after).tokens ∧
      (tokenize (before ++ (unit '-' :: term ++ after))).tokens =
        (tokenize before).tokens ++ ⟨unquoted term, true⟩ :: (tokenize after).tokens := by
  obtain ⟨positive, negative⟩ := tokenize_term whole plain text
  have starts' : StartsAfter (unit '-' :: term) after :=
    starts.imp_right fun h => ⟨(paired_append (a := js "-") ⟨0, by decide⟩).mpr h.1, h.2⟩
  rw [tokens_append_before ends, tokens_append_after starts, positive,
    tokens_append_before ends, tokens_append_after starts', negative]
  exact ⟨rfl, rfl⟩

/-! ### Numbers -/

/-- One of the three holds and the others do not. -/
def ExactlyOne (a b c : Bool) : Prop :=
  (a = true ∧ b = false ∧ c = false) ∨ (a = false ∧ b = true ∧ c = false) ∨
    (a = false ∧ b = false ∧ c = true)

namespace Number

theorem trichotomy {n : Number} (number : n ≠ .nan) (q : ℚ) :
    ExactlyOne (n.lt (.finite q)) (n.same (.finite q)) (lt (.finite q) n) ∧
      le (.finite q) n = !n.lt (.finite q) ∧ n.le (.finite q) = !lt (.finite q) n := by
  cases n with
  | nan => exact absurd rfl number
  | infinite => simp [ExactlyOne, lt, same, le]
  | finite a =>
    rcases lt_trichotomy a q with below | equal | above
    · simp [ExactlyOne, lt, same, le, below, below.ne, below.ne', not_lt.mpr below.le]
    · simp [ExactlyOne, lt, same, le, equal]
    · simp [ExactlyOne, lt, same, le, above, above.ne, above.ne', not_lt.mpr above.le]

theorem le_iff_not_lt {n : Number} (number : n ≠ .nan) (q : ℚ) :
    le (.finite q) n = !n.lt (.finite q) := (trichotomy number q).2.1

theorem lt_trans {n : Number} {a b : ℚ} (below : n.lt (.finite a) = true) (less : a ≤ b) :
    n.lt (.finite b) = true := by
  cases n with
  | nan => cases below
  | infinite => cases below
  | finite n =>
    simp only [lt, decide_eq_true_eq] at below ⊢
    exact lt_of_lt_of_le below less

end Number

/-- Below, within and above an interval. -/
theorem interval_trichotomy {n : Number} (number : n ≠ .nan) {v : DateValue}
    (some_ : v.startSec < v.endSec) :
    ExactlyOne (Comparator.lt.ofDates n v) (Comparator.eq.ofDates n v) (Comparator.gt.ofDates n v) ∧
      Comparator.ge.ofDates n v = !Comparator.lt.ofDates n v ∧
      Comparator.le.ofDates n v = !Comparator.gt.ofDates n v := by
  have order : (v.startSec : ℚ) ≤ v.endSec := by exact_mod_cast some_.le
  have start := Number.le_iff_not_lt number v.startSec
  have stop := Number.le_iff_not_lt number v.endSec
  simp only [Comparator.ofDates, start, stop, Bool.not_not, and_true]
  cases early : n.lt (.finite v.startSec) with
  | true => simp [ExactlyOne, Number.lt_trans early order]
  | false =>
    cases late : n.lt (.finite v.endSec) with
    | true => simp [ExactlyOne]
    | false => simp [ExactlyOne]

/-! ### Values -/

/-- No number or date begins like this, with white space before it or without. -/
structure Foreign (u : CodeUnit) : Prop where
  space : isSpace u = false
  digit : isDigit u = false
  minus : u ≠ unit '-'
  slash : u ≠ unit '/'

variable {u : CodeUnit}

theorem trim_cons (space : isSpace u = false) (rest : JsString) :
    ∃ more, trim (u :: rest) = u :: more := by
  have keeps : ∀ text : JsString, ∃ more, (text ++ [u]).dropWhile isSpace = more ++ [u] := by
    intro text
    induction text with
    | nil => exact ⟨[], by simp [space]⟩
    | cons v text ih =>
      rw [List.cons_append, List.dropWhile_cons]
      split
      · exact ih
      · exact ⟨v :: text, rfl⟩
  obtain ⟨more, dropped⟩ := keeps rest.reverse
  refine ⟨more.reverse, ?_⟩
  rw [trim, List.dropWhile_cons, if_neg (by simp [space]), List.reverse_cons, dropped]
  simp

theorem matchDecimal_cons (digit : isDigit u = false) (rest : JsString) :
    matchDecimal (u :: rest) = none := by
  simp [matchDecimal, digit]

theorem lowerUnit_eq_slash (lower : lowerUnit u = unit '/') : u = unit '/' := by
  unfold lowerUnit at lower
  split at lower
  case isTrue upper =>
    exfalso
    simp only [isUpper, Bool.and_eq_true, decide_eq_true_eq, UInt16.le_iff_toNat_le] at upper
    have sum := congrArg UInt16.toNat lower
    rw [UInt16.toNat_add] at sum
    have low : (unit 'A').toNat = 65 := by decide
    have high : (unit 'Z').toNat = 90 := by decide
    have slash : (unit '/').toNat = 47 := by decide
    have shift : (32 : UInt16).toNat = 32 := by decide
    omega
  case isFalse => exact lower

theorem dropPerSecond_cons (slash : u ≠ unit '/') (rest : JsString) :
    ∃ more, dropPerSecond (u :: rest) = u :: more := by
  unfold dropPerSecond
  split
  case isFalse => exact ⟨rest, rfl⟩
  case isTrue ends =>
    cases rest with
    | nil => simp [js] at ends
    | cons v rest =>
      cases rest with
      | nil =>
        exfalso
        have first : lowerUnit u = unit '/' := by
          have same := congrArg List.head? ends
          simpa [js] using same
        exact slash (lowerUnit_eq_slash first)
      | cons w rest =>
        exact ⟨(v :: w :: rest).take rest.length, by simp⟩

theorem parseSize_cons (foreign : Foreign u) (rest : JsString) : parseSize (u :: rest) = none := by
  obtain ⟨more, trimmed⟩ := trim_cons foreign.space rest
  simp [parseSize, matchSize, trimmed, matchDecimal_cons foreign.digit]

theorem parseNumber_cons (foreign : Foreign u) (rest : JsString) :
    parseRate (u :: rest) = none ∧ parsePercentPpm (u :: rest) = none ∧
      parseDurationSeconds (u :: rest) = none ∧ parsePlainNumber (u :: rest) = none := by
  obtain ⟨more, trimmed⟩ := trim_cons foreign.space rest
  obtain ⟨more', dropped⟩ := dropPerSecond_cons foreign.slash more
  refine ⟨?_, ?_, ?_, ?_⟩
  · rw [parseRate, trimmed, dropped]
    exact parseSize_cons foreign more'
  · simp [parsePercentPpm, trimmed, matchDecimal_cons foreign.digit]
  · simp [parseDurationSeconds, trimmed, matchDecimal_cons foreign.digit]
  · simp [parsePlainNumber, trimmed, foreign.minus, matchDecimal_cons foreign.digit]

theorem parseDate_cons {calendar : Calendar} (foreign : Foreign u) (rest : JsString) :
    parseDate calendar (u :: rest) = none := by
  obtain ⟨more, trimmed⟩ := trim_cons foreign.space rest
  have digits : matchDigits 4 (u :: more) = none := by simp [matchDigits, foreign.digit]
  simp [parseDate, trimmed, matchDate, digits]

/-- A value of a number or a date begins like one. -/
theorem parseValue_cons {field : TorrentFieldDef} (numeric : isNumericType field.type = true)
    (foreign : Foreign u) (rest : JsString) : parseValue runtime field (u :: rest) = none := by
  obtain ⟨more, trimmed⟩ := trim_cons foreign.space rest
  obtain ⟨rate, percent, duration, plain⟩ := parseNumber_cons foreign rest
  have sentinel : trim (u :: rest) ≠ js "-1" := by
    rw [trimmed]
    exact fun same => foreign.minus (List.cons.inj same).1
  obtain ⟨name, type, aliases, values, limit, filterable⟩ := field
  cases type <;>
    simp_all [isNumericType, parseValue, parseTypedValue, parseSize_cons foreign,
      parseDate_cons foreign]

theorem Foreign.symbol {c : Char} (angle : c = '<' ∨ c = '>' ∨ c = '=') : Foreign (unit c) := by
  rcases angle with rfl | rfl | rfl <;> exact ⟨by decide, by decide, by decide, by decide⟩

def Comparator.symbol : Comparator → JsString
  | gt => js ">"
  | ge => js ">="
  | lt => js "<"
  | le => js "<="
  | eq => []

/-- The comparator before a value is found again. -/
theorem splitOp_symbol (op : Comparator)
    (head : ∀ u ∈ rhs.head?, u ≠ unit '<' ∧ u ≠ unit '>' ∧ u ≠ unit '=') :
    splitOp (op.symbol ++ rhs) = (op, rhs) := by
  cases rhs with
  | nil => cases op <;> decide
  | cons u rest =>
    obtain ⟨less, greater, equal⟩ := head u rfl
    have codes : unit '<' ≠ unit '>' ∧ unit '=' ≠ unit '>' := by decide
    cases op <;>
      simp [splitOp, Comparator.symbol, js, List.isPrefixOf, less.symm, greater.symm, equal.symm,
        codes.1, codes.1.symm]

/-! ### Units -/

/-- The unit of a size, if it is one. -/
def unitOf (text : JsString) : Option JsString := (matchSize text).map (·.2)

/-- A size or a rate whose unit is the word `constructor`. -/
def NamesConstructor (field : TorrentFieldDef) (rhs : JsString) : Prop :=
  (field.type = .bytes ∧ unitOf rhs = some (js "constructor")) ∨
    (field.type = .rate ∧ unitOf (dropPerSecond (trim rhs)) = some (js "constructor"))

theorem property?_finite {record : List (JsString × ℚ)} {name : JsString} {v : Number}
    (other : name ≠ js "constructor") (found : property? record name = some v) :
    ∃ q, v = .finite q := by
  unfold property? at found
  cases own : record.lookup name with
  | none => simp [own, other] at found
  | some q => exact ⟨q, by simpa [own] using found.symm⟩

theorem parseSize_constructor (named : unitOf text = some (js "constructor")) :
    parseSize text = some .nan := by
  obtain ⟨size, found, word⟩ := Option.map_eq_some_iff.mp named
  have binary : property? binaryUnits (js "constructor") = some .nan := by decide +kernel
  have unit : ¬(js "constructor" = [] ∨ js "constructor" = js "b") := by decide
  unfold parseSize
  rw [found]
  simp only [word, binary, if_neg unit]
  rfl

theorem parseSize_finite {v : Number} (other : unitOf text ≠ some (js "constructor"))
    (parsed : parseSize text = some v) : ∃ q, v = .finite q := by
  unfold parseSize at parsed
  unfold unitOf at other
  cases found : matchSize text with
  | none => simp [found] at parsed
  | some size =>
    simp only [found, Option.map_some, ne_eq, Option.some.injEq] at parsed other
    split at parsed
    · exact ⟨size.1, by simpa using parsed.symm⟩
    · split at parsed
      · cases parsed
      case h_2 factor units =>
        have one : ∃ q, factor = .finite q := by
          rcases Option.or_eq_some_iff.mp units with binary | ⟨-, decimal⟩
          · exact property?_finite other binary
          · exact property?_finite other decimal
        obtain ⟨q, rfl⟩ := one
        exact ⟨size.1 * q, by simpa [Number.mul] using parsed.symm⟩

theorem parsePercentPpm_finite {v : Number} (parsed : parsePercentPpm text = some v) :
    ∃ q, v = .finite q := by
  unfold parsePercentPpm at parsed
  split at parsed
  · cases parsed
  case h_2 value rest _ =>
    dsimp only at parsed
    split at parsed
    · exact ⟨value * 10000, (Option.some.inj parsed).symm⟩
    · cases parsed

theorem parseDurationSeconds_finite {v : Number} (parsed : parseDurationSeconds text = some v) :
    ∃ q, v = .finite q := by
  unfold parseDurationSeconds at parsed
  split at parsed
  · cases parsed
  case h_2 value rest _ =>
    dsimp only at parsed
    split at parsed
    · exact ⟨value, (Option.some.inj parsed).symm⟩
    · obtain ⟨factor, -, same⟩ := Option.map_eq_some_iff.mp parsed
      exact ⟨value * factor, same.symm⟩

theorem parsePlainNumber_finite {v : Number} (parsed : parsePlainNumber text = some v) :
    ∃ q, v = .finite q := by
  unfold parsePlainNumber at parsed
  dsimp only at parsed
  split at parsed
  case h_1 value _ => exact ⟨_, (Option.some.inj parsed).symm⟩
  · cases parsed

theorem unitOf_sentinel (sentinel : trim text = js "-1") :
    unitOf text = none ∧ unitOf (dropPerSecond (trim text)) = none := by
  constructor
  · have nothing : matchDecimal (js "-1") = none := by decide +kernel
    simp [unitOf, matchSize, sentinel, nothing]
  · rw [sentinel]
    decide +kernel

/-- The value that `parseValue` makes of a number. -/
def TypedValue.compiledNumber : TypedValue → Option CompiledValue
  | number value => some (.number value)
  | date _ => none

/-- The numbers of `parseValue`: the sentinel, or what `parseTypedValue` gives. -/
theorem parseValue_typed {field : TorrentFieldDef} {value : CompiledValue}
    (numeric : isNumericType field.type = true) (number : field.type ≠ .date)
    (parsed : parseValue runtime field rhs = some value) :
    value = .number (.finite (-1)) ∨
      ∃ v, parseTypedValue runtime.calendar field.type rhs = some (.number v) ∧
        value = .number v := by
  obtain ⟨name, type, aliases, values, limit, filterable⟩ := field
  by_cases sentinel : limit = true ∧ trim rhs = js "-1"
  · have own : parseValue runtime ⟨name, type, aliases, values, limit, filterable⟩ rhs =
        some (.number (.finite (-1))) := by
      cases type <;> first | exact if_pos sentinel | exact absurd rfl number | cases numeric
    exact .inl (Option.some.inj (parsed.symm.trans own))
  · have own : parseValue runtime ⟨name, type, aliases, values, limit, filterable⟩ rhs =
        (parseTypedValue runtime.calendar type rhs).bind TypedValue.compiledNumber := by
      have shape : ∀ typed, parseTypedValue runtime.calendar type rhs = typed →
          parseValue runtime ⟨name, type, aliases, values, limit, filterable⟩ rhs =
            typed.bind TypedValue.compiledNumber := by
        rintro (_ | _ | _) typed <;>
          cases type <;>
          first
          | exact absurd rfl number
          | exact (if_neg sentinel).trans (by rw [typed]; rfl)
          | cases numeric
      exact shape _ rfl
    rw [own] at parsed
    obtain ⟨t, typed, compiled⟩ := Option.bind_eq_some_iff.mp parsed
    cases t with
    | number v => exact .inr ⟨v, typed, (Option.some.inj compiled).symm⟩
    | date v => cases compiled

/-- The value of a number is one, but for the unit that names a function. -/
theorem parseValue_number {field : TorrentFieldDef} (numeric : isNumericType field.type = true)
    (number : field.type ≠ .date) :
    (NamesConstructor field rhs → parseValue runtime field rhs = some (.number .nan)) ∧
      (¬NamesConstructor field rhs → ∀ value, parseValue runtime field rhs = some value →
        ∃ q, value = .number (.finite q)) := by
  have sentinel : trim rhs = js "-1" → ¬NamesConstructor field rhs := by
    rintro same (⟨-, named⟩ | ⟨-, named⟩)
    · rw [(unitOf_sentinel same).1] at named
      cases named
    · rw [(unitOf_sentinel same).2] at named
      cases named
  constructor
  · intro named
    have other : ¬(field.unlimitedSentinel = true ∧ trim rhs = js "-1") :=
      fun both => sentinel both.2 named
    rcases named with ⟨type, named⟩ | ⟨type, named⟩
    · simp [parseValue, parseTypedValue, type, other, parseSize_constructor named]
    · simp [parseValue, parseTypedValue, type, other, parseRate, parseSize_constructor named]
  · intro unnamed value parsed
    rcases parseValue_typed numeric number parsed with rfl | ⟨v, typed, rfl⟩
    · exact ⟨-1, rfl⟩
    · have finite : ∃ q, v = .finite q := by
        cases type : field.type with
        | bytes =>
          have own : parseSize rhs = some v := by simpa [parseTypedValue, type] using typed
          exact parseSize_finite (fun named => unnamed (.inl ⟨type, named⟩)) own
        | rate =>
          have own : parseRate rhs = some v := by simpa [parseTypedValue, type] using typed
          exact parseSize_finite (fun named => unnamed (.inr ⟨type, named⟩)) own
        | percentPpm =>
          have own : parsePercentPpm rhs = some v := by simpa [parseTypedValue, type] using typed
          exact parsePercentPpm_finite own
        | durationSecs | etaSecs =>
          have own : parseDurationSeconds rhs = some v := by
            simpa [parseTypedValue, type] using typed
          exact parseDurationSeconds_finite own
        | number | float =>
          have own : parsePlainNumber rhs = some v := by simpa [parseTypedValue, type] using typed
          exact parsePlainNumber_finite own
        | date => exact absurd type number
        | _ => simp [isNumericType, type] at numeric
      obtain ⟨q, rfl⟩ := finite
      exact ⟨q, rfl⟩

/-! ### Dates -/

namespace Calendar

/-- Year, month and day of an instant, in this order. -/
def dayOf (c : Calendar) (instant : Int) : ℤ ×ₗ ℤ ×ₗ ℤ :=
  toLex (c.getFullYear instant, toLex (c.getMonth instant, c.getDate instant))

/-- A later instant is not on an earlier day, the midnight of the day after a day is on a later
one, and midnights are on whole seconds. -/
structure Monotone (c : Calendar) : Prop where
  day : ∀ s t, s ≤ t → c.dayOf s ≤ c.dayOf t
  later : ∀ year month day, c.dayOf (c.newDate year month day 0 0 0) =
    toLex (year, toLex (month, day)) →
      toLex (year, toLex (month, day)) < c.dayOf (c.newDate year month (day + 1) 0 0 0)
  second : ∀ year month day, c.newDate year month day 0 0 0 % 1000 = 0

end Calendar

/-- The interval of a date is not empty. -/
theorem parseDate_interval {calendar : Calendar} (monotone : calendar.Monotone) {v : DateValue}
    (parsed : parseDate calendar text = some v) : v.startSec < v.endSec := by
  unfold parseDate at parsed
  split at parsed
  · cases parsed
  case h_2 year month day time _ =>
    dsimp only at parsed
    split at parsed
    · cases parsed
    case isFalse same =>
      split at parsed
      · cases parsed
      · split at parsed
        · cases parsed
        · obtain rfl := Option.some.inj parsed
          cases time with
          | some clock =>
            simp only [Option.isSome_some, if_true]
            split <;> omega
          | none =>
            simp only [Option.map_none, Option.getD_none, Option.bind_none, Option.isSome_none,
              Bool.false_eq_true, if_false] at same ⊢
            simp only [not_or, not_not] at same
            obtain ⟨ownYear, ownMonth, ownDay⟩ := same
            have own : calendar.dayOf (calendar.newDate year (month - 1) day 0 0 0) =
                toLex (year, toLex (month - 1, day)) := by
              simp [Calendar.dayOf, ownYear, ownMonth, ownDay]
            have next := monotone.later _ _ _ own
            have after : calendar.newDate year (month - 1) day 0 0 0 <
                calendar.newDate year (month - 1) (day + 1) 0 0 0 := by
              by_contra before
              have back := monotone.day _ _ (not_lt.mp before)
              rw [own] at back
              exact absurd next (not_lt.mpr back)
            have first := monotone.second year (month - 1) day
            have second := monotone.second year (month - 1) (day + 1)
            omega

/-! ### Comparisons -/

/-- The key names a field that can be searched by. -/
structure Names (runtime : Runtime) (key : JsString) (field : TorrentFieldDef) : Prop where
  some_ : key ≠ []
  plain : unit ':' ∉ key
  found : lookupTorrentField runtime key = some field
  filterable : field.filterable = true

theorem Names.nodes {field : TorrentFieldDef} (names : Names runtime key field) (rhs : JsString)
    (negated : Bool) : termNodes runtime ⟨key ++ unit ':' :: rhs, negated⟩ =
      (parseFilter runtime ⟨[], []⟩ field rhs negated).nodes := by
  obtain ⟨n, length⟩ := Nat.exists_eq_succ_of_ne_zero (List.length_eq_zero_iff.not.mpr names.some_)
  have colon : (key ++ unit ':' :: rhs).idxOf? (unit ':') = some (n + 1) := by
    rw [← Nat.succ_eq_add_one, ← length, List.idxOf?_eq_some_iff]
    refine ⟨by simp, by simp, ?_⟩
    intro j inside same
    rw [List.getElem_append_left inside] at same
    exact names.plain (same ▸ List.getElem_mem inside)
  have before : (key ++ unit ':' :: rhs).take (n + 1) = key := List.take_left' length
  have after : (key ++ unit ':' :: rhs).drop (n + 1 + 1) = rhs := by
    rw [← Nat.succ_eq_add_one n, ← length, ← List.drop_drop, List.drop_left]
    rfl
  have known : (lookupTorrentField runtime key).filter (·.filterable) = some field := by
    rw [names.found]
    simp [names.filterable]
  unfold termNodes parseToken
  simp only [colon, before, after, known]

/-- A comparison that is not parsed, or is still empty, asks for nothing. -/
theorem Names.meaning_none {field : TorrentFieldDef} (names : Names runtime key field)
    (still : (splitValue field rhs).2 = [] ∨
      parseValue runtime field (splitValue field rhs).2 = none) (negated : Bool) :
    meaning runtime ⟨key ++ unit ':' :: rhs, negated⟩ = none := by
  rw [meaning_eq_none, names.nodes, parseFilter]
  split
  · rfl
  case isFalse typed =>
    rw [still.resolve_left typed]
    rfl

/-- A value for the comparisons; a missing ETA is infinite. -/
def HasValue (field : TorrentFieldDef) (row : SearchRow) : Prop :=
  (∃ n, row.get field.key = .number n ∧ n ≠ .nan ∧
    (field.type = .date → n.le (.finite 0) = false)) ∨
    (row.get field.key = .missing ∧ field.type = .etaSecs)

/-- The comparisons of a field with one value. -/
structure Compares (field : TorrentFieldDef) (value : CompiledValue)
    (p : Comparator → SearchRow → Bool) : Prop where
  valued : ∀ row, HasValue field row →
    ExactlyOne (p .lt row) (p .eq row) (p .gt row) ∧ p .ge row = !p .lt row ∧ p .le row = !p .gt row
  missing : ∀ row, ¬HasValue field row → ∀ op, p op row = false
  eta : ∀ row, field.type = .etaSecs → row.get field.key = .missing → p .gt row = true
  interval : ∀ date, value = .date date → date.startSec < date.endSec ∧
    ∀ row n, row.get field.key = .number n → HasValue field row →
      p .eq row = ((Number.finite date.startSec).le n && n.lt (.finite date.endSec))

/-- A value that is parsed can be compared with. -/
def Ordered (runtime : Runtime) (key : JsString) (field : TorrentFieldDef) (rhs : JsString) :
    Prop :=
  ∀ value, parseValue runtime field rhs = some value → ∃ p : Comparator → SearchRow → Bool,
    (∀ op, meaning runtime ⟨key ++ unit ':' :: (op.symbol ++ rhs), false⟩ = some (p op)) ∧
      Compares field value p

theorem parseValue_nil {field : TorrentFieldDef} (numeric : isNumericType field.type = true) :
    parseValue runtime field [] = none := by
  obtain ⟨name, type, aliases, values, limit, filterable⟩ := field
  cases type <;> first | (cases limit <;> rfl) | cases numeric

/-- What a comparison with a parsed value means. -/
theorem Names.meaning_some {field : TorrentFieldDef} (names : Names runtime key field)
    (numeric : isNumericType field.type = true) {value : CompiledValue}
    (parsed : parseValue runtime field rhs = some value) (op : Comparator) :
    ∃ p, meaning runtime ⟨key ++ unit ':' :: (op.symbol ++ rhs), false⟩ = some p ∧
      ∀ row, p row = matchValue runtime field op (row.get field.key) value := by
  have head : ∀ u ∈ rhs.head?, u ≠ unit '<' ∧ u ≠ unit '>' ∧ u ≠ unit '=' := by
    intro u first
    obtain ⟨rest, rfl⟩ : ∃ rest, rhs = u :: rest := by
      cases rhs with
      | nil => cases first
      | cons v rest => exact ⟨rest, by rw [Option.some.inj first]⟩
    have proper : ¬Foreign u := by
      intro foreign
      rw [parseValue_cons numeric foreign] at parsed
      cases parsed
    refine ⟨?_, ?_, ?_⟩ <;> rintro rfl
    · exact proper (.symbol (.inl rfl))
    · exact proper (.symbol (.inr (.inl rfl)))
    · exact proper (.symbol (.inr (.inr rfl)))
  have split : splitValue field (op.symbol ++ rhs) = (op, rhs) := by
    rw [splitValue, if_pos numeric, splitOp_symbol op head]
  have typed : rhs ≠ [] := by
    rintro rfl
    rw [parseValue_nil numeric] at parsed
    cases parsed
  have nodes : termNodes runtime ⟨key ++ unit ':' :: (op.symbol ++ rhs), false⟩ =
      [.filter field op value false] := by
    rw [names.nodes, parseFilter, split]
    simp [typed, parsed, ParsedQuery.node]
  cases found : meaning runtime ⟨key ++ unit ':' :: (op.symbol ++ rhs), false⟩ with
  | none =>
    rw [meaning_eq_none.mp found] at nodes
    cases nodes
  | some p =>
    refine ⟨p, rfl, ?_⟩
    intro row
    have all := compileQuery_eq_some found row
    rw [show (parseToken runtime ⟨[], []⟩ ⟨key ++ unit ':' :: (op.symbol ++ rhs), false⟩).nodes =
      [.filter field op value false] from nodes] at all
    simpa [matchNode, QueryNode.negated] using all

/-- What a row is compared as: `NaN` without a value. -/
def amount (field : TorrentFieldDef) : Raw → Number
  | .missing => if field.type = .etaSecs then .infinite else .nan
  | .number n => n
  | _ => .nan

theorem matchValue_number {field : TorrentFieldDef} {op : Comparator} {raw : Raw} {v : Number} :
    matchValue runtime field op raw (.number v) =
      if amount field raw = .nan then false else op.ofNumbers (amount field raw) v := by
  cases raw <;> rfl

theorem hasValue_iff {field : TorrentFieldDef} (number : field.type ≠ .date) :
    HasValue field row ↔ amount field (row.get field.key) ≠ .nan := by
  unfold HasValue amount
  cases row.get field.key with
  | missing => by_cases eta : field.type = .etaSecs <;> simp [eta]
  | number n => simp [number]
  | _ => simp

theorem compares_number {field : TorrentFieldDef} (number : field.type ≠ .date) {q : ℚ}
    {p : Comparator → SearchRow → Bool} (own : ∀ op row, p op row =
      matchValue runtime field op (row.get field.key) (.number (.finite q))) :
    Compares field (.number (.finite q)) p := by
  refine ⟨?_, ?_, ?_, ?_⟩
  · intro row valued
    have some_ := (hasValue_iff number).mp valued
    have three := Number.trichotomy some_ q
    simpa [own, matchValue_number, some_, Comparator.ofNumbers] using three
  · intro row unvalued op
    have none_ : amount field (row.get field.key) = .nan :=
      not_not.mp ((hasValue_iff number).not.mp unvalued)
    rw [own, matchValue_number, if_pos none_]
  · intro row eta missing
    simp [own, matchValue_number, missing, amount, eta, Comparator.ofNumbers, Number.lt]
  · intro date other
    cases other

theorem compares_date {field : TorrentFieldDef} (date : field.type = .date) {v : DateValue}
    (some_ : v.startSec < v.endSec) {p : Comparator → SearchRow → Bool}
    (own : ∀ op row, p op row = matchValue runtime field op (row.get field.key) (.date v)) :
    Compares field (.date v) p := by
  have valued : ∀ row, HasValue field row → ∃ n, row.get field.key = .number n ∧ n ≠ .nan ∧
      ∀ op, p op row = op.ofDates n v := by
    rintro row (⟨n, found, proper, positive⟩ | ⟨-, eta⟩)
    · refine ⟨n, found, proper, ?_⟩
      intro op
      simp [own, found, matchValue, positive date]
    · rw [date] at eta
      cases eta
  refine ⟨?_, ?_, ?_, ?_⟩
  · intro row has
    obtain ⟨n, -, proper, means⟩ := valued row has
    simpa only [means] using interval_trichotomy proper some_
  · intro row unvalued op
    rw [own]
    cases found : row.get field.key with
    | number n =>
      cases early : n.le (.finite 0) with
      | true => simp [matchValue, early]
      | false =>
        have nan : n = .nan := by
          by_contra proper
          exact unvalued (.inl ⟨n, found, proper, fun _ => early⟩)
        subst nan
        cases op <;> rfl
    | _ => rfl
  · intro row eta
    rw [date] at eta
    cases eta
  · rintro _ ⟨⟩
    refine ⟨some_, ?_⟩
    intro row n found has
    obtain ⟨m, found', -, means⟩ := valued row has
    obtain rfl := Raw.number.inj (found.symm.trans found')
    exact means .eq

theorem parseValue_date {field : TorrentFieldDef} {value : CompiledValue}
    (date : field.type = .date) (parsed : parseValue runtime field rhs = some value) :
    ∃ v, parseDate runtime.calendar rhs = some v ∧ value = .date v := by
  simp only [parseValue, date, parseTypedValue] at parsed
  cases found : parseDate runtime.calendar rhs with
  | none => simp [found] at parsed
  | some v => exact ⟨v, rfl, by simpa [found] using parsed.symm⟩

/-- A value can be compared with unless its unit names a function. -/
theorem ordered_iff (monotone : runtime.calendar.Monotone) {field : TorrentFieldDef}
    (names : Names runtime key field) (numeric : isNumericType field.type = true) :
    Ordered runtime key field rhs ↔ ¬NamesConstructor field rhs := by
  by_cases date : field.type = .date
  · have unnamed : ¬NamesConstructor field rhs := by
      rintro (⟨type, -⟩ | ⟨type, -⟩) <;>
      · rw [date] at type
        cases type
    refine iff_of_true ?_ unnamed
    intro value parsed
    obtain ⟨v, read, rfl⟩ := parseValue_date date parsed
    choose p means own using fun op => names.meaning_some numeric parsed op
    exact ⟨p, means, compares_date date (parseDate_interval monotone read) own⟩
  · obtain ⟨nan, finite⟩ :
        (NamesConstructor field rhs → parseValue runtime field rhs = some (.number .nan)) ∧
          (¬NamesConstructor field rhs → ∀ value, parseValue runtime field rhs = some value →
            ∃ q, value = .number (.finite q)) := parseValue_number numeric date
    constructor
    · intro ordered named
      obtain ⟨p, means, compares⟩ := ordered _ (nan named)
      have never : ∀ op row, p op row = false := by
        intro op row
        obtain ⟨q, found, own⟩ := names.meaning_some numeric (nan named) op
        rw [means op] at found
        obtain rfl := Option.some.inj found
        rw [own, matchValue_number]
        split
        · rfl
        · cases op <;> cases amount field (row.get field.key) <;> rfl
      let row : SearchRow := ⟨[], fun _ => .number (.finite 1)⟩
      have valued : HasValue field row := (hasValue_iff date).mpr (by simp [amount, row])
      obtain ⟨one, -⟩ := compares.valued row valued
      simp [ExactlyOne, never] at one
    · intro unnamed value parsed
      obtain ⟨q, rfl⟩ := finite unnamed value parsed
      choose p means own using fun op => names.meaning_some numeric parsed op
      exact ⟨p, means, compares_number date own⟩

/-- A query is the conjunction of its terms, if one has an effect; a minus sign before a term
complements it; a term without a value or with one that is not parsed asks for nothing; and the
comparisons with a value that is parsed are those of an order, unless its unit is the word
`constructor`. -/
theorem query_semantics (runtime : Runtime) (monotone : runtime.calendar.Monotone) :
    (∀ input, (compileQuery runtime (parseQuery runtime input) = none ↔
        ∀ t ∈ (tokenize input).tokens, meaning runtime t = none) ∧
      ∀ p, compileQuery runtime (parseQuery runtime input) = some p → ∀ row,
        (p row = true ↔
          ∀ t ∈ (tokenize input).tokens, ∀ q, meaning runtime t = some q → q row = true)) ∧
    (∀ before term after, EndsBefore before → StartsAfter term after → unbroken false term = true →
      term.head? ≠ some (unit '-') → unquoted term ≠ [] →
        (tokenize (before ++ (term ++ after))).tokens =
            (tokenize before).tokens ++ ⟨unquoted term, false⟩ :: (tokenize after).tokens ∧
          (tokenize (before ++ (unit '-' :: term ++ after))).tokens =
            (tokenize before).tokens ++ ⟨unquoted term, true⟩ :: (tokenize after).tokens ∧
          ∀ p, meaning runtime ⟨unquoted term, false⟩ = some p →
            ∃ q, meaning runtime ⟨unquoted term, true⟩ = some q ∧ ∀ row, q row = !p row) ∧
    (∀ key field rhs negated, Names runtime key field →
      ((splitValue field rhs).2 = [] ∨ parseValue runtime field (splitValue field rhs).2 = none) →
        meaning runtime ⟨key ++ unit ':' :: rhs, negated⟩ = none) ∧
    ∀ key field rhs, Names runtime key field → isNumericType field.type = true →
      (Ordered runtime key field rhs ↔ ¬NamesConstructor field rhs) := by
  refine ⟨fun input => compileQuery_conjunction, ?_, ?_, ?_⟩
  · intro before term after ends starts whole plain text
    obtain ⟨positive, negative⟩ := tokens_minus ends starts whole plain text
    exact ⟨positive, negative, fun p effective => meaning_negated effective⟩
  · intro key field rhs negated names still
    exact names.meaning_none still negated
  · intro key field rhs names numeric
    exact ordered_iff monotone names numeric

/-- A calendar of twelve months of 31 days, which in January 1970 is that of UTC. -/
def longMonths : Calendar where
  newDate year month day hour minute second :=
    (((((year - 1970) * 12 + month) * 31 + (day - 1)) * 24 + hour) * 60 + minute) * 60000 +
      second * 1000
  getFullYear instant := 1970 + instant / 86400000 / 372
  getMonth instant := instant / 86400000 / 31 % 12
  getDate instant := instant / 86400000 % 31 + 1
  getHours instant := instant / 3600000 % 24
  getMinutes instant := instant / 60000 % 60
  getSeconds instant := instant / 1000 % 60

theorem longMonths_monotone : longMonths.Monotone := by
  refine ⟨?_, ?_, ?_⟩
  · intro s t order
    simp only [Calendar.dayOf, longMonths, Prod.Lex.toLex_le_toLex]
    omega
  · intro year month day same
    simp only [Calendar.dayOf, longMonths, EmbeddingLike.apply_eq_iff_eq, Prod.mk.injEq] at same
    simp only [Calendar.dayOf, longMonths, Prod.Lex.toLex_lt_toLex]
    omega
  · intro year month day
    simp only [longMonths]
    omega

theorem lowerUnit_kept (kept : u = unit '"' ∨ isSpace u = true) : lowerUnit u = u := by
  have lower : isUpper u = false := by
    by_contra upper
    rw [Bool.not_eq_false, isUpper, Bool.and_eq_true, decide_eq_true_eq, decide_eq_true_eq,
      UInt16.le_iff_toNat_le, UInt16.le_iff_toNat_le] at upper
    have first : (unit 'A').toNat = 65 := by decide
    have last : (unit 'Z').toNat = 90 := by decide
    rcases kept with rfl | space
    · have quote : (unit '"').toNat = 34 := by decide
      omega
    · simp [isSpace, UInt16.le_iff_toNat_le, ← UInt16.toNat_inj] at space
      omega
  rw [lowerUnit, lower]
  rfl

/-- The search with ASCII only. -/
def asciiRuntime : Runtime where
  toLowerCase text := text.map lowerUnit
  ascii _ _ := rfl
  keeps _ _ kept there := List.mem_map.mpr ⟨_, there, lowerUnit_kept kept⟩
  numberText _ := []
  calendar := longMonths

theorem names_totalWanted :
    Names asciiRuntime (js "size") (torrentField "totalWanted" .bytes ["size"]) :=
  ⟨by decide, by decide, by decide +kernel, rfl⟩

/-- Sizes compare with `5k` as numbers do. -/
theorem query_semantics_size :
    Ordered asciiRuntime (js "size") (torrentField "totalWanted" .bytes ["size"]) (js "5k") := by
  have unnamed : ¬NamesConstructor (torrentField "totalWanted" .bytes ["size"]) (js "5k") := by
    rintro (⟨-, named⟩ | ⟨type, -⟩)
    · exact absurd named (by decide +kernel)
    · cases type
  exact ((query_semantics asciiRuntime longMonths_monotone).2.2.2 _ _ _ names_totalWanted rfl).mpr
    unnamed

/-- A size is neither below `5constructor`, nor equal to it, nor above: every torrent is left
out. -/
theorem size_constructor :
    ¬Ordered asciiRuntime (js "size") (torrentField "totalWanted" .bytes ["size"])
        (js "5constructor") ∧
      ∀ op : Comparator, ∃ p, meaning asciiRuntime
          ⟨js "size" ++ unit ':' :: (op.symbol ++ js "5constructor"), false⟩ = some p ∧
        p ⟨js "a", fun _ => .number (.finite 5)⟩ = false := by
  have named : NamesConstructor (torrentField "totalWanted" .bytes ["size"])
      (js "5constructor") := .inl ⟨rfl, by decide +kernel⟩
  constructor
  · intro ordered
    exact (ordered_iff longMonths_monotone names_totalWanted rfl).mp ordered named
  · intro op
    have parsed : parseValue asciiRuntime (torrentField "totalWanted" .bytes ["size"])
        (js "5constructor") = some (.number .nan) := (parseValue_number rfl (by decide)).1 named
    obtain ⟨p, means, own⟩ := names_totalWanted.meaning_some rfl parsed op
    refine ⟨p, means, ?_⟩
    rw [own, matchValue_number]
    cases op <;> rfl

end Rsbtd.WebUi
