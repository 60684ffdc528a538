import Rsbtd.Api.IpFilter

/-!
# What the IP filter decides

A rule of the abstract filter is a range of one family that is not descending,
and the last rule that covers an address decides about it.  `setIpFilter`
accepts a list exactly when each of its rules reads as such a rule, and the
filter then decides as the rules do.  `ipFilter` shows a list of rules that
`setIpFilter` accepts and that builds the same filter.
-/

namespace Rsbtd.IpFilter

open Checks
open Sequence (Range Tiles Reads Minimal lastCover)
open Text (IpAddr)
open Bits (digitsOf ofDigits)

/-! ## The abstract filter -/

/-- The order of the addresses of one family. -/
def Le : IpAddr → IpAddr → Prop
  | .v4 a, .v4 b => a ≤ b
  | .v6 a, .v6 b => a ≤ b
  | _, _ => False

instance : DecidableRel Le := fun a b =>
  match a, b with
  | .v4 a, .v4 b => inferInstanceAs (Decidable (a ≤ b))
  | .v6 a, .v6 b => inferInstanceAs (Decidable (a ≤ b))
  | .v4 _, .v6 _ => inferInstanceAs (Decidable False)
  | .v6 _, .v4 _ => inferInstanceAs (Decidable False)

def SameFamily : IpAddr → IpAddr → Prop
  | .v4 _, .v4 _ => True
  | .v6 _, .v6 _ => True
  | _, _ => False

structure Rule where
  first : IpAddr
  last : IpAddr
  blocked : Bool
  ordered : Le first last

def Rule.Covers (rule : Rule) (addr : IpAddr) : Prop := Le rule.first addr ∧ Le addr rule.last

instance {rule : Rule} {addr : IpAddr} : Decidable (rule.Covers addr) :=
  inferInstanceAs (Decidable (_ ∧ _))

/-- The last rule that covers an address decides about it. -/
def decidesFrom (blocked : Bool) (rules : List Rule) (addr : IpAddr) : Bool :=
  rules.foldl (fun blocked rule => if rule.Covers addr then rule.blocked else blocked) blocked

/-- A fresh filter allows all addresses. -/
def decides (rules : List Rule) (addr : IpAddr) : Bool := decidesFrom false rules addr

def ReadsAs (input : IpFilterRuleInput) (rule : Rule) : Prop :=
  IpAddr.parse input.first = some rule.first ∧ IpAddr.parse input.last = some rule.last ∧
    input.blocked = rule.blocked

/-- Why a rule is refused. -/
inductive Refused (input : IpFilterRuleInput) : EngineError → Prop where
  | first (bad : IpAddr.parse input.first = none) :
      Refused input (.invalid ("cannot parse address ".toList ++ input.first))
  | last {first : IpAddr} (read : IpAddr.parse input.first = some first)
      (bad : IpAddr.parse input.last = none) :
      Refused input (.invalid ("cannot parse address ".toList ++ input.last))
  | family {first last : IpAddr} (read : IpAddr.parse input.first = some first)
      (read' : IpAddr.parse input.last = some last) (apart : ¬ SameFamily first last) :
      Refused input (.binding "IP filter range endpoints must be the same IP version")
  | descending {first last : IpAddr} (read : IpAddr.parse input.first = some first)
      (read' : IpAddr.parse input.last = some last) (same : SameFamily first last)
      (greater : ¬ Le first last) : Refused input (.binding "IP filter range is descending")

/-! ## libtorrent's filter -/

/-- The ranges of one family: all of it, as few as there can be. -/
structure Shows (stop : Nat) (ranges : List (Range Nat)) (access : Nat → Nat) : Prop where
  tiles : Tiles stop 0 ranges
  reads : Reads ranges access
  minimal : Minimal ranges

/-- What is documented of `ip_filter`. -/
structure Lawful (lt : Libtorrent) : Prop where
  access_new : ∀ addr, lt.access lt.new addr = 0
  access_addRule : ∀ filter first last flags addr, Le first last →
    lt.access (lt.addRule filter first last flags) addr =
      if Le first addr ∧ Le addr last then flags else lt.access filter addr
  export_v4 : ∀ filter, Shows (2 ^ 32) (lt.exportFilter filter).1 fun x =>
    lt.access filter (.ofV4 x)
  export_v6 : ∀ filter, Shows (2 ^ 128) (lt.exportFilter filter).2 fun x =>
    lt.access filter (.ofV6 x)

variable {lt : Libtorrent} {filter filter' : lt.Filter} {first last addr : IpAddr} {blocked : Bool}
  {input : IpFilterRuleInput} {inputs : List IpFilterRuleInput} {rule : Rule} {rules : List Rule}
  {e : EngineError}

/-! ### Addresses cross the interface unchanged -/

@[simp] theorem toLtAddress_ip : toLtAddress (ipToCtAddress addr) = addr := by
  cases addr with
  | v4 addr =>
    have value : Bits.ofDigits 256 (Bits.digitsOf 256 4 addr) = addr :=
      Bits.ofDigits_digitsOf addr.isLt
    simp [toLtAddress, IpAddr.ofV4, ipToCtAddress, value]
  | v6 addr =>
    have value : Bits.ofDigits 256 (Bits.digitsOf 256 16 addr) = addr :=
      Bits.ofDigits_digitsOf addr.isLt
    simp [toLtAddress, IpAddr.ofV6, ipToCtAddress, value]

@[simp] theorem ctAddressToIp_lt : ctAddressToIp (fromLtAddress addr) = addr := by
  cases addr with
  | v4 addr =>
    have value : Bits.ofDigits 256 (Bits.digitsOf 256 4 addr) = addr :=
      Bits.ofDigits_digitsOf addr.isLt
    simp [ctAddressToIp, IpAddr.ofV4, fromLtAddress, value]
  | v6 addr =>
    have value : Bits.ofDigits 256 (Bits.digitsOf 256 16 addr) = addr :=
      Bits.ofDigits_digitsOf addr.isLt
    simp [ctAddressToIp, IpAddr.ofV6, fromLtAddress, value]

/-! ### One rule -/

def isBlocked (flags : Nat) : Bool := flags &&& CT_IP_FILTER_BLOCKED != 0

theorem access_eq : access lt filter addr = isBlocked (lt.access filter addr) := by
  rw [access, ctIpFilterAccess, toLtAddress_ip, isBlocked]

def flagsOf (blocked : Bool) : Nat := if blocked then CT_IP_FILTER_BLOCKED else 0

@[simp] theorem isBlocked_flagsOf : isBlocked (flagsOf blocked) = blocked := by
  cases blocked <;> decide

theorem addRule_of_le (ordered : Le first last) : addRule lt filter first last blocked =
    .ok (lt.addRule filter first last (flagsOf blocked)) := by
  -- The two families have a check each.
  match first, last, ordered with
  | .v4 a, .v4 b, ordered =>
    have within : a ≤ b := ordered
    simp [addRule, require, within, bind, Except.bind, ctIpFilterAddRule, pure, Except.pure,
      flagsOf]
  | .v6 a, .v6 b, ordered =>
    have within : a ≤ b := ordered
    simp [addRule, require, within, bind, Except.bind, ctIpFilterAddRule, pure, Except.pure,
      flagsOf]

theorem addRule_error_iff : addRule lt filter first last blocked = .error e ↔
    (¬ SameFamily first last ∧
        .binding "IP filter range endpoints must be the same IP version" = e) ∨
      (SameFamily first last ∧ ¬ Le first last ∧
        .binding "IP filter range is descending" = e) := by
  cases first <;> cases last <;>
    simp [addRule, Le, SameFamily, bind_eq_error, require_eq_error, pure, Except.pure]

theorem addRule_eq_ok (added : addRule lt filter first last blocked = .ok filter') :
    Le first last ∧ filter' = lt.addRule filter first last (flagsOf blocked) := by
  by_cases ordered : Le first last
  · rw [addRule_of_le ordered] at added
    exact ⟨ordered, (Except.ok.inj added).symm⟩
  · exfalso
    by_cases same : SameFamily first last
    · have refused : addRule lt filter first last blocked = .error _ :=
        addRule_error_iff.mpr (.inr ⟨same, ordered, rfl⟩)
      cases refused.symm.trans added
    · have refused : addRule lt filter first last blocked = .error _ :=
        addRule_error_iff.mpr (.inl ⟨same, rfl⟩)
      cases refused.symm.trans added

theorem parseAddress_eq_ok {text : Text} :
    parseAddress text = .ok addr ↔ IpAddr.parse text = some addr := by
  unfold parseAddress
  cases IpAddr.parse text <;> simp

theorem parseAddress_eq_error {text : Text} : parseAddress text = .error e ↔
    IpAddr.parse text = none ∧ .invalid ("cannot parse address ".toList ++ text) = e := by
  unfold parseAddress
  cases IpAddr.parse text <;> simp

theorem applyRule_readsAs (reads : ReadsAs input rule) : applyRule lt filter input =
    .ok (lt.addRule filter rule.first rule.last (flagsOf rule.blocked)) := by
  obtain ⟨first, last, blocked⟩ := reads
  simp only [applyRule, parseAddress, first, last, blocked, bind, Except.bind]
  exact addRule_of_le rule.ordered

theorem readsAs_of_applyRule (applied : applyRule lt filter input = .ok filter') :
    ∃ rule, ReadsAs input rule := by
  simp only [applyRule, bind_eq_ok, parseAddress_eq_ok] at applied
  obtain ⟨first, read, last, read', added⟩ := applied
  exact ⟨⟨first, last, input.blocked, (addRule_eq_ok added).1⟩, read, read', rfl⟩

theorem applyRule_error_iff : applyRule lt filter input = .error e ↔ Refused input e := by
  simp only [applyRule, bind_eq_error, parseAddress_eq_ok, parseAddress_eq_error,
    addRule_error_iff]
  constructor
  · intro refused
    match refused with
    | .inl ⟨bad, same⟩ => exact same ▸ .first bad
    | .inr ⟨first, read, .inl ⟨bad, same⟩⟩ => exact same ▸ .last read bad
    | .inr ⟨first, read, .inr ⟨last, read', .inl ⟨apart, same⟩⟩⟩ =>
      exact same ▸ .family read read' apart
    | .inr ⟨first, read, .inr ⟨last, read', .inr ⟨family, greater, same⟩⟩⟩ =>
      exact same ▸ .descending read read' family greater
  · intro refused
    cases refused with
    | first bad => exact .inl ⟨bad, rfl⟩
    | @last first read bad => exact .inr ⟨first, read, .inl ⟨bad, rfl⟩⟩
    | @family first last read read' apart =>
      exact .inr ⟨first, read, .inr ⟨last, read', .inl ⟨apart, rfl⟩⟩⟩
    | @descending first last read read' same greater =>
      exact .inr ⟨first, read, .inr ⟨last, read', .inr ⟨same, greater, rfl⟩⟩⟩

/-! ### All rules -/

theorem access_addRule (lawful : Lawful lt) : access lt
    (lt.addRule filter rule.first rule.last (flagsOf rule.blocked)) addr =
      if rule.Covers addr then rule.blocked else access lt filter addr := by
  rw [access_eq, access_eq, lawful.access_addRule _ _ _ _ _ rule.ordered]
  change isBlocked (if rule.Covers addr then _ else _) = _
  split
  · exact isBlocked_flagsOf
  · rfl

/-- The loop over rules that read as rules of the abstract filter. -/
theorem foldlM_readsAs (lawful : Lawful lt) (reads : List.Forall₂ ReadsAs inputs rules)
    (filter : lt.Filter) :
    ∃ filter', inputs.foldlM (applyRule lt) filter = .ok filter' ∧
      ∀ addr, access lt filter' addr = decidesFrom (access lt filter addr) rules addr := by
  induction reads generalizing filter with
  | nil => exact ⟨filter, rfl, fun _ => rfl⟩
  | @cons input rule inputs rules here _ ih =>
    obtain ⟨filter', built, agrees⟩ :=
      ih (lt.addRule filter rule.first rule.last (flagsOf rule.blocked))
    refine ⟨filter', ?_, fun addr => ?_⟩
    · rw [List.foldlM_cons, applyRule_readsAs here]
      exact built
    · rw [agrees addr, access_addRule lawful]
      rfl

theorem readsAs_of_foldlM (built : inputs.foldlM (applyRule lt) filter = .ok filter') :
    ∃ rules, List.Forall₂ ReadsAs inputs rules := by
  induction inputs generalizing filter with
  | nil => exact ⟨[], .nil⟩
  | cons input inputs ih =>
    obtain ⟨next, applied, rest⟩ := foldlM_cons_eq_ok.mp built
    obtain ⟨rule, reads⟩ := readsAs_of_applyRule applied
    obtain ⟨rules, others⟩ := ih rest
    exact ⟨rule :: rules, .cons reads others⟩

/-- The first rule that does not read as one gives the error. -/
theorem foldlM_error_iff : inputs.foldlM (applyRule lt) filter = .error e ↔
    ∃ front input back, inputs = front ++ input :: back ∧
      (∀ other ∈ front, ∃ rule, ReadsAs other rule) ∧ Refused input e := by
  induction inputs generalizing filter with
  | nil =>
    constructor
    · intro failed
      cases failed
    · intro ⟨front, input, back, same, _⟩
      simp at same
  | cons first inputs ih =>
    rw [List.foldlM_cons, bind_eq_error]
    constructor
    · intro failed
      match failed with
      | .inl here =>
        exact ⟨[], first, inputs, rfl, by simp, applyRule_error_iff.mp here⟩
      | .inr ⟨next, applied, later⟩ =>
        obtain ⟨front, input, back, same, good, refused⟩ := ih.mp later
        refine ⟨first :: front, input, back, by rw [same]; rfl, ?_, refused⟩
        intro other listed
        cases List.mem_cons.mp listed with
        | inl head => exact head ▸ readsAs_of_applyRule applied
        | inr tail => exact good other tail
    · intro ⟨front, input, back, same, good, refused⟩
      cases front with
      | nil =>
        obtain ⟨rfl, _⟩ := List.cons.inj same
        exact .inl (applyRule_error_iff.mpr refused)
      | cons head front =>
        obtain ⟨rfl, rest⟩ := List.cons.inj same
        obtain ⟨rule, reads⟩ := good first List.mem_cons_self
        refine .inr ⟨_, applyRule_readsAs reads, ih.mpr ⟨front, input, back, rest, ?_, refused⟩⟩
        exact fun other listed => good other (List.mem_cons_of_mem _ listed)

theorem access_fresh (lawful : Lawful lt) : access lt lt.new addr = false := by
  rw [access_eq, lawful.access_new]
  rfl

/-- `setIpFilter` accepts a list when each of its rules reads as a range of one family that is not
descending; the filter then decides about every address as the last rule that covers it.  It
refuses any other list with the error of its first bad rule. -/
theorem set_ip_filter_decides (lawful : Lawful lt) (inputs : List IpFilterRuleInput) :
    (∀ rules, List.Forall₂ ReadsAs inputs rules → ∃ filter, setIpFilter lt inputs = .ok filter ∧
      ∀ addr, access lt filter addr = decides rules addr) ∧
    ((∃ filter, setIpFilter lt inputs = .ok filter) →
      ∃ rules, List.Forall₂ ReadsAs inputs rules) ∧
    ∀ e, setIpFilter lt inputs = .error e ↔ ∃ front input back,
      inputs = front ++ input :: back ∧ (∀ other ∈ front, ∃ rule, ReadsAs other rule) ∧
        Refused input e := by
  refine ⟨fun rules reads => ?_, ?_, fun e => foldlM_error_iff⟩
  · obtain ⟨filter, built, agrees⟩ := foldlM_readsAs lawful reads lt.new
    refine ⟨filter, built, fun addr => ?_⟩
    rw [agrees addr, access_fresh lawful]
    rfl
  · intro ⟨filter, built⟩
    exact readsAs_of_foldlM built

/-! ## The list that is shown -/

/-- One range of a family as the query shows it. -/
def shown (of : Nat → IpAddr) (r : Range Nat) : IpFilterRule :=
  ⟨(of r.first).text, (of r.last).text, isBlocked r.value⟩

theorem ipFilter_eq : ipFilter lt filter =
    (lt.exportFilter filter).1.map (shown .ofV4) ++
      (lt.exportFilter filter).2.map (shown .ofV6) := by
  simp only [ipFilter, exportRanges, ctIpFilterExport, List.map_append, List.map_map]
  refine congrArg₂ (· ++ ·) (List.map_congr_left fun r _ => ?_) (List.map_congr_left fun r _ => ?_)
  · simp only [Function.comp_apply, ctIpRange, ctAddressToIp_lt, shown, isBlocked]
  · simp only [Function.comp_apply, ctIpRange, ctAddressToIp_lt, shown, isBlocked]

variable {of : Nat → IpAddr} {stop lo x y : Nat} {ranges : List (Range Nat)}

theorem le_v4 (below : x < 2 ^ 32) (below' : y < 2 ^ 32) : Le (.ofV4 x) (.ofV4 y) ↔ x ≤ y := by
  show Fin.ofNat (2 ^ 32) x ≤ Fin.ofNat (2 ^ 32) y ↔ _
  rw [Fin.le_def, Fin.val_ofNat, Fin.val_ofNat, Nat.mod_eq_of_lt below, Nat.mod_eq_of_lt below']

theorem le_v6 (below : x < 2 ^ 128) (below' : y < 2 ^ 128) : Le (.ofV6 x) (.ofV6 y) ↔ x ≤ y := by
  show Fin.ofNat (2 ^ 128) x ≤ Fin.ofNat (2 ^ 128) y ↔ _
  rw [Fin.le_def, Fin.val_ofNat, Fin.val_ofNat, Nat.mod_eq_of_lt below, Nat.mod_eq_of_lt below']

/-- Ranges of one family read as rules that decide as the ranges say, and say nothing about the
other family. -/
theorem rules_of_tiles (ordered : ∀ {x y}, x < stop → y < stop → (Le (of x) (of y) ↔ x ≤ y))
    (tiles : Tiles stop lo ranges) :
    ∃ rules, List.Forall₂ ReadsAs (ranges.map fun r => (shown of r).input) rules ∧
      (∀ x, x < stop → ∀ flags,
        decidesFrom (isBlocked flags) rules (of x) = isBlocked (lastCover ranges flags x)) ∧
      ∀ addr blocked, (∀ x, ¬ Le (of x) addr) → decidesFrom blocked rules addr = blocked := by
  induction tiles with
  | nil => exact ⟨[], .nil, fun _ _ _ => rfl, fun _ _ _ => rfl⟩
  | @cons lo r ranges starts from_ rest ih =>
    obtain ⟨rules, reads, decided, apart⟩ := ih
    have below := rest.le
    have first : r.first < stop := by omega
    have last : r.last < stop := by omega
    -- The range itself is the first rule, and those after it do not reach back.
    let rule : Rule :=
      ⟨of r.first, of r.last, isBlocked r.value, (ordered first last).mpr (by omega)⟩
    refine ⟨rule :: rules, .cons ⟨Text.parse_text _, Text.parse_text _, rfl⟩ reads, ?_, ?_⟩
    · intro x inside flags
      have covers : rule.Covers (of x) ↔ r.Covers x :=
        and_congr (ordered first inside) (ordered inside last)
      show decidesFrom (if rule.Covers (of x) then isBlocked r.value else _) rules (of x) = _
      rw [Sequence.lastCover_cons, ← decided x inside]
      by_cases here : r.Covers x
      · rw [if_pos here, if_pos (covers.mpr here)]
      · rw [if_neg here, if_neg fun there => here (covers.mp there)]
    · intro addr blocked other
      have outside : ¬ rule.Covers addr := fun there => other r.first there.1
      show decidesFrom (if rule.Covers addr then isBlocked r.value else blocked) rules addr = _
      rw [if_neg outside]
      exact apart addr blocked other

/-- What is shown reads as rules that decide as the filter does. -/
theorem shown_decides (lawful : Lawful lt) (filter : lt.Filter) :
    ∃ rules, List.Forall₂ ReadsAs ((ipFilter lt filter).map IpFilterRule.input) rules ∧
      ∀ addr, decides rules addr = access lt filter addr := by
  obtain ⟨rules₄, reads₄, decided₄, apart₄⟩ := rules_of_tiles le_v4 (lawful.export_v4 filter).tiles
  obtain ⟨rules₆, reads₆, decided₆, apart₆⟩ := rules_of_tiles le_v6 (lawful.export_v6 filter).tiles
  refine ⟨rules₄ ++ rules₆, ?_, fun addr => ?_⟩
  · rw [ipFilter_eq, List.map_append, List.map_map, List.map_map]
    exact List.rel_append reads₄ reads₆
  · have both : decides (rules₄ ++ rules₆) addr =
        decidesFrom (decidesFrom (isBlocked 0) rules₄ addr) rules₆ addr := List.foldl_append ..
    rw [both, access_eq]
    -- The rules of the other family leave the decision as it is.
    cases addr with
    | v4 a =>
      have same : IpAddr.v4 a = .ofV4 a.val := by simp [IpAddr.ofV4]
      have shows := lawful.export_v4 filter
      rw [same, apart₆ (.ofV4 a) _ fun x there => there, decided₄ a a.isLt,
        shows.tiles.lastCover_reads shows.reads (Nat.zero_le _) a.isLt]
    | v6 a =>
      have same : IpAddr.v6 a = .ofV6 a.val := by simp [IpAddr.ofV6]
      have shows := lawful.export_v6 filter
      rw [same, apart₄ (.ofV6 a) _ fun x there => there, decided₆ a a.isLt,
        shows.tiles.lastCover_reads shows.reads (Nat.zero_le _) a.isLt]

/-! ### The same list again -/

/-- The only flags that `setIpFilter` writes. -/
def Plain (lt : Libtorrent) (filter : lt.Filter) : Prop :=
  ∀ addr, lt.access filter addr = flagsOf (access lt filter addr)

theorem Plain.foldlM (lawful : Lawful lt) (plain : Plain lt filter)
    (built : inputs.foldlM (applyRule lt) filter = .ok filter') : Plain lt filter' := by
  induction inputs generalizing filter with
  | nil => exact Except.ok.inj built ▸ plain
  | cons input inputs ih =>
    obtain ⟨next, applied, rest⟩ := foldlM_cons_eq_ok.mp built
    obtain ⟨rule, reads⟩ := readsAs_of_applyRule applied
    rw [applyRule_readsAs reads] at applied
    refine ih ?_ rest
    intro addr
    rw [← Except.ok.inj applied, access_addRule lawful,
      lawful.access_addRule _ _ _ _ _ rule.ordered]
    show (if rule.Covers addr then _ else _) = _
    split
    · rfl
    · exact plain addr

theorem plain_of_set (lawful : Lawful lt) (built : setIpFilter lt inputs = .ok filter) :
    Plain lt filter := by
  refine Plain.foldlM lawful (fun addr => ?_) built
  rw [access_fresh lawful, lawful.access_new]
  rfl

theorem Shows.unique {access : Nat → Nat} {ranges' : List (Range Nat)}
    (left : Shows stop ranges access) (right : Shows stop ranges' access) : ranges = ranges' :=
  left.tiles.unique right.tiles left.minimal right.minimal left.reads right.reads

theorem exportFilter_congr (lawful : Lawful lt)
    (same : ∀ addr, lt.access filter addr = lt.access filter' addr) :
    lt.exportFilter filter = lt.exportFilter filter' := by
  refine Prod.ext ?_ ?_
  · refine (lawful.export_v4 filter).unique ?_
    simpa only [same] using lawful.export_v4 filter'
  · refine (lawful.export_v6 filter).unique ?_
    simpa only [same] using lawful.export_v6 filter'

/-- The list that `ipFilter` shows is accepted by `setIpFilter` for every filter the session can
have, and the filter it builds decides about every address as before.  When the filter was set
through `setIpFilter`, the new one shows the same list. -/
theorem ip_filter_round_trip (lawful : Lawful lt) :
    (∀ filter, ∃ again,
      setIpFilter lt ((ipFilter lt filter).map IpFilterRule.input) = .ok again ∧
        ∀ addr, access lt again addr = access lt filter addr) ∧
    ∀ inputs filter again, setIpFilter lt inputs = .ok filter →
      setIpFilter lt ((ipFilter lt filter).map IpFilterRule.input) = .ok again →
        ipFilter lt again = ipFilter lt filter := by
  have rebuilt : ∀ filter, ∃ again,
      setIpFilter lt ((ipFilter lt filter).map IpFilterRule.input) = .ok again ∧
        ∀ addr, access lt again addr = access lt filter addr := by
    intro filter
    obtain ⟨rules, reads, decided⟩ := shown_decides lawful filter
    obtain ⟨again, built, agrees⟩ := (set_ip_filter_decides lawful _).1 rules reads
    exact ⟨again, built, fun addr => (agrees addr).trans (decided addr)⟩
  refine ⟨rebuilt, fun inputs filter again built rebuilt' => ?_⟩
  obtain ⟨other, same, agrees⟩ := rebuilt filter
  obtain rfl : other = again := Except.ok.inj (same.symm.trans rebuilt')
  -- Filters with the same flags everywhere are exported as the same ranges.
  rw [ipFilter_eq, ipFilter_eq, exportFilter_congr lawful fun addr => ?_]
  rw [plain_of_set lawful rebuilt' addr, plain_of_set lawful built addr, agrees addr]

/-! ## A filter kept as ranges -/

structure RangeFilter (stop : Nat) where
  ranges : List (Range Nat)
  tiles : Tiles stop 0 ranges
  minimal : Minimal ranges

namespace RangeFilter

def all (positive : 0 < stop) : RangeFilter stop where
  ranges := [⟨0, stop - 1, 0⟩]
  tiles := .cons rfl (Nat.zero_le _) (by rw [Nat.sub_add_cancel positive]; exact .nil)
  minimal := .singleton _

def add (f : RangeFilter stop) (first last flags : Nat) : RangeFilter stop :=
  if inside : first ≤ last ∧ last < stop then
    { ranges := Sequence.merge (Sequence.assign ⟨first, last, flags⟩ f.ranges)
      tiles := (f.tiles.assign (Nat.zero_le _) inside.1 inside.2).merge
      minimal := Sequence.minimal_merge }
  else f

def access (f : RangeFilter stop) (x : Nat) : Nat := lastCover f.ranges 0 x

variable {f : RangeFilter stop} {flags a b : Nat}

theorem access_add (ordered : a ≤ b) (inside : b < stop) (below : x < stop) :
    (f.add a b flags).access x = if a ≤ x ∧ x ≤ b then flags else f.access x := by
  have written : Sequence.Tiles stop 0 (Sequence.assign ⟨a, b, flags⟩ f.ranges) :=
    f.tiles.assign (Nat.zero_le _) ordered inside
  have reads : Sequence.Reads (Sequence.assign ⟨a, b, flags⟩ f.ranges) _ :=
    (f.tiles.reads_lastCover (v := 0)).assign
  rw [add, dif_pos ⟨ordered, inside⟩]
  exact written.merge.lastCover_reads (reads.merge written) (Nat.zero_le _) below

theorem shows : Shows stop f.ranges f.access := ⟨f.tiles, f.tiles.reads_lastCover, f.minimal⟩

end RangeFilter

/-- `ip_filter` with a list of ranges for each family. -/
def ranged : Libtorrent where
  Filter := RangeFilter (2 ^ 32) × RangeFilter (2 ^ 128)
  new := (.all (by decide), .all (by decide))
  addRule f first last flags :=
    match first, last with
    | .v4 a, .v4 b => (f.1.add a b flags, f.2)
    | .v6 a, .v6 b => (f.1, f.2.add a b flags)
    | _, _ => f
  access f addr :=
    match addr with
    | .v4 a => f.1.access a
    | .v6 a => f.2.access a
  exportFilter f := (f.1.ranges, f.2.ranges)

theorem ranged_lawful : Lawful ranged where
  access_new addr := by
    cases addr <;>
      · show lastCover [⟨0, _, 0⟩] 0 _ = 0
        simp [Sequence.lastCover_cons]
  access_addRule f first last flags addr ordered :=
    match first, last, addr, ordered with
    | .v4 a, .v4 b, .v4 x, ordered => RangeFilter.access_add ordered b.isLt x.isLt
    | .v6 a, .v6 b, .v6 x, ordered => RangeFilter.access_add ordered b.isLt x.isLt
    | .v4 a, .v4 b, .v6 x, _ => (if_neg fun covers => covers.1).symm
    | .v6 a, .v6 b, .v4 x, _ => (if_neg fun covers => covers.1).symm
  export_v4 f := by
    have shows := f.1.shows
    refine ⟨shows.tiles, fun r listed x covers => ?_, shows.minimal⟩
    have below : x < 2 ^ 32 := by
      have := shows.tiles.bounds listed
      have := covers.2
      omega
    show f.1.access (Fin.ofNat (2 ^ 32) x).val = _
    rw [Fin.val_ofNat, Nat.mod_eq_of_lt below]
    exact shows.reads r listed x covers
  export_v6 f := by
    have shows := f.2.shows
    refine ⟨shows.tiles, fun r listed x covers => ?_, shows.minimal⟩
    have below : x < 2 ^ 128 := by
      have := shows.tiles.bounds listed
      have := covers.2
      omega
    show f.2.access (Fin.ofNat (2 ^ 128) x).val = _
    rw [Fin.val_ofNat, Nat.mod_eq_of_lt below]
    exact shows.reads r listed x covers

/-- A network is blocked but for one of its addresses. -/
def sampleRules : List IpFilterRuleInput :=
  [⟨"10.0.0.0".toList, "10.255.255.255".toList, true⟩,
    ⟨"10.0.0.5".toList, "10.0.0.5".toList, false⟩,
    ⟨"2001:db8::".toList, "2001:db8::ffff".toList, true⟩]

theorem sampleRules_readsAs : ∃ rules, List.Forall₂ ReadsAs sampleRules rules ∧
    decides rules (.v4 0x0a000005) = false ∧ decides rules (.v4 0x0a000006) = true := by
  refine ⟨[⟨.v4 0x0a000000, .v4 0x0affffff, true, by decide⟩,
    ⟨.v4 0x0a000005, .v4 0x0a000005, false, by decide⟩,
    ⟨.v6 0x20010db8000000000000000000000000, .v6 0x20010db800000000000000000000ffff, true,
      by decide +kernel⟩], .cons ?_ (.cons ?_ (.cons ?_ .nil)), by decide +kernel,
    by decide +kernel⟩
  · exact ⟨by decide +kernel, by decide +kernel, rfl⟩
  · exact ⟨by decide +kernel, by decide +kernel, rfl⟩
  · exact ⟨by decide +kernel, by decide +kernel, rfl⟩

theorem set_ip_filter_decides_sample : ∃ filter, setIpFilter ranged sampleRules = .ok filter ∧
    access ranged filter (.v4 0x0a000005) = false ∧
      access ranged filter (.v4 0x0a000006) = true := by
  obtain ⟨rules, reads, allowed, blocked⟩ := sampleRules_readsAs
  obtain ⟨filter, built, agrees⟩ :=
    (set_ip_filter_decides ranged_lawful sampleRules).1 rules reads
  exact ⟨filter, built, (agrees _).trans allowed, (agrees _).trans blocked⟩

theorem ip_filter_round_trip_sample : ∃ filter again, setIpFilter ranged sampleRules = .ok filter ∧
    setIpFilter ranged ((ipFilter ranged filter).map IpFilterRule.input) = .ok again ∧
      ipFilter ranged again = ipFilter ranged filter := by
  obtain ⟨rules, reads, _⟩ := sampleRules_readsAs
  obtain ⟨filter, built, _⟩ := foldlM_readsAs ranged_lawful reads ranged.new
  obtain ⟨again, rebuilt, _⟩ := (ip_filter_round_trip ranged_lawful).1 filter
  exact ⟨filter, again, built, rebuilt,
    (ip_filter_round_trip ranged_lawful).2 sampleRules filter again built rebuilt⟩

end Rsbtd.IpFilter
