import Mathlib.Order.WithBot
import Rsbtd.Verified.QuerySemantics
import Rsbtd.WebUi.SortTorrents

/-!
# Rows in the order of a field

Each field compares rows by a value they may lack, in an order that is total: numbers with
infinity above them, texts as the locale has them, the place of the status.  So the comparator
of the list is a total preorder, and the sort does what it should.
-/

namespace Rsbtd.WebUi

open Std (TransCmp OrientedCmp OrientedOrd)
open Sequence

variable {collation : Collation} {f : TorrentFieldDef} {desc : Bool} {a b : ListRow}

/-! ## Numbers -/

theorem compare_congr {α β : Type} [LinearOrder α] [LinearOrder β] {p q : α} {r s : β}
    (less : p < q ↔ r < s) (greater : q < p ↔ s < r) : compare p q = compare r s := by
  obtain lt | rfl | gt := lt_trichotomy p q
  · rw [compare_lt_iff_lt.mpr lt, compare_lt_iff_lt.mpr (less.mp lt)]
  · have same : r = s :=
      le_antisymm (not_lt.mp fun lt => lt_irrefl p (greater.mpr lt))
        (not_lt.mp fun lt => lt_irrefl p (less.mpr lt))
    rw [compare_eq_iff_eq.mpr rfl, compare_eq_iff_eq.mpr same]
  · rw [compare_gt_iff_gt.mpr gt, compare_gt_iff_gt.mpr (greater.mp gt)]

theorem order_finite_minus (p q : ℚ) : (Comparison.finite (p - q)).order = compare p q :=
  compare_congr sub_neg sub_pos

/-- Where a number is in the order. -/
def Number.value : Number → WithTop ℚ
  | .finite q => q
  | _ => ⊤

/-- The difference of infinities is taken as equal, and is so. -/
theorem order_minus {m n : Number} (first : m ≠ .nan) (second : n ≠ .nan) :
    (m.minus n).order = compare m.value n.value := by
  cases m with
  | nan => exact absurd rfl first
  | infinite =>
    cases n with
    | nan => exact absurd rfl second
    | infinite => exact (compare_eq_iff_eq.mpr rfl).symm
    | finite q => exact (compare_gt_iff_gt.mpr (WithTop.coe_lt_top q)).symm
  | finite p =>
    cases n with
    | nan => exact absurd rfl second
    | infinite => exact (compare_lt_iff_lt.mpr (WithTop.coe_lt_top p)).symm
    | finite q =>
      rw [Number.minus, order_finite_minus]
      exact compare_congr WithTop.coe_lt_coe.symm WithTop.coe_lt_coe.symm

theorem order_times (c : Comparison) :
    (c.times desc).order = if desc then c.order.swap else c.order := by
  cases c with
  | finite value =>
    cases desc with
    | false =>
      rw [Comparison.times, if_neg Bool.false_ne_true, one_mul, if_neg Bool.false_ne_true]
    | true =>
      rw [Comparison.times, if_pos rfl, if_pos rfl, Comparison.order, Comparison.order,
        OrientedOrd.eq_swap (a := value)]
      rw [Ordering.swap_swap]
      apply compare_congr
      · rw [neg_one_mul, neg_lt_zero]
      · rw [neg_one_mul, Left.neg_pos_iff]
  | _ => cases desc <;> rfl

theorem numberOf_ne_nan {row : ListRow} {key : JsString} {n : Number}
    (given : numberOf row key = some n) : n ≠ .nan := by
  rintro rfl
  have ratio : torrentRatio row ≠ .nan := by
    rw [torrentRatio]
    split
    · simp
    · split <;> simp
  have mapped : ∀ q : Option ℚ, q.map Number.finite ≠ some .nan := by
    intro q
    cases q <;> simp
  rw [numberOf] at given
  split_ifs at given
  · cases position : row.queuePosition with
    | none =>
      rw [position] at given
      cases given
    | some q =>
      rw [position] at given
      cases given
  · exact mapped _ given
  · exact ratio (Option.some.inj given)
  all_goals first | exact mapped _ given | cases given

/-! ## The comparator -/

def directed {γ : Type} (desc : Bool) (order : γ → γ → Ordering) (x y : γ) : Ordering :=
  if desc then order y x else order x y

instance {γ : Type} {order : γ → γ → Ordering} [TransCmp order] :
    TransCmp (directed desc order) := by
  cases desc with
  | false => exact (inferInstance : TransCmp order)
  | true => exact (inferInstance : TransCmp fun x y => order y x)

theorem order_bits (p q : Bool) (either : (p || q) = true) :
    (Comparison.finite (bitOf p - bitOf q)).order =
      if p then if q then .eq else .gt else .lt := by
  rw [order_finite_minus]
  cases p with
  | true =>
    cases q with
    | true => exact compare_eq_iff_eq.mpr rfl
    | false => exact compare_gt_iff_gt.mpr one_pos
  | false =>
    cases q with
    | true => exact compare_lt_iff_lt.mpr one_pos
    | false => cases either

/-- A field that compares rows by a value they may lack. -/
theorem order_compareRows {γ : Type} {value : ListRow → Option γ} {order : γ → γ → Ordering}
    [TransCmp order] (missing : ∀ row, (f.get row).isMissing = !(value row).isSome)
    (compared : ∀ a b x y, value a = some x → value b = some y →
      (compareByField collation f a b).order = order x y) :
    (fun a b => (compareRows collation f desc a b).order) =
      missingLast value (directed desc order) := by
  funext a b
  rw [compareRows, missing a, missing b, missingLast]
  cases atA : value a with
  | none =>
    have either : (!(none : Option γ).isSome || !(value b).isSome) = true := rfl
    rw [if_pos either, order_bits _ _ either]
    cases value b <;> rfl
  | some x =>
    cases atB : value b with
    | none =>
      have either : (!(some x).isSome || !(none : Option γ).isSome) = true := rfl
      rw [if_pos either, order_bits _ _ either]
      rfl
    | some y =>
      have ordered := compared a b x y atA atB
      rw [if_neg (by simp), order_times, ordered]
      cases desc with
      | false => rfl
      | true => exact (OrientedCmp.eq_swap : order y x = (order x y).swap).symm

theorem isMissing_ofString (text : Option JsString) :
    (Raw.ofString text).isMissing = !text.isSome := by
  cases text <;> rfl

theorem isMissing_ofNumber (n : Option Number) : (Raw.ofNumber n).isMissing = !n.isSome := by
  cases n <;> rfl

/-- Rows are compared by some value in some total order, and lack it when the getter gives none. -/
def OrderedByValue (collation : Collation) (f : TorrentFieldDef) (desc : Bool) : Prop :=
  ∃ (γ : Type) (value : ListRow → Option γ) (order : γ → γ → Ordering), TransCmp order ∧
    (∀ row, (f.get row).isMissing = !(value row).isSome) ∧
    (fun a b => (compareRows collation f desc a b).order) = missingLast value order

theorem OrderedByValue.of_compared {γ : Type} (value : ListRow → Option γ)
    (order : γ → γ → Ordering) [TransCmp order]
    (missing : ∀ row, (f.get row).isMissing = !(value row).isSome)
    (compared : ∀ a b x y, value a = some x → value b = some y →
      (compareByField collation f a b).order = order x y) :
    OrderedByValue collation f desc :=
  ⟨γ, value, directed desc order, inferInstance, missing, order_compareRows missing compared⟩

theorem ordered_status (status : f.key = js "status") : OrderedByValue collation f desc := by
  apply OrderedByValue.of_compared
    (fun row => if (f.get row).isMissing then none else some (uiStatuses.idxOf (uiStatus row) : ℚ))
    compare
  · intro row
    cases (f.get row).isMissing <;> rfl
  · intro a b x y atA atB
    have placeA : (uiStatuses.idxOf (uiStatus a) : ℚ) = x := by
      split at atA
      · cases atA
      · exact Option.some.inj atA
    have placeB : (uiStatuses.idxOf (uiStatus b) : ℚ) = y := by
      split at atB
      · cases atB
      · exact Option.some.inj atB
    rw [compareByField, if_pos status, statusCompare, order_finite_minus, placeA, placeB]

section

variable (other : f.key ≠ js "status")
include other

theorem ordered_string (get : ∀ row, f.get row = .ofString (stringOf row f.key)) :
    OrderedByValue collation f desc := by
  have consistent := collation.consistent
  apply OrderedByValue.of_compared (fun row => stringOf row f.key)
    fun a b => compare (collation.localeCompare a b) 0
  · intro row
    rw [get row, isMissing_ofString]
  · intro a b x y atA atB
    rw [compareByField, if_neg other, get a, get b, atA, atB]
    exact compare_congr (by exact_mod_cast Iff.rfl) (by exact_mod_cast Iff.rfl)

theorem ordered_number (get : ∀ row, f.get row = .ofNumber (numberOf row f.key)) :
    OrderedByValue collation f desc := by
  apply OrderedByValue.of_compared (fun row => (numberOf row f.key).map Number.value) compare
  · intro row
    rw [get row, isMissing_ofNumber, Option.isSome_map]
  · intro a b x y atA atB
    obtain ⟨m, givenA, rfl⟩ := Option.map_eq_some_iff.mp atA
    obtain ⟨n, givenB, rfl⟩ := Option.map_eq_some_iff.mp atB
    rw [compareByField, if_neg other, get a, get b, givenA, givenB]
    exact order_minus (numberOf_ne_nan givenA) (numberOf_ne_nan givenB)

theorem ordered_bool (get : ∀ row, f.get row = .bool (boolOf row f.key)) :
    OrderedByValue collation f desc := by
  apply OrderedByValue.of_compared (fun row => some (bitOf (boolOf row f.key))) compare
  · intro row
    rw [get row]
    rfl
  · intro a b x y atA atB
    obtain rfl := Option.some.inj atA
    obtain rfl := Option.some.inj atB
    rw [compareByField, if_neg other, get a, get b]
    exact order_finite_minus _ _

theorem ordered_strings (get : ∀ row, f.get row = .strings row.flags) :
    OrderedByValue collation f desc := by
  apply OrderedByValue.of_compared (fun row => some (row.flags.length : ℚ)) compare
  · intro row
    rw [get row]
    rfl
  · intro a b x y atA atB
    obtain rfl := Option.some.inj atA
    obtain rfl := Option.some.inj atB
    rw [compareByField, if_neg other, get a, get b]
    exact order_finite_minus _ _

end

theorem orderedByValue (collation : Collation) (f : TorrentFieldDef) (desc : Bool) :
    OrderedByValue collation f desc := by
  by_cases status : f.key = js "status"
  · exact ordered_status status
  · cases type : f.type with
    | string | enum => exact ordered_string status fun row => by rw [TorrentFieldDef.get, type]
    | bool => exact ordered_bool status fun row => by rw [TorrentFieldDef.get, type]
    | flags => exact ordered_strings status fun row => by rw [TorrentFieldDef.get, type]
    | _ => exact ordered_number status fun row => by rw [TorrentFieldDef.get, type]

/-! ## The sorted list -/

theorem transCmp_compareRows (collation : Collation) (f : TorrentFieldDef) (desc : Bool) :
    TransCmp fun a b => (compareRows collation f desc a b).order := by
  obtain ⟨γ, value, order, total, -, same⟩ := orderedByValue collation f desc
  rw [same]
  infer_instance

theorem sortTorrents_sortable {runtime : Runtime} {key : JsString} {rows : List ListRow}
    (named : key ≠ []) (field : lookupTorrentField runtime key = some f)
    (sortable : f.sortable = true) :
    sortTorrents runtime collation rows (some key) desc =
      stableSort (fun a b => (compareRows collation f desc a b).order) rows := by
  rw [sortTorrents, if_neg named, field]
  exact if_pos sortable

/-- Two rows with a value are in the order of the field's comparator, or the other way round. -/
def InOrder (collation : Collation) (f : TorrentFieldDef) (desc : Bool) (a b : ListRow) : Prop :=
  if desc then (compareByField collation f a b).order.isGE = true
  else (compareByField collation f a b).order.isLE = true

theorem inOrder_of_compareRows (presentA : (f.get a).isMissing = false)
    (presentB : (f.get b).isMissing = false)
    (before : (compareRows collation f desc a b).order.isLE = true) :
    InOrder collation f desc a b := by
  rw [compareRows, presentA, presentB, if_neg (by simp), order_times] at before
  rw [InOrder]
  cases desc with
  | false => exact before
  | true =>
    rw [if_pos rfl, Ordering.isLE_swap] at before
    exact before

theorem sortTorrents_sorts (runtime : Runtime) (collation : Collation) (rows : List ListRow)
    (key : JsString) (desc : Bool) (f : TorrentFieldDef) (named : key ≠ [])
    (field : lookupTorrentField runtime key = some f) (sortable : f.sortable = true) :
    ∃ present, sortTorrents runtime collation rows (some key) desc =
        present ++ rows.filter (fun row => (f.get row).isMissing) ∧
      present.Perm (rows.filter fun row => !(f.get row).isMissing) ∧
      present.Pairwise (InOrder collation f desc) ∧
      (sortTorrents runtime collation rows (some key) desc).Perm rows ∧
      (∀ a, ((sortTorrents runtime collation rows (some key) desc).filter fun b =>
          (compareRows collation f desc a b).order == .eq) =
        rows.filter fun b => (compareRows collation f desc a b).order == .eq) ∧
      TransCmp fun a b => (compareRows collation f desc a b).order := by
  obtain ⟨γ, value, order, total, missing, same⟩ := orderedByValue collation f desc
  have consistent := transCmp_compareRows collation f desc
  have present : (fun row => (value row).isSome) = fun row => !(f.get row).isMissing := by
    funext row
    rw [missing row, Bool.not_not]
  have absent : (fun row => !(value row).isSome) = fun row => (f.get row).isMissing := by
    funext row
    rw [missing row]
  rw [sortTorrents_sortable named field sortable]
  have perm := stableSort_perm (fun a b => (compareRows collation f desc a b).order) rows
  have ordered :=
    pairwise_stableSort (fun a b => (compareRows collation f desc a b).order) rows
  have kept := @filter_stableSort _ (fun a b => (compareRows collation f desc a b).order) rows _
  refine ⟨(stableSort (fun a b => (compareRows collation f desc a b).order) rows).filter
    fun row => !(f.get row).isMissing, ?_, perm.filter _, ?_, perm,
    kept, consistent⟩
  · rw [same]
    have split := stableSort_missingLast value order rows
    rw [present, absent] at split
    exact split
  · have filtered := ordered.filter fun row => !(f.get row).isMissing
    apply filtered.imp_of_mem
    intro a b memA memB before
    have hasA := (List.mem_filter.mp memA).2
    have hasB := (List.mem_filter.mp memB).2
    rw [Bool.not_eq_true'] at hasA hasB
    exact inOrder_of_compareRows hasA hasB before

/-- Shorter texts first. -/
def lengthOrder : Collation where
  localeCompare a b := (a.length : ℤ) - b.length
  consistent := by
    have same : (fun a b : JsString => compare ((a.length : ℤ) - b.length) 0) =
        fun a b => compare (a.length : ℤ) b.length := by
      funext a b
      exact compare_congr sub_neg sub_pos
    rw [same]
    exact (inferInstance : TransCmp (compareOn fun a : JsString => (a.length : ℤ)))

/-- A torrent that is seeding. -/
def seedingRow (downloaded uploaded : ℚ) : ListRow where
  error := none
  state := js "SEEDING"
  movingStorage := false
  isPaused := false
  isFinished := true
  queuePosition := none
  currentTracker := none
  allTimeDownload := downloaded
  allTimeUpload := uploaded
  totalWanted := 0
  totalWantedDone := 0
  downloadPayloadRate := 0
  flags := []
  number _ := none
  bool _ := false
  string _ := none

/-- Rows with a ratio of infinity, one and none. -/
theorem sortTorrents_sorts_ratio :
    (sortTorrents asciiRuntime lengthOrder [seedingRow 0 5, seedingRow 2 2, seedingRow 0 0]
      (some (js "ratio")) true).Perm [seedingRow 0 5, seedingRow 2 2, seedingRow 0 0] := by
  obtain ⟨present, -, -, -, perm, -⟩ := sortTorrents_sorts asciiRuntime lengthOrder
    [seedingRow 0 5, seedingRow 2 2, seedingRow 0 0] (js "ratio") true
    (torrentField "ratio" .float []) (by decide) (by decide +kernel) (by decide)
  exact perm

end Rsbtd.WebUi
