import Mathlib.Algebra.Group.Nat.Even
import Rsbtd.WebUi.Query

/-!
# Rendering and tokenizing search terms

Quoted terms that are joined by white space are split into the same terms again.  A text
whose quotes are paired is split apart from what follows the next white space.
-/

namespace Rsbtd.WebUi

open JsString

/-! ## Code points -/

theorem JsString.isSpace_surrogate {u : CodeUnit} (low : 0xd800 ≤ u.toNat) (high : u.toNat ≤ 0xdfff) :
    isSpace u = false := by
  simp [isSpace, UInt16.le_iff_toNat_le, ← UInt16.toNat_inj]
  omega

namespace Scan

variable {s : Scan} {u w : CodeUnit} {text : JsString}

theorem step_quote : s.step [unit '"'] = { s with inQuote := !s.inQuote, started := true } := rfl

/-- A code point without quotes, minus signs and white space. -/
theorem step_plain {ch : JsString} (quote : ch ≠ js "\"") (space : ch.any isSpace = false)
    (minus : ch ≠ js "-") : s.step ch = { s with started := true, current := s.current ++ ch } := by
  simp [step, quote, space, minus]

/-- A surrogate pair is appended as its halves are. -/
theorem step_pair {v : CodeUnit} (pair : (isHighSurrogate u && isLowSurrogate v) = true) :
    s.step [u, v] = (s.step [u]).step [v] := by
  obtain ⟨high, low⟩ := Bool.and_eq_true_iff.mp pair
  simp only [isHighSurrogate, isLowSurrogate, Bool.and_eq_true, decide_eq_true_eq,
    UInt16.le_iff_toNat_le, UInt16.toNat_ofNat] at high low
  have first : isSpace u = false := isSpace_surrogate (by omega) (by omega)
  have second : isSpace v = false := isSpace_surrogate (by omega) (by omega)
  have other : ∀ (x : CodeUnit) (c : Char), 0xd800 ≤ x.toNat → (unit c).toNat < 0xd800 →
      [x] ≠ [unit c] := by
    intro x c large small same
    rw [(List.cons.inj same).1] at large
    omega
  rw [step_plain (by simp [js]) (by simp [first, second]) (by simp [js])]
  rw [step_plain (other u '"' (by omega) (by decide)) (by simp [first])
    (other u '-' (by omega) (by decide))]
  rw [step_plain (other v '"' (by omega) (by decide)) (by simp [second])
    (other v '-' (by omega) (by decide))]
  simp

/-- The loop over code units. -/
def scan (s : Scan) (input : JsString) : Scan := input.foldl (fun s u => s.step [u]) s

@[simp] theorem scan_nil (s : Scan) : s.scan [] = s := rfl

@[simp] theorem scan_cons (s : Scan) (u : CodeUnit) (input : JsString) :
    s.scan (u :: input) = (s.step [u]).scan input := rfl

theorem scan_append (s : Scan) (first second : JsString) :
    s.scan (first ++ second) = (s.scan first).scan second := List.foldl_append

/-- The loop may as well go over the code units. -/
theorem foldl_codePoints (input : JsString) (s : Scan) :
    input.codePoints.foldl step s = s.scan input := by
  fun_induction codePoints input generalizing s with
  | case1 => rfl
  | case2 u => rfl
  | case3 u v rest pair ih => rw [List.foldl_cons, scan_cons, scan_cons, step_pair pair, ih]
  | case4 u v rest alone ih => rw [List.foldl_cons, scan_cons, ih]

/-! ## Quotes -/

theorem step_inQuote (s : Scan) (u : CodeUnit) :
    (s.step [u]).inQuote = (s.inQuote ^^ decide (u = unit '"')) := by
  by_cases quote : u = unit '"'
  · subst quote
    simp [step_quote]
  · have other : [u] ≠ js "\"" := fun same => quote (List.cons.inj same).1
    unfold step
    rw [if_neg other]
    simp only [quote, decide_false, Bool.xor_false]
    split
    · rfl
    · split <;> rfl

/-- Inside a quote are the texts with an odd number of quotes. -/
theorem scan_inQuote (input : JsString) (s : Scan) :
    (s.scan input).inQuote =
      (s.inQuote ^^ decide (input.count (unit '"') % 2 = 1)) := by
  induction input generalizing s with
  | nil => simp
  | cons u input ih =>
    rw [scan_cons, ih, step_inQuote, List.count_cons]
    by_cases quote : u = unit '"'
    · subst quote
      rcases Nat.mod_two_eq_zero_or_one (input.count (unit '"')) with even | odd
      · have next : (input.count (unit '"') + 1) % 2 = 1 := by omega
        simp [even, next]
      · have next : (input.count (unit '"') + 1) % 2 = 0 := by omega
        simp [odd, next]
    · simp [quote]

/-! ## Tokens -/

/-- The same loop after other tokens. -/
def after (tokens : List RawToken) (s : Scan) : Scan := { s with tokens := tokens ++ s.tokens }

theorem after_push (tokens : List RawToken) (s : Scan) :
    (s.after tokens).push = s.push.after tokens := by
  unfold push after
  split
  · simp
  · rfl

theorem after_step (tokens : List RawToken) (s : Scan) (ch : JsString) :
    (s.after tokens).step ch = (s.step ch).after tokens := by
  have inQuote : (s.after tokens).inQuote = s.inQuote := rfl
  have started : (s.after tokens).started = s.started := rfl
  have current : (s.after tokens).current = s.current := rfl
  simp only [step, inQuote, started, current]
  split
  · rfl
  · split
    · exact after_push tokens s
    · split <;> rfl

theorem after_scan (tokens : List RawToken) (input : JsString) (s : Scan) :
    (s.after tokens).scan input = (s.scan input).after tokens := by
  induction input generalizing s with
  | nil => rfl
  | cons u input ih => rw [scan_cons, scan_cons, after_step, ih]

/-- White space outside of quotes ends the token and starts afresh. -/
theorem step_space (outside : s.inQuote = false) (space : isSpace w = true) :
    s.step [w] = init.after s.push.tokens := by
  have other : [w] ≠ js "\"" := by
    intro same
    rw [(List.cons.inj same).1] at space
    cases space
  unfold step
  rw [if_neg other, if_pos ⟨outside, by simp [space]⟩]
  simp [push, after, init, outside]

theorem scan_quoted (s : Scan) (quoted : s.inQuote = true) (started : s.started = true)
    (unquoted : unit '"' ∉ text) : s.scan text = { s with current := s.current ++ text } := by
  induction text generalizing s with
  | nil => simp
  | cons u text ih =>
    obtain ⟨first, rest⟩ := not_or.mp (List.mem_cons.not.mp unquoted)
    have other : [u] ≠ js "\"" := fun same => first (List.cons.inj same).1.symm
    have appended : s.step [u] = { s with current := s.current ++ [u] } := by
      simp [step, other, quoted, started]
    rw [scan_cons, appended,
      ih { s with current := s.current ++ [u] } quoted started rest]
    simp

end Scan

open Scan

theorem tokenize_scan (input : JsString) : tokenize input =
    ⟨(Scan.init.scan input).push.tokens,
      (Scan.init.scan input).inQuote⟩ := by
  rw [tokenize, foldl_codePoints]

/-- The quotes of a text are paired. -/
def Paired (a : JsString) : Prop := Even (a.count (unit '"'))

/-- The loop is outside of quotes after paired ones. -/
theorem scan_init_inQuote {a : JsString} : (Scan.init.scan a).inQuote = true ↔ ¬Paired a := by
  rw [scan_inQuote, Paired, Nat.not_even_iff]
  simp [Scan.init]

theorem tokenize_append {a : JsString} (paired : Paired a) {w : CodeUnit} (space : isSpace w = true)
    (b : JsString) : tokenize (a ++ w :: b) =
      ⟨(tokenize a).tokens ++ (tokenize b).tokens, (tokenize b).unterminated⟩ := by
  have outside : (Scan.init.scan a).inQuote = false :=
    Bool.eq_false_iff.mpr fun inside => scan_init_inQuote.mp inside paired
  simp only [tokenize_scan, scan_append, scan_cons]
  rw [step_space outside space, after_scan, after_push]
  rfl

/-- White space before a text is skipped. -/
theorem tokenize_spaces {gap : JsString} (spaces : gap.all isSpace = true) (b : JsString) :
    tokenize (gap ++ b) = tokenize b := by
  induction gap with
  | nil => rfl
  | cons w gap ih =>
    rw [List.all_cons, Bool.and_eq_true] at spaces
    rw [List.cons_append, ← ih spaces.2]
    exact tokenize_append (a := []) (by simp [Paired]) spaces.1 _

/-! ## Terms in place -/

/-- A text before a term: none, or one that ends with white space outside of quotes. -/
def EndsBefore (before : JsString) : Prop :=
  Paired before ∧ (before = [] ∨ ∃ a w, before = a ++ [w] ∧ isSpace w = true)

/-- What follows a term: nothing, or white space outside of quotes. -/
def StartsAfter (term after : JsString) : Prop :=
  after = [] ∨ Paired term ∧ ∃ w b, after = w :: b ∧ isSpace w = true

theorem paired_append {a b : JsString} (first : Paired a) : Paired (a ++ b) ↔ Paired b := by
  unfold Paired at *
  rw [List.count_append, Nat.even_add]
  simp [first]

theorem isSpace_ne_quote {w : CodeUnit} (space : isSpace w = true) : w ≠ unit '"' := by
  rintro rfl
  cases space

theorem paired_space {a : JsString} {w : CodeUnit} (space : isSpace w = true) :
    Paired (a ++ [w]) ↔ Paired a := by
  have last : [w].count (unit '"') = 0 :=
    List.count_eq_zero.mpr (by simpa using (isSpace_ne_quote space).symm)
  rw [Paired, List.count_append, last, Nat.add_zero, Paired]

theorem tokens_append_before {before : JsString} (ends : EndsBefore before) (b : JsString) :
    (tokenize (before ++ b)).tokens = (tokenize before).tokens ++ (tokenize b).tokens := by
  obtain ⟨paired, rfl | ⟨a, w, rfl, space⟩⟩ := ends
  · rfl
  · have inner : Paired a := (paired_space space).mp paired
    have alone := tokenize_append inner space []
    have whole := tokenize_append inner space b
    rw [List.append_assoc, List.singleton_append, whole, alone]
    simp [tokenize_scan, init, push]

theorem tokens_append_after {term after : JsString} (starts : StartsAfter term after) :
    (tokenize (term ++ after)).tokens = (tokenize term).tokens ++ (tokenize after).tokens := by
  obtain rfl | ⟨paired, w, b, rfl, space⟩ := starts
  · simp [tokenize_scan, init, push]
  · have skipped : tokenize ([w] ++ b) = tokenize b := tokenize_spaces (by simp [space]) b
    rw [tokenize_append paired space, ← skipped]
    rfl

/-- White space is in quotes only; `inQuote` is whether the text begins in one. -/
def unbroken : Bool → JsString → Bool
  | _, [] => true
  | inQuote, u :: rest =>
    if u = unit '"' then unbroken (!inQuote) rest
    else (inQuote || !isSpace u) && unbroken inQuote rest

/-- Quotes are not part of a text. -/
def unquoted (text : JsString) : JsString := text.filter fun u => u ≠ unit '"'

namespace Scan

theorem step_started {s : Scan} {u : CodeUnit} (started : s.started = true) (other : u ≠ unit '"')
    (within : (s.inQuote || !isSpace u) = true) :
    s.step [u] = { s with current := s.current ++ [u] } := by
  have quote : [u] ≠ js "\"" := fun same => other (List.cons.inj same).1
  have space : ¬(s.inQuote = false ∧ [u].any isSpace = true) := by
    rintro ⟨outside, white⟩
    simp only [List.any_cons, List.any_nil, Bool.or_false] at white
    simp [outside, white] at within
  unfold step
  rw [if_neg quote, if_neg space, if_neg (by simp [started])]
  simp [started]

/-- A term goes on as long as no white space is outside of quotes. -/
theorem scan_started {s : Scan} {text : JsString} (started : s.started = true)
    (term : unbroken s.inQuote text = true) :
    s.scan text =
      { s with current := s.current ++ unquoted text, inQuote := (s.scan text).inQuote } := by
  induction text generalizing s with
  | nil => simp [unquoted]
  | cons u text ih =>
    rw [scan_cons]
    by_cases quote : u = unit '"'
    · subst quote
      rw [unbroken, if_pos rfl] at term
      have stepped : (s.step [unit '"']).started = true := rfl
      have rest := ih stepped (by simpa [step_quote] using term)
      rw [rest, step_quote]
      simp [unquoted, started]
    · rw [unbroken, if_neg quote, Bool.and_eq_true] at term
      have first := step_started started quote term.1
      have stepped : (s.step [u]).started = true := by
        rw [first]
        exact started
      have rest := ih stepped (by rw [first]; exact term.2)
      rw [rest, first]
      simp [unquoted, quote]

end Scan

/-- The first code unit of a term, after a minus sign or without one. -/
theorem step_first {u : CodeUnit} {negated : Bool} (space : u ≠ unit '"' → isSpace u = false)
    (plain : negated = false → u ≠ unit '-') : (Scan.mk [] [] negated negated false).step [u] =
      ⟨[], unquoted [u], negated, true, decide (u = unit '"')⟩ := by
  by_cases quote : u = unit '"'
  · subst quote
    rfl
  · have other : [u] ≠ js "\"" := fun same => quote (List.cons.inj same).1
    have sign : ¬(negated = false ∧ [u] = js "-" ∧ ([] : JsString) = []) := by
      rintro ⟨positive, minus, -⟩
      exact plain positive (List.cons.inj minus).1
    unfold step
    rw [if_neg other, if_neg (by simp [space quote]), if_neg sign]
    simp [unquoted, quote]

/-- A term is what the loop is about after it. -/
theorem scan_term {term : JsString} {negated : Bool} (whole : unbroken false term = true)
    (plain : negated = false → term.head? ≠ some (unit '-')) (some_ : term ≠ []) :
    ∃ inQuote, (Scan.mk [] [] negated negated false).scan term =
      ⟨[], unquoted term, negated, true, inQuote⟩ := by
  cases term with
  | nil => exact absurd rfl some_
  | cons u rest =>
    have space : u ≠ unit '"' → isSpace u = false := by
      intro other
      rw [unbroken, if_neg other] at whole
      simpa using (Bool.and_eq_true_iff.mp whole).1
    have first := step_first space fun positive same => plain positive (by simp [same])
    have term : unbroken (decide (u = unit '"')) rest = true := by
      by_cases quote : u = unit '"'
      · simpa [unbroken, quote] using whole
      · rw [unbroken, if_neg quote] at whole
        simpa [quote] using (Bool.and_eq_true_iff.mp whole).2
    have split : unquoted [u] ++ unquoted rest = unquoted (u :: rest) := by
      simp [unquoted, ← List.filter_append]
    rw [scan_cons, first, scan_started rfl term, ← split]
    exact ⟨_, rfl⟩

/-- The sign of a term. -/
def sign (negated : Bool) : JsString := if negated then js "-" else []

theorem scan_sign (negated : Bool) :
    Scan.init.scan (sign negated) = Scan.mk [] [] negated negated false := by
  cases negated <;> rfl

theorem tokenize_signed {term : JsString} (negated : Bool) (whole : unbroken false term = true)
    (plain : negated = false → term.head? ≠ some (unit '-')) (text : unquoted term ≠ []) :
    (tokenize (sign negated ++ term)).tokens = [⟨unquoted term, negated⟩] := by
  have some_ : term ≠ [] := by
    rintro rfl
    exact text rfl
  obtain ⟨inQuote, scanned⟩ := scan_term whole plain some_
  rw [tokenize_scan, scan_append, scan_sign, scanned, push]
  simp [text]

/-- A term by itself, with or without a minus sign before it. -/
theorem tokenize_term {term : JsString} (whole : unbroken false term = true)
    (plain : term.head? ≠ some (unit '-')) (text : unquoted term ≠ []) :
    (tokenize term).tokens = [⟨unquoted term, false⟩] ∧
      (tokenize (unit '-' :: term)).tokens = [⟨unquoted term, true⟩] := by
  constructor
  · exact tokenize_signed false whole (fun _ => plain) text
  · exact tokenize_signed true whole (fun positive => by cases positive) text

namespace Scan

/-- A term that has begun is the next one, whatever follows it. -/
theorem scan_begun {s : Scan} (started : s.started = true) (text : s.current ≠ [])
    (rest : JsString) : ∃ more others,
      (s.scan rest).push.tokens = s.tokens ++ ⟨s.current ++ more, s.negated⟩ :: others := by
  have pushed : s.push.tokens = s.tokens ++ [⟨s.current, s.negated⟩] := if_pos ⟨started, text⟩
  induction rest generalizing s with
  | nil => exact ⟨[], [], by simp [pushed]⟩
  | cons u rest ih =>
    rw [scan_cons]
    by_cases quote : u = unit '"'
    · subst quote
      exact ih (s := s.step [unit '"']) rfl text (if_pos ⟨rfl, text⟩)
    · cases within : (s.inQuote || !isSpace u) with
      | true =>
        have stepped := step_started started quote within
        have longer : s.current ++ [u] ≠ [] := by simp
        obtain ⟨more, others, scanned⟩ :=
          ih (s := { s with current := s.current ++ [u] }) started longer (if_pos ⟨started, longer⟩)
        exact ⟨u :: more, others, by simpa [stepped] using scanned⟩
      | false =>
        simp only [Bool.or_eq_false_iff, Bool.not_eq_false'] at within
        rw [step_space within.1 within.2, after_scan, after_push, pushed]
        exact ⟨[], (init.scan rest).push.tokens, by simp [after]⟩

theorem step_quoted_started {s : Scan} (u : CodeUnit) :
    (s.step [u]).inQuote = true → (s.step [u]).started = true := by
  intro quoted
  unfold step at *
  split
  · rfl
  · split
    case isTrue outside =>
      simp [*, push] at quoted
    · split <;> rfl

/-- A quote begins a term. -/
theorem scan_quoted_started {s : Scan} (before : s.inQuote = true → s.started = true)
    (input : JsString) : (s.scan input).inQuote = true → (s.scan input).started = true := by
  induction input generalizing s with
  | nil => exact before
  | cons u input ih => exact ih (step_quoted_started u)

end Scan

/-! ## Rendering -/

/-- A term in quotes. -/
def render (t : RawToken) : JsString :=
  (if t.negated then js "-" else []) ++ js "\"" ++ t.text ++ js "\""

/-- The terms with a gap after each but the last. -/
def renderAll (gap : Nat → JsString) : List RawToken → JsString
  | [] => []
  | [t] => render t
  | t :: u :: rest => render t ++ gap 0 ++ renderAll (fun i => gap (i + 1)) (u :: rest)

/-- A term that may be put in quotes. -/
def RawToken.Quotable (t : RawToken) : Prop := t.text ≠ [] ∧ unit '"' ∉ t.text

variable {t : RawToken}

theorem paired_render (quotable : t.Quotable) : Paired (render t) := by
  have none : t.text.count (unit '"') = 0 := List.count_eq_zero.mpr quotable.2
  unfold Paired render
  rw [List.count_append, List.count_append, List.count_append, none]
  cases t.negated <;> decide

theorem tokenize_render (quotable : t.Quotable) : tokenize (render t) = ⟨[t], false⟩ := by
  obtain ⟨text, negated⟩ := t
  obtain ⟨some_, unquoted⟩ := quotable
  have opened : init.scan ((if negated then js "-" else []) ++ js "\"") =
      ⟨[], [], negated, true, true⟩ := by
    cases negated <;> rfl
  have closed : init.scan (render ⟨text, negated⟩) =
      ⟨[], text, negated, true, false⟩ := by
    unfold render
    rw [scan_append, scan_append, opened, scan_quoted _ rfl rfl unquoted]
    rfl
  rw [tokenize_scan, closed]
  simp [push, some_]

theorem tokenize_renderAll {ts : List RawToken} (quotable : ∀ t ∈ ts, t.Quotable)
    {gap : Nat → JsString} (gaps : ∀ i, gap i ≠ [] ∧ (gap i).all isSpace = true) :
    tokenize (renderAll gap ts) = ⟨ts, false⟩ := by
  induction ts generalizing gap with
  | nil => rfl
  | cons t ts ih =>
    obtain ⟨first, others⟩ := List.forall_mem_cons.mp quotable
    cases ts with
    | nil => exact tokenize_render first
    | cons u rest =>
      obtain ⟨some_, spaces⟩ := gaps 0
      obtain ⟨w, more, split⟩ := List.exists_cons_of_ne_nil some_
      rw [split, List.all_cons, Bool.and_eq_true] at spaces
      rw [renderAll, split, List.append_assoc, List.cons_append,
        tokenize_append (paired_render first) spaces.1, tokenize_spaces spaces.2,
        ih others fun i => gaps (i + 1), tokenize_render first]
      rfl

/-- Quoted terms are split into themselves, and a text whose quotes are paired is split apart from
what follows the next white space. -/
theorem tokenizer_inverts_rendering :
    (∀ (ts : List RawToken) (gap : Nat → JsString), (∀ t ∈ ts, t.Quotable) →
      (∀ i, gap i ≠ [] ∧ (gap i).all isSpace = true) →
      tokenize (renderAll gap ts) = ⟨ts, false⟩) ∧
    ∀ (a b : JsString) (w : CodeUnit), Paired a → isSpace w = true →
      tokenize (a ++ w :: b) =
        ⟨(tokenize a).tokens ++ (tokenize b).tokens, (tokenize b).unterminated⟩ := by
  refine ⟨?_, ?_⟩
  · intro ts gap quotable gaps
    exact tokenize_renderAll quotable gaps
  · intro a b w paired space
    exact tokenize_append paired space b

instance (t : RawToken) : Decidable t.Quotable :=
  inferInstanceAs (Decidable (t.text ≠ [] ∧ unit '"' ∉ t.text))

theorem tokenizer_inverts_rendering_mixed :
    tokenize (js "-\"a: b\"  \"-c\"  \"d\"") =
      ⟨[⟨js "a: b", true⟩, ⟨js "-c", false⟩, ⟨js "d", false⟩], false⟩ ∧
    tokenize (js "x\"y z\"" ++ unit ' ' :: js "-w \"v") =
      ⟨(tokenize (js "x\"y z\"")).tokens ++ (tokenize (js "-w \"v")).tokens,
        (tokenize (js "-w \"v")).unterminated⟩ := by
  refine ⟨?_, ?_⟩
  · apply tokenizer_inverts_rendering.1
      [⟨js "a: b", true⟩, ⟨js "-c", false⟩, ⟨js "d", false⟩] (fun _ => js "  ")
    · decide
    · intro i
      decide
  · exact tokenizer_inverts_rendering.2 _ _ _ ⟨1, by decide⟩ (by decide)

end Rsbtd.WebUi
