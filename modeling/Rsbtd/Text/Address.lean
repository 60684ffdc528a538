import Rsbtd.Bits.Positional
import Rsbtd.Text.Str

/-!
# Addresses as text

`str::parse::<IpAddr>` of the standard library, a recursive descent parser, and
the text `{}` writes for an address.  An address is its number, the first byte the
highest.
-/

namespace Rsbtd.Text

open Bits (digitsOf ofDigits)

inductive IpAddr where
  | v4 (addr : Fin (2 ^ 32))
  | v6 (addr : Fin (2 ^ 128))
deriving DecidableEq, Repr

/-- The addresses with a number, of which the low bits count. -/
def IpAddr.ofV4 (n : Nat) : IpAddr := .v4 (Fin.ofNat _ n)

def IpAddr.ofV6 (n : Nat) : IpAddr := .v6 (Fin.ofNat _ n)

/-! ## Formatting -/

/-- A number as `{:x}` formats it. -/
def hex (n : Nat) : Text := Nat.toDigits 16 n

def octetsText (addr : Nat) : Text := join '.' ((digitsOf 256 4 addr).map decimal)

def segments (addr : Nat) : List Nat := digitsOf 65536 8 addr

def segmentsText (segments : List Nat) : Text := join ':' (segments.map hex)

structure Span where
  start : Nat
  len : Nat
deriving DecidableEq, Repr

/-- The loop over the segments from the one with index `i` on. -/
def Span.scan (i : Nat) (longest current : Span) : List Nat → Span
  | [] => longest
  | segment :: rest =>
    if segment = 0 then
      let current : Span := ⟨if current.len = 0 then i else current.start, current.len + 1⟩
      scan (i + 1) (if longest.len < current.len then current else longest) current rest
    else scan (i + 1) longest ⟨0, 0⟩ rest

/-- The first of the longest spans of zeros. -/
def zeroes (segments : List Nat) : Span := Span.scan 0 ⟨0, 0⟩ ⟨0, 0⟩ segments

def ipv6Text (addr : Nat) : Text :=
  -- An address that maps an IPv4 address shows it.
  if addr / 2 ^ 32 = 0xffff then "::ffff:".toList ++ octetsText (addr % 2 ^ 32)
  else
    let span := zeroes (segments addr)
    if 1 < span.len then
      segmentsText ((segments addr).take span.start) ++ ':' :: ':' ::
        segmentsText ((segments addr).drop (span.start + span.len))
    else segmentsText (segments addr)

def IpAddr.text : IpAddr → Text
  | .v4 addr => octetsText addr
  | .v6 addr => ipv6Text addr

/-! ## Parsing -/

/-- One of the four numbers of an IPv4 address: no zero before another digit, at most 255. -/
def octet (s : Text) : Option (Nat × Text) :=
  let digits := s.takeWhile Char.isDigit
  if digits.length = 0 ∨ 3 < digits.length ∨ (s.head? = some '0' ∧ 1 < digits.length) ∨
    255 < Nat.ofDigitChars 10 digits 0 then none
  else some (Nat.ofDigitChars 10 digits 0, s.drop digits.length)

/-- The value of a hexadecimal digit. -/
def hexDigit (c : Char) : Option Nat :=
  if c.isDigit = true then some (c.toNat - '0'.toNat)
  else if 'a' ≤ c ∧ c ≤ 'f' then some (c.toNat - 'a'.toNat + 10)
  else if 'A' ≤ c ∧ c ≤ 'F' then some (c.toNat - 'A'.toNat + 10)
  else none

def isHexDigit (c : Char) : Bool := (hexDigit c).isSome

def hexValue (digits : Text) : Nat := digits.foldl (fun n c => 16 * n + (hexDigit c).getD 0) 0

def group (s : Text) : Option (Nat × Text) :=
  let digits := s.takeWhile isHexDigit
  if digits.length = 0 ∨ 4 < digits.length then none
  else some (hexValue digits, s.drop digits.length)

/-- The separator stands before every item but the first. -/
def separated {α : Type} (c : Char) (index : Nat) (inner : Text → Option α) (s : Text) : Option α :=
  if index = 0 then inner s else (stripPrefix c s).bind inner

def ipv4 (s : Text) : Option (Nat × Text) := do
  let (one, s) ← separated '.' 0 octet s
  let (two, s) ← separated '.' 1 octet s
  let (three, s) ← separated '.' 2 octet s
  let (four, s) ← separated '.' 3 octet s
  return (ofDigits 256 [one, two, three, four], s)

/-- Reads up to `left` groups more, `index` being read: the groups, whether the last two are an
IPv4 address, and the rest. -/
def groups (index : Nat) : Nat → Text → List Nat × Bool × Text
  | 0, s => ([], false, s)
  | left + 1, s =>
    match if 0 < left then separated ':' index ipv4 s else none with
    | some (addr, rest) => ([addr / 65536, addr % 65536], true, rest)
    | none =>
      match separated ':' index group s with
      | some (first, rest) =>
        let (others, embedded, rest) := groups (index + 1) left rest
        (first :: others, embedded, rest)
      | none => ([], false, s)

def ipv6 (s : Text) : Option (Nat × Text) :=
  match groups 0 8 s with
  | (head, embedded, rest) =>
    if head.length = 8 then some (ofDigits 65536 head, rest)
    else if embedded then none
    else
      match rest with
      | ':' :: ':' :: tail =>
        match groups 0 (8 - (head.length + 1)) tail with
        | (tail, _, rest) =>
          some (ofDigits 65536
            (head ++ List.replicate (8 - head.length - tail.length) 0 ++ tail), rest)
      | _ => none

/-- `str::parse::<Ipv6Addr>` is `Ok`. -/
def isIpv6 (s : Text) : Bool := (ipv6 s).any fun (_, rest) => rest.isEmpty

def IpAddr.read (s : Text) : Option (IpAddr × Text) :=
  ((ipv4 s).map fun (addr, rest) => (.ofV4 addr, rest)).or
    ((ipv6 s).map fun (addr, rest) => (.ofV6 addr, rest))

/-- `str::parse::<IpAddr>`: nothing may be left. -/
def IpAddr.parse (s : Text) : Option IpAddr :=
  match IpAddr.read s with
  | some (addr, []) => some addr
  | _ => none

section Lemmas

variable {n addr index left : Nat} {s rest : Text} {c : Char} {ds gs : List Nat}

/-- No character of the set stands at the start. -/
def Stops (digit : Char → Bool) (s : Text) : Prop := ∀ c ∈ s.head?, digit c = false

theorem takeWhile_append {digit : Char → Bool} (digits : ∀ c ∈ s, digit c = true)
    (stops : Stops digit rest) : (s ++ rest).takeWhile digit = s := by
  rw [List.takeWhile_append_of_pos digits]
  cases rest with
  | nil => simp
  | cons c rest => simp [stops c (by simp)]

/-! ### Numbers -/

theorem octet_decimal (small : n < 256) (stops : Stops Char.isDigit rest) :
    octet (decimal n ++ rest) = some (n, rest) := by
  have digits : (decimal n ++ rest).takeWhile Char.isDigit = decimal n :=
    takeWhile_append (fun _ => decimal_digit) stops
  -- At most three digits, and no leading zero.
  have shape : ∀ k : Fin 256, (decimal k).length ≠ 0 ∧ (decimal k).length ≤ 3 ∧
      ((decimal k).head? = some '0' → (decimal k).length ≤ 1) := by decide +kernel
  obtain ⟨some_, short, canonical⟩ : (decimal n).length ≠ 0 ∧ (decimal n).length ≤ 3 ∧
      ((decimal n).head? = some '0' → (decimal n).length ≤ 1) := shape ⟨n, small⟩
  have value : Nat.ofDigitChars 10 (decimal n) 0 = n :=
    Nat.ofDigitChars_toDigits (by decide) (by decide)
  have head : (decimal n ++ rest).head? = (decimal n).head? := by
    rw [List.head?_append_of_ne_nil _ decimal_ne_nil]
  rw [octet, digits, head, value]
  simp only [List.drop_left]
  rw [if_neg]
  rintro (none_ | long | ⟨zero, long⟩ | large)
  · exact some_ none_
  · omega
  · have := canonical zero
    omega
  · omega

theorem hexDigit_digitChar {d : Nat} (small : d < 16) : hexDigit d.digitChar = some d := by
  have each : ∀ k : Fin 16, hexDigit (Nat.digitChar k) = some k.val := by decide
  exact each ⟨d, small⟩

theorem isHexDigit_hex : ∀ c ∈ hex n, isHexDigit c = true := by
  induction n using Nat.strongRecOn with
  | ind n ih =>
    -- The last digit, and the digits of the quotient before it.
    rw [hex, Nat.toDigits_eq_if (by decide)]
    intro c listed
    split at listed
    · rename_i small
      rw [List.mem_singleton] at listed
      rw [listed, isHexDigit, hexDigit_digitChar small, Option.isSome_some]
    · rw [List.mem_append, List.mem_singleton] at listed
      cases listed with
      | inl higher => exact ih (n / 16) (by omega) c higher
      | inr lowest =>
        rw [lowest, isHexDigit, hexDigit_digitChar (by omega), Option.isSome_some]

theorem hexValue_concat : hexValue (s ++ [c]) = 16 * hexValue s + (hexDigit c).getD 0 := by
  rw [hexValue, List.foldl_append]
  rfl

theorem hexValue_hex : hexValue (hex n) = n := by
  induction n using Nat.strongRecOn with
  | ind n ih =>
    rw [hex, Nat.toDigits_eq_if (by decide)]
    split
    · rename_i small
      rw [hexValue, List.foldl_cons, List.foldl_nil, hexDigit_digitChar small]
      simp
    · rw [hexValue_concat, hexDigit_digitChar (by omega)]
      have higher : hexValue (Nat.toDigits 16 (n / 16)) = n / 16 := ih (n / 16) (by omega)
      rw [higher, Option.getD_some]
      omega

theorem group_hex (small : n < 65536) (stops : Stops isHexDigit rest) :
    group (hex n ++ rest) = some (n, rest) := by
  have digits : (hex n ++ rest).takeWhile isHexDigit = hex n :=
    takeWhile_append isHexDigit_hex stops
  have some_ : (hex n).length ≠ 0 := fun none_ =>
    Nat.toDigits_ne_nil (List.length_eq_zero_iff.mp none_)
  have short : (hex n).length ≤ 4 := (Nat.length_toDigits_le_iff (by decide) (by decide)).mpr small
  rw [group, digits, hexValue_hex]
  simp only [List.drop_left]
  rw [if_neg (by omega)]

theorem octet_stops (stops : Stops Char.isDigit s) : octet s = none := by
  have none_ : s.takeWhile Char.isDigit = [] := takeWhile_append (s := []) (by simp) stops
  rw [octet, none_]
  rfl

theorem group_stops (stops : Stops isHexDigit s) : group s = none := by
  have none_ : s.takeWhile isHexDigit = [] := takeWhile_append (s := []) (by simp) stops
  rw [group, none_]
  rfl

theorem octet_suffix (read : octet s = some (n, rest)) : ∃ k, rest = s.drop k := by
  rw [octet, Option.ite_none_left_eq_some, Option.some.injEq] at read
  exact ⟨_, (Prod.mk.inj read.2).2.symm⟩

/-! ### IPv4 -/

theorem join_cons {parts : List Text} : join c (s :: parts) = s ++ parts.flatMap (c :: ·) := by
  induction parts generalizing s with
  | nil => simp [join]
  | cons next parts ih =>
    have step : join c (s :: next :: parts) = s ++ c :: join c (next :: parts) := by
      simp [join, List.intercalate]
    rw [step, ih, List.flatMap_cons]
    rfl

@[simp] theorem separated_zero {α : Type} {inner : Text → Option α} :
    separated c 0 inner s = inner s := rfl

theorem separated_next {α : Type} {inner : Text → Option α} (later : 0 < index) :
    separated c index inner (c :: s) = inner s := by
  rw [separated, if_neg (by omega), stripPrefix_cons, Option.bind_some]

theorem ipv4_octetsText (fits : addr < 2 ^ 32) (stops : Stops Char.isDigit rest) :
    ipv4 (octetsText addr ++ rest) = some (addr, rest) := by
  obtain ⟨one, two, three, four, digits⟩ : ∃ one two three four,
      digitsOf 256 4 addr = [one, two, three, four] := ⟨_, _, _, _, rfl⟩
  have small : ∀ d ∈ digitsOf 256 4 addr, d < 256 := Bits.digitsOf_lt (by decide)
  have value : ofDigits 256 (digitsOf 256 4 addr) = addr := Bits.ofDigits_digitsOf fits
  rw [digits] at small value
  have dotted : ∀ text, Stops Char.isDigit ('.' :: text) := by
    intro text c head
    cases head
    rfl
  rw [octetsText, digits]
  simp only [List.map_cons, List.map_nil, join_cons, List.flatMap_cons, List.flatMap_nil,
    List.append_assoc, List.cons_append, List.nil_append]
  simp (disch := decide) only [ipv4, separated_zero, separated_next, Option.bind_eq_bind,
    Option.bind_some, octet_decimal (small one (by simp)) (dotted _),
    octet_decimal (small two (by simp)) (dotted _),
    octet_decimal (small three (by simp)) (dotted _),
    octet_decimal (small four (by simp)) stops, value]
  rfl

theorem ipv4_stops (stops : Stops Char.isDigit s) : ipv4 s = none := by
  rw [ipv4, separated_zero, octet_stops stops]
  rfl

/-- Text without a dot has no IPv4 address. -/
theorem ipv4_absent (absent : '.' ∉ s) : ipv4 s = none := by
  cases read : octet s with
  | none => simp [ipv4, separated, read]
  | some first =>
    obtain ⟨n, rest⟩ := first
    obtain ⟨k, rfl⟩ := octet_suffix read
    have stuck : stripPrefix '.' (s.drop k) = none := by
      rw [Option.eq_none_iff_forall_ne_some]
      intro tail stripped
      have kept : '.' ∈ s.drop k := by simp [stripPrefix_eq_some.mp stripped]
      exact absent (List.mem_of_mem_drop kept)
    simp [ipv4, separated, read, stuck]

/-! ### Groups -/

/-- Where the groups of a text end: with the text, or before `::`. -/
def Ends (rest : Text) : Prop := rest = [] ∨ ∃ tail, rest = ':' :: ':' :: tail

theorem Ends.stops (ends : Ends rest) : Stops isHexDigit rest := by
  intro c head
  cases ends with
  | inl none_ => simp [none_] at head
  | inr more =>
    obtain ⟨tail, rfl⟩ := more
    cases head
    rfl

/-- No further group can be read there. -/
theorem Ends.separated (ends : Ends rest) : separated ':' index group rest = none := by
  cases Nat.eq_zero_or_pos index with
  | inl first => rw [first, separated_zero, group_stops ends.stops]
  | inr later =>
    cases ends with
    | inl none_ => rw [none_, Text.separated, if_neg (by omega)]; rfl
    | inr more =>
      obtain ⟨tail, rfl⟩ := more
      rw [separated_next later]
      exact group_stops fun c head => by cases head; rfl

theorem separated_ipv4_absent (absent : '.' ∉ s) : separated ':' index ipv4 s = none := by
  cases Nat.eq_zero_or_pos index with
  | inl first => rw [first, separated_zero, ipv4_absent absent]
  | inr later =>
    rw [separated, if_neg (by omega)]
    cases stripped : stripPrefix ':' s with
    | none => rfl
    | some tail =>
      rw [stripPrefix_eq_some] at stripped
      subst stripped
      exact ipv4_absent fun listed => absent (List.mem_cons_of_mem _ listed)

theorem not_mem_hex : '.' ∉ hex n := by
  intro listed
  have := isHexDigit_hex _ listed
  cases this

/-- The groups after the first, each behind its separator. -/
def groupsTail (gs : List Nat) : Text := gs.flatMap fun g => ':' :: hex g

theorem segmentsText_cons {g : Nat} : segmentsText (g :: gs) = hex g ++ groupsTail gs := by
  rw [segmentsText, List.map_cons, join_cons, groupsTail, List.flatMap_map]

theorem not_mem_groupsTail : '.' ∉ groupsTail gs := by
  simp [groupsTail, not_mem_hex]

theorem not_mem_segmentsText : '.' ∉ segmentsText gs := by
  cases gs with
  | nil => simp [segmentsText]
  | cons g gs => simp [segmentsText_cons, not_mem_hex, not_mem_groupsTail]

theorem groups_ends (ends : Ends rest) (absent : '.' ∉ rest) :
    groups index left rest = ([], false, rest) := by
  cases left with
  | zero => rfl
  | succ left => simp [groups, separated_ipv4_absent absent, ends.separated]

/-- One group is read and the others follow. -/
theorem groups_step {g : Nat} {inner : Text} (absent : '.' ∉ s)
    (read : separated ':' index group s = some (g, inner))
    (others : groups (index + 1) left inner = (gs, false, rest)) :
    groups index (left + 1) s = (g :: gs, false, rest) := by
  simp [groups, separated_ipv4_absent absent, read, others]

theorem groups_tail (bounded : ∀ g ∈ gs, g < 65536) (ends : Ends rest) (absent : '.' ∉ rest)
    (later : 0 < index) (room : gs.length ≤ left) :
    groups index left (groupsTail gs ++ rest) = (gs, false, rest) := by
  induction gs generalizing index left with
  | nil => exact groups_ends ends absent
  | cons g gs ih =>
    cases left with
    | zero => simp at room
    | succ left =>
      have others : ∀ h ∈ gs, h < 65536 := fun h listed => bounded h (List.mem_cons_of_mem _ listed)
      have tail : groups (index + 1) left (groupsTail gs ++ rest) = (gs, false, rest) :=
        ih others (by omega) (by simpa using room)
      have text : groupsTail (g :: gs) ++ rest = ':' :: (hex g ++ (groupsTail gs ++ rest)) := by
        simp [groupsTail]
      have stops : Stops isHexDigit (groupsTail gs ++ rest) := by
        cases gs with
        | nil => exact ends.stops
        | cons => intro c head; cases head; rfl
      refine groups_step ?_ ?_ tail
      · simp [absent, not_mem_groupsTail]
      · rw [text, separated_next later]
        exact group_hex (bounded g List.mem_cons_self) stops

theorem groups_segmentsText (bounded : ∀ g ∈ gs, g < 65536) (ends : Ends rest)
    (absent : '.' ∉ rest) (room : gs.length ≤ left) :
    groups 0 left (segmentsText gs ++ rest) = (gs, false, rest) := by
  cases gs with
  | nil => exact groups_ends ends absent
  | cons g gs =>
    cases left with
    | zero => simp at room
    | succ left =>
      have others : ∀ h ∈ gs, h < 65536 := fun h listed => bounded h (List.mem_cons_of_mem _ listed)
      have tail : groups 1 left (groupsTail gs ++ rest) = (gs, false, rest) :=
        groups_tail others ends absent Nat.one_pos (by simpa using room)
      have stops : Stops isHexDigit (groupsTail gs ++ rest) := by
        cases gs with
        | nil => exact ends.stops
        | cons => intro c head; cases head; rfl
      refine groups_step ?_ ?_ tail
      · simp [absent, not_mem_segmentsText]
      · rw [separated_zero, segmentsText_cons, List.append_assoc]
        exact group_hex (bounded g List.mem_cons_self) stops

/-! ### IPv6 -/

theorem ipv6_segmentsText (bounded : ∀ g ∈ gs, g < 65536) (eight : gs.length = 8) :
    ipv6 (segmentsText gs) = some (ofDigits 65536 gs, []) := by
  have read : groups 0 8 (segmentsText gs ++ []) = (gs, false, []) :=
    groups_segmentsText bounded (.inl rfl) (by simp) (by omega)
  rw [List.append_nil] at read
  simp [ipv6, read, eight]

theorem ipv6_compressed {head tail : List Nat} (bounded : ∀ g ∈ head ++ tail, g < 65536)
    (short : head.length + tail.length < 8) :
    ipv6 (segmentsText head ++ ':' :: ':' :: segmentsText tail) = some (ofDigits 65536
      (head ++ List.replicate (8 - head.length - tail.length) 0 ++ tail), []) := by
  have front : groups 0 8 (segmentsText head ++ ':' :: ':' :: segmentsText tail) =
      (head, false, ':' :: ':' :: segmentsText tail) :=
    groups_segmentsText (fun g listed => bounded g (List.mem_append_left _ listed))
      (.inr ⟨_, rfl⟩) (by simp [not_mem_segmentsText]) (by omega)
  have back : groups 0 (8 - (head.length + 1)) (segmentsText tail ++ []) = (tail, false, []) :=
    groups_segmentsText (fun g listed => bounded g (List.mem_append_right _ listed)) (.inl rfl)
      (by simp) (by omega)
  rw [List.append_nil] at back
  simp only [ipv6, front, back]
  rw [if_neg (by omega), if_neg (by decide)]

theorem ipv6_mapped (fits : addr < 2 ^ 32) :
    ipv6 ("::ffff:".toList ++ octetsText addr) = some (0xffff * 2 ^ 32 + addr, []) := by
  have dotted : ipv4 (octetsText addr ++ []) = some (addr, []) :=
    ipv4_octetsText fits fun c head => by cases head
  rw [List.append_nil] at dotted
  have colon : ∀ text, Stops Char.isDigit (':' :: text) ∧ Stops isHexDigit (':' :: text) :=
    fun text => ⟨fun c head => by cases head; rfl, fun c head => by cases head; rfl⟩
  -- No group stands before the two colons, and the tail has the embedded address.
  have nothing : groups 0 8 (':' :: ':' :: ("ffff:".toList ++ octetsText addr)) =
      ([], false, ':' :: ':' :: ("ffff:".toList ++ octetsText addr)) := by
    simp [groups, ipv4_stops (colon _).1, group_stops (colon _).2]
  have letter : ipv4 ("ffff:".toList ++ octetsText addr) = none :=
    ipv4_stops fun c head => by cases head; rfl
  have first : group ("ffff:".toList ++ octetsText addr) = some (0xffff, ':' :: octetsText addr) :=
    group_hex (n := 0xffff) (by decide) (colon _).2
  have embedded : groups 1 6 (':' :: octetsText addr) =
      ([addr / 65536, addr % 65536], true, []) := by
    simp [groups, separated_next, dotted]
  have read : groups 0 7 ("ffff:".toList ++ octetsText addr) =
      ([0xffff, addr / 65536, addr % 65536], true, []) := by
    rw [groups]
    simp only [separated_zero, letter, first, embedded, ite_self]
  have value : ofDigits 65536 [0, 0, 0, 0, 0, 0xffff, addr / 65536, addr % 65536] =
      0xffff * 2 ^ 32 + addr := by
    simp only [ofDigits, List.foldl_cons, List.foldl_nil]
    omega
  change ipv6 (':' :: ':' :: ("ffff:".toList ++ octetsText addr)) = _
  rw [ipv6, nothing]
  simp only [List.length_nil]
  rw [if_neg (by decide), if_neg (by decide), read, ← value]
  rfl

/-! ### The span of zeros -/

/-- The span is inside the list and only zeros are in it. -/
def Span.Zero (segments : List Nat) (span : Span) : Prop :=
  span.start + span.len ≤ segments.length ∧
    ∀ i, span.start ≤ i → i < span.start + span.len → segments[i]? = some 0

theorem Span.scan_zero {done todo : List Nat} {longest current : Span}
    (kept : longest.Zero (done ++ todo)) (running : current.Zero (done ++ todo))
    (reaches : current.len ≠ 0 → current.start + current.len = done.length) :
    (Span.scan done.length longest current todo).Zero (done ++ todo) := by
  induction todo generalizing done longest current with
  | nil => exact kept
  | cons segment todo ih =>
    have shifted : done ++ segment :: todo = (done ++ [segment]) ++ todo := by simp
    have next : done.length + 1 = (done ++ [segment]).length := by simp
    rw [Span.scan]
    by_cases zero : segment = 0
    · rw [if_pos zero, next]
      rw [shifted] at kept running ⊢
      -- The running span takes the segment in, or starts at it.
      have grown : Span.Zero (done ++ [segment] ++ todo)
          ⟨if current.len = 0 then done.length else current.start, current.len + 1⟩ := by
        refine ⟨?_, fun i after below => ?_⟩
        · simp only [List.length_append, List.length_singleton]
          split <;> omega
        · simp only at after below
          by_cases last : i = done.length
          · subst last
            simp [zero]
          · split at after
            · split at below <;> omega
            · rename_i some_
              rw [if_neg some_] at below
              exact running.2 i after (by have := reaches some_; omega)
      have best : Span.Zero (done ++ [segment] ++ todo)
          (if longest.len < current.len + 1 then
            ⟨if current.len = 0 then done.length else current.start, current.len + 1⟩
          else longest) := by
        split
        · exact grown
        · exact kept
      refine ih best grown fun _ => ?_
      simp only [List.length_append, List.length_singleton]
      split <;> omega
    · -- A segment that is not zero ends the running span.
      rw [if_neg zero, next]
      rw [shifted] at kept running ⊢
      exact ih kept ⟨by simp, fun i from_ below => by simp at below⟩ (fun some_ => absurd rfl some_)

theorem zeroes_zero (gs : List Nat) : (zeroes gs).Zero gs := by
  have nothing : (⟨0, 0⟩ : Span).Zero ([] ++ gs) :=
    ⟨by simp, fun i after below => by simp at below⟩
  exact Span.scan_zero nothing nothing fun some_ => absurd rfl some_

/-- A list with a span of zeros is what stands around them. -/
theorem Span.Zero.split {span : Span} (zero : span.Zero gs) :
    gs.take span.start ++ List.replicate span.len 0 ++ gs.drop (span.start + span.len) = gs := by
  have middle : (gs.drop span.start).take span.len = List.replicate span.len 0 := by
    apply List.ext_getElem?
    intro i
    rw [List.getElem?_take, List.getElem?_drop, List.getElem?_replicate]
    split
    · exact zero.2 _ (by omega) (by omega)
    · rfl
  rw [← middle, ← List.drop_drop, List.append_assoc, List.take_append_drop,
    List.take_append_drop]

theorem ipv6_ipv6Text (fits : addr < 2 ^ 128) : ipv6 (ipv6Text addr) = some (addr, []) := by
  have bounded : ∀ g ∈ segments addr, g < 65536 := Bits.digitsOf_lt (by decide)
  have eight : (segments addr).length = 8 := Bits.length_digitsOf
  have value : ofDigits 65536 (segments addr) = addr := Bits.ofDigits_digitsOf fits
  rw [ipv6Text]
  -- The three ways to write an address: embedded, compressed, and in full.
  by_cases mapped : addr / 2 ^ 32 = 0xffff
  · rw [if_pos mapped, ipv6_mapped (Nat.mod_lt _ (by decide)), ← mapped]
    congr 2
    omega
  · rw [if_neg mapped]
    simp only
    by_cases some_ : 1 < (zeroes (segments addr)).len
    · rw [if_pos some_]
      have zero := zeroes_zero (segments addr)
      generalize zeroes (segments addr) = span at zero some_
      have inside := zero.1
      rw [ipv6_compressed]
      · -- As many zeros are put back as were left out.
        have gap : 8 - ((segments addr).take span.start).length -
            ((segments addr).drop (span.start + span.len)).length = span.len := by
          rw [List.length_take, List.length_drop, eight]
          omega
        rw [gap, zero.split, value]
      · intro g listed
        rw [List.mem_append] at listed
        cases listed with
        | inl early => exact bounded g (List.mem_of_mem_take early)
        | inr late => exact bounded g (List.mem_of_mem_drop late)
      · rw [List.length_take, List.length_drop, eight]
        omega
    · rw [if_neg some_, ipv6_segmentsText bounded eight, value]

theorem ipv4_ipv6Text : ipv4 (ipv6Text addr) = none := by
  rw [ipv6Text]
  split
  · exact ipv4_stops fun c head => by cases head; rfl
  · simp only
    split
    · exact ipv4_absent (by simp [not_mem_segmentsText])
    · exact ipv4_absent not_mem_segmentsText

/-- What is written for an address is read back. -/
theorem parse_text (addr : IpAddr) : IpAddr.parse addr.text = some addr := by
  cases addr with
  | v4 addr =>
    have read : ipv4 (octetsText addr ++ []) = some (addr.val, []) :=
      ipv4_octetsText addr.isLt fun c head => by cases head
    rw [List.append_nil] at read
    simp [IpAddr.parse, IpAddr.read, IpAddr.ofV4, IpAddr.text, read]
  | v6 addr =>
    have read := ipv6_ipv6Text addr.isLt
    simp [IpAddr.parse, IpAddr.read, IpAddr.ofV6, IpAddr.text, ipv4_ipv6Text, read]

example : ["10.0.0.1", "::", "::1", "1::", "2001:db8::8:800:200c:417a", "::ffff:10.0.0.1",
    "1:0:3:4:5:6:7:8"].all (fun s =>
      (IpAddr.parse s.toList).map IpAddr.text = some s.toList) = true := by
  decide +kernel

end Lemmas

end Rsbtd.Text
